import EnvInject.Proofs.Replacement

/-!
# A replacement in any tree

Between a scan and its replacement the tree may have changed in any way, and two records may lead to
one file. `Pass` follows a replacement record by record, each in the tree that the records before it
have left: a record is written (`Rewrites`), or the pass ends with it (`Stops`). Whatever the tree,
a replacement is such a pass (`fillFiles_pass`). It needs only that the tokens of a record are in
order, which holds of what a scan records (`Scan.exists_tokens_eq`).
-/

namespace EnvInject

open Placeholder

/-- `Pass values tree records written final failure`: the records are written in order from `tree`
on, up to the first that stops the pass. -/
inductive Pass (values : String → Option String) :
    FileTree → List FileRecord → List FileRecord → FileTree → Option Failure → Prop
  | done {tree : FileTree} : Pass values tree [] [] tree none
  | stopped {tree : FileTree} {record : FileRecord} {rest : List FileRecord} {failure : Failure}
    (stops : Stops tree record failure) :
    Pass values tree (record :: rest) [] tree (some failure)
  | written {tree next final : FileTree} {record : FileRecord} {rest written : List FileRecord}
    {contents : Bytes} {failure : Option Failure}
    (rewrites : Rewrites values tree record contents next)
    (later : Pass values next rest written final failure) :
    Pass values tree (record :: rest) (record :: written) final failure

variable {values : String → Option String} {tree final : FileTree}
  {records written : List FileRecord} {failure : Option Failure}

/-- Records whose tokens are in order are written in one pass. -/
theorem fillFiles_pass (values : String → Option String) (tree : FileTree)
    (ordered : ∀ record ∈ records, ∃ bound, InOrder bound 0 record.tokens) :
    Pass values tree records (fillFiles values tree records).written
      (fillFiles values tree records).tree (fillFiles values tree records).failure := by
  induction records generalizing tree with
  | nil => exact .done
  | cons record rest ih =>
    obtain ⟨bound, inOrder⟩ := ordered record List.mem_cons_self
    have later := fun next =>
      ih next fun other member => ordered other (List.mem_cons_of_mem _ member)
    rcases fillFile_step values tree inOrder with ⟨failure, step, stops⟩ | ⟨file, step, rewrites⟩
    · simp only [fillFiles, step]
      exact .stopped stops
    · simp only [fillFiles, step]
      exact .written rewrites (later file.tree)

/-! ## What every pass keeps -/

/-- A pass ends without a failure exactly if it has written all records. -/
theorem Pass.failure_eq_none_iff (pass : Pass values tree records written final failure) :
    failure = none ↔ written = records := by
  induction pass with
  | done => simp
  | stopped stops => simp
  | written rewrites later ih => simp [ih]

theorem Pass.written_prefix (pass : Pass values tree records written final failure) :
    written <+: records := by
  induction pass with
  | done => exact List.prefix_rfl
  | stopped stops => exact List.nil_prefix
  | written rewrites later ih => exact List.cons_prefix_cons.2 ⟨rfl, ih⟩

theorem Pass.not_disordered (pass : Pass values tree records written final failure) (path : Path) :
    failure ≠ some (.disordered path) := by
  induction pass with
  | done => simp
  | stopped stops => cases stops <;> simp
  | written rewrites later ih => exact ih

/-! ## What a scan records -/

namespace Scan

variable {before : FileTree} {selected : List FileRecord} {found : Scan}

/-- The tokens of a record are those of some contents, in whatever tree it was scanned. -/
theorem exists_tokens_eq {env : Environment} (scanned : scan before env selected = .ok found) :
    ∀ record ∈ found.files, ∃ contents, record.tokens = tokens contents := by
  intro record member
  rw [files_eq_of_scan scanned] at member
  obtain ⟨-, unscanned, given, rfl⟩ := mem_holders.1 member
  obtain ⟨contents, reads⟩ := FileTree.read_of_canRead (canRead_of_scan scanned unscanned given)
  exact ⟨contents, FileTree.tokensAt_of_read reads⟩

end Scan

/-! ## The replacement of a scan -/

theorem replace_pass {before : FileTree} {env : Environment} {selected : List FileRecord}
    {found : Scan} (scanned : scan before env selected = .ok found)
    (set : found.checklist.missing = []) (tree : FileTree) :
    Pass found.checklist.value tree found.files (replace tree found).written
      (replace tree found).tree (replace tree found).failure := by
  rw [replace, Scan.validate_eq_ok_iff.2 set]
  refine fillFiles_pass _ tree fun record member => ?_
  obtain ⟨contents, same⟩ := Scan.exists_tokens_eq scanned record member
  exact ⟨contents.length, by rw [same]; exact tokens_inOrder contents⟩

/-- Whatever became of the tree since a scan, its replacement is a pass over the records of the scan
if no variable is missing, and does nothing otherwise. It never finds the tokens of a file out of
order. -/
theorem replace_passes {before : FileTree} {selected : List FileRecord} {found : Scan}
    (scanned : scan before (.ofFunction values) selected = .ok found) (tree : FileTree) :
    let replacement := replace tree found
    (∀ path, replacement.failure ≠ some (.disordered path)) ∧
      (found.checklist.missing ≠ [] →
        replacement.failure = some (.missingVariables found.checklist.missing) ∧
          replacement.written = [] ∧ replacement.tree = tree) ∧
      (found.checklist.missing = [] →
        Pass found.checklist.value tree found.files replacement.written replacement.tree
            replacement.failure ∧
          replacement.written <+: found.files ∧
          ∀ record ∈ found.files, ∀ token ∈ record.tokens,
            (found.checklist.value token.name).isSome = true ∧
              found.checklist.value token.name = values token.name) ∧
      (replacement.failure = none → replacement.result found =
        .ok ⟨found.fileCount, found.occurrenceCount, found.checklist.size⟩) ∧
      ∀ failure, replacement.failure = some failure →
        replacement.result found = .error failure := by
  intro replacement
  have isError : ∀ failure, replacement.failure = some failure →
      replacement.result found = .error failure := by
    intro failure fails
    rw [Replacement.result, fails]
  by_cases missing : found.checklist.missing = []
  · have pass := replace_pass scanned missing tree
    have values_eq : ∀ record ∈ found.files, ∀ token ∈ record.tokens,
        (found.checklist.value token.name).isSome = true ∧
          found.checklist.value token.name = values token.name := by
      intro record member token inRecord
      obtain ⟨same, unset_iff⟩ := Scan.value_of_scan scanned record member token inRecord
      rw [missing] at unset_iff
      refine ⟨?_, same⟩
      rw [same, Option.isSome_iff_ne_none]
      exact fun unset => List.not_mem_nil (unset_iff.2 unset)
    refine ⟨pass.not_disordered, fun some => absurd missing some,
      fun _ => ⟨pass, pass.written_prefix, values_eq⟩, fun ends => ?_, isError⟩
    rw [Replacement.result, ends, pass.failure_eq_none_iff.1 ends]
    rfl
  · have invalid := Scan.validate_of_missing missing
    have stays : replacement =
        ⟨tree, [], [], some (.missingVariables found.checklist.missing)⟩ := by
      simp only [replacement, replace, invalid]
    refine ⟨?_, fun _ => ?_, fun none => absurd none missing, ?_, isError⟩
    · simp [stays]
    · simp [stays]
    · simp [stays]

/-- One file was edited outside of its placeholder and is written; the next was edited in front of
it and stops the pass before the third. -/
theorem replace_passes_edited :
    let treeOf (first second : Bytes) : FileTree :=
      ⟨[⟨.directory [([0x61], 1), ([0x62], 2), ([0x63], 3)], 0o755⟩, ⟨.file first, 0o644⟩,
        ⟨.file second, 0o644⟩, ⟨.file (marker ++ [0x41]), 0o644⟩], [0]⟩
    let token := marker ++ [0x41]
    let tree := treeOf (token ++ [0x3B]) (0x3B :: token)
    let selected := [[0x61], [0x62], [0x63]].map FileRecord.ofPath
    ∃ found, scan (treeOf token token) (.ofFunction fun _ => some "x") selected = .ok found ∧
      found.checklist.missing = [] ∧
      Pass found.checklist.value tree found.files (replace tree found).written
        (replace tree found).tree (replace tree found).failure ∧
      (replace tree found).failure = some (.changed [0x62]) ∧
      (replace tree found).tree = treeOf [0x78, 0x3B] (0x3B :: token) := by
  intro treeOf token tree selected
  have scanned := @Scan.scan_of_readable (treeOf token token) selected
    (.ofFunction fun _ => some "x") (by decide +kernel)
  obtain ⟨-, -, passes, -⟩ := replace_passes scanned tree
  exact ⟨_, scanned, by decide +kernel, (passes (by decide +kernel)).1, by decide +kernel,
    by decide +kernel⟩

end EnvInject

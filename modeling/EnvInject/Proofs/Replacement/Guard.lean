import EnvInject.Proofs.Scan
import EnvInject.Replacement

/-!
# Which scans are guarded

A replacement is refused if some variable of its scan is known to be unset. The check looks at the
checklist and not at the files, so it sees the variables that the files name only as far as they are
on the checklist. That is so of every scan that was made by scanning (`Scan.registers_of_scan`); of
a scan put together by hand it is a condition, and the exact one (`validate_guards_iff`).

A name that is not on the checklist passes. Its placeholders stay in place, because filling skips
them (`fill_filter_valued`), and are counted with the others.
-/

namespace EnvInject

/-! ## Names in the files of a scan -/

namespace Scan

variable {found : Scan} {name : String}

/-- The names in the files of a scan. -/
def names (found : Scan) : List String :=
  found.files.flatMap fun record => record.tokens.map (·.name)

/-- Those of them without a value, be they on the checklist or not. -/
def unvalued (found : Scan) : List String :=
  found.names.filter fun name => (found.checklist.value name).isNone

/-- Every name in the files is on the checklist. -/
def Registers (found : Scan) : Prop :=
  ∀ name ∈ found.names, found.checklist.contains name = true

instance (found : Scan) : Decidable found.Registers :=
  inferInstanceAs (Decidable (∀ name ∈ found.names, _))

theorem length_names (found : Scan) : found.names.length = tokenCount found.files := by
  rw [names, List.length_flatMap, tokenCount]
  simp only [List.length_map]
  induction found.files with
  | nil => rfl
  | cons record rest ih => rw [List.map_cons, List.sum_cons, List.foldr_cons, ih]

theorem mem_unvalued :
    name ∈ found.unvalued ↔ name ∈ found.names ∧ found.checklist.value name = none := by
  rw [unvalued, List.mem_filter, Option.isNone_iff_eq_none]

/-- A scan that was made by scanning registers all names, under any environment. -/
theorem registers_of_scan {tree : FileTree} {env : Environment} {records : List FileRecord}
    (scanned : scan tree env records = .ok found) : found.Registers := by
  intro name named
  rw [eq_of_scan scanned] at named ⊢
  obtain ⟨record, member, token, inRecord, rfl⟩ := by
    simpa only [names, List.mem_flatMap, List.mem_map] using named
  obtain ⟨-, unscanned, given, rfl⟩ := mem_holders.1 member
  refine (Resolution.contains_resolveAll _ _ _).2 (.inr ?_)
  exact mem_namesIn.2 ⟨unscanned, given, token, inRecord, rfl⟩

/-- The names without a value are all reported as missing exactly if the scan registers all its
names. -/
theorem unvalued_subset_missing_iff :
    found.unvalued ⊆ found.checklist.missing ↔ found.Registers := by
  constructor
  · intro reported name named
    cases value : found.checklist.value name with
    | some text => exact Checklist.contains_of_value value
    | none =>
      have missing := reported (mem_unvalued.2 ⟨named, value⟩)
      exact (Checklist.mem_missing_iff_contains.1 missing).1
  · intro registers name member
    obtain ⟨named, unset⟩ := mem_unvalued.1 member
    exact Checklist.mem_missing_iff_contains.2 ⟨registers name named, unset⟩

end Scan

/-! ## What becomes of names without a value -/

/-- Filling passes over tokens without a value: it is as if they were not there. -/
theorem fillFrom_filter_valued (values : String → Option String) (contents : Bytes) (done : Nat)
    (tokens : List Token) :
    fillFrom values contents done (tokens.filter fun token => (values token.name).isSome) =
      fillFrom values contents done tokens := by
  induction tokens generalizing done with
  | nil => rfl
  | cons token rest ih =>
    cases value : values token.name with
    | none => simp [fillFrom, value, ih]
    | some text => simp [fillFrom, value, ih]

theorem fill_filter_valued (values : String → Option String) (contents : Bytes)
    (tokens : List Token) :
    fill values contents (tokens.filter fun token => (values token.name).isSome) =
      fill values contents tokens :=
  fillFrom_filter_valued values contents 0 tokens

theorem fillFiles_written_of_failure_eq_none {values : String → Option String} {tree : FileTree}
    {records : List FileRecord} (ends : (fillFiles values tree records).failure = none) :
    (fillFiles values tree records).written = records := by
  induction records generalizing tree with
  | nil => rfl
  | cons record rest ih =>
    cases step : fillFile values tree record with
    | error failure => simp [fillFiles, step] at ends
    | ok file =>
      simp only [fillFiles, step] at ends ⊢
      rw [ih ends]

theorem replace_of_missing {found : Scan} (missing : found.checklist.missing ≠ [])
    (tree : FileTree) :
    replace tree found = ⟨tree, [], [], some (.missingVariables found.checklist.missing)⟩ := by
  simp only [replace, Scan.validate_of_missing missing]

/-- A replacement succeeds only with a valid scan, and its summary counts what the scan has, whether
or not a value was put in for each token. -/
theorem replacement_result_eq_ok {found : Scan} {tree : FileTree} {summary : Summary}
    (ends : (replace tree found).result found = .ok summary) :
    found.validate = .ok () ∧
      summary = ⟨found.fileCount, found.occurrenceCount, found.checklist.size⟩ := by
  cases valid : found.validate with
  | error failure =>
    rw [replace, valid] at ends
    cases ends
  | ok _ =>
    refine ⟨rfl, ?_⟩
    rw [replace, valid, Replacement.result] at ends
    dsimp only at ends
    split at ends
    · cases ends
    · rename_i noFailure
      rw [fillFiles_written_of_failure_eq_none noFailure] at ends
      exact (Except.ok.inj ends).symm

/-- A scan with names that have no value is refused, with all these names reported and no file
touched, exactly if it registers all names in its files, as every scan made by scanning does. If it
is not refused, none of these names is on its checklist; then a replacement that ends counts their
tokens with the others, and has written what it would have written without them. -/
theorem validate_guards_iff (found : Scan) (tree : FileTree) (some : found.unvalued ≠ []) :
    ((∃ names, found.validate = .error (.missingVariables names) ∧ found.unvalued ⊆ names ∧
        replace tree found = ⟨tree, [], [], .some (.missingVariables names)⟩) ↔
      found.Registers) ∧
    (∀ before env selected, scan before env selected = .ok found → found.Registers) ∧
    (found.validate = .ok () → ∀ name ∈ found.unvalued,
      found.checklist.contains name = false) ∧
    (∀ summary, (replace tree found).result found = .ok summary →
      ¬found.Registers ∧ summary.occurrencesReplaced = found.names.length) ∧
    ∀ record ∈ found.files, ∀ contents,
      fill found.checklist.value contents record.tokens =
        fill found.checklist.value contents
          (record.tokens.filter fun token => (found.checklist.value token.name).isSome) := by
  have refused : found.Registers → found.checklist.missing ≠ [] := fun registers none =>
    some (List.subset_nil.1 (none ▸ Scan.unvalued_subset_missing_iff.2 registers))
  refine ⟨⟨?_, fun registers => ?_⟩, fun _ _ _ => Scan.registers_of_scan, ?_, ?_,
    fun record _ contents => (fill_filter_valued _ contents record.tokens).symm⟩
  · rintro ⟨names, fails, reported, -⟩
    obtain ⟨same, -⟩ := Scan.validate_eq_error fails
    obtain rfl := Failure.missingVariables.inj same
    exact Scan.unvalued_subset_missing_iff.1 reported
  · have missing := refused registers
    exact ⟨_, Scan.validate_of_missing missing, Scan.unvalued_subset_missing_iff.2 registers,
      replace_of_missing missing tree⟩
  · intro valid name member
    have unset := (Scan.mem_unvalued.1 member).2
    by_contra registered
    have missing := Checklist.mem_missing_iff_contains.2 ⟨by simpa using registered, unset⟩
    rw [Scan.validate_eq_ok_iff.1 valid] at missing
    cases missing
  · intro summary ends
    obtain ⟨valid, rfl⟩ := replacement_result_eq_ok ends
    refine ⟨fun registers => refused registers (Scan.validate_eq_ok_iff.1 valid), ?_⟩
    rw [Scan.length_names]
    rfl

/-- One name is registered as unset, the other one as set. -/
theorem validate_guards_iff_registered :
    let found : Scan := ⟨[⟨[0x61], [⟨⟨0, 12⟩, "A"⟩, ⟨⟨13, 25⟩, "B"⟩]⟩],
      (Checklist.empty.enter "A" none).enter "B" (some "x"), 1⟩
    found.unvalued ≠ [] ∧ found.Registers ∧
      ∃ names, found.validate = .error (.missingVariables names) ∧ found.unvalued ⊆ names ∧
        replace .empty found = ⟨.empty, [], [], some (.missingVariables names)⟩ := by
  intro found
  have unset : found.unvalued ≠ [] := by decide +kernel
  have registers : found.Registers := by decide +kernel
  obtain ⟨guarded_iff, -⟩ := validate_guards_iff found .empty unset
  exact ⟨unset, registers, guarded_iff.2 registers⟩

/-- A name that is not on the checklist: nothing is missing, and the replacement counts as done what
it has left in place. -/
theorem replace_leaves_unregistered :
    let contents := Placeholder.marker ++ [0x41]
    let tree : FileTree := ⟨[⟨.directory [([0x61], 1)], 0o755⟩, ⟨.file contents, 0o644⟩], [0]⟩
    let found : Scan := ⟨[⟨[0x61], [⟨⟨0, 12⟩, "A"⟩]⟩], .empty, 1⟩
    found.unvalued = ["A"] ∧ found.validate = .ok () ∧
      (replace tree found).result found = .ok ⟨1, 1, 0⟩ ∧ (replace tree found).tree = tree := by
  intro contents tree found
  exact ⟨by decide +kernel, by decide +kernel, by decide +kernel, by decide +kernel⟩

end EnvInject

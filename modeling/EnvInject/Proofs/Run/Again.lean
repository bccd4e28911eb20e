import EnvInject.Pattern.Basic
import EnvInject.Proofs.Placeholder.Rescan
import EnvInject.Proofs.Run.FinalTree

/-!
# Running again

A run that injected leaves `fillSelected`, the tree in which every selected file that had a
placeholder is filled (`run_of_injected`). The next run with the same settings selects the same
files (`Selects.mapContents`), and has nothing to do exactly when none of the filled files holds a
placeholder again. Values are inserted as they are, so some may; none does if every value is inert.
-/

namespace EnvInject

open Placeholder

variable {language : Pattern.Language} {config : Configuration} {values : String → Option String}
  {tree : FileTree}

/-! ## The filled tree -/

/-- The tree with the placeholders of all selected files filled. -/
def fillSelected (language : Pattern.Language) (config : Configuration)
    (values : String → Option String) (tree : FileTree) :
    FileTree :=
  tree.mapContents (fillNodes values (tree.filesAt (placeholderPaths language config tree)))

theorem canRead_fillSelected {path : Path} {id : NodeId}
    (regular : tree.regularFile? path = some id) :
    (fillSelected language config values tree).canRead path = tree.canRead path := by
  rw [FileTree.canRead, FileTree.canRead, fillSelected, FileTree.read_mapContents regular]
  cases tree.read path with
  | error cause => rfl
  | ok contents => rfl

theorem tokensAt_fillSelected {path : Path} {contents : Bytes}
    (member : path ∈ placeholderPaths language config tree) (read : tree.read path = .ok contents) :
    (fillSelected language config values tree).tokensAt path =
      tokens (filled values contents (tokens contents)) := by
  obtain ⟨id, mode, found, -⟩ := FileTree.find?_of_read read
  have isFilled : id ∈ tree.filesAt (placeholderPaths language config tree) :=
    List.mem_filterMap.2 ⟨path, member, FileTree.regularFile?_of_find? found⟩
  rw [fillSelected, FileTree.tokensAt, FileTree.find?_mapContents_of_file found,
    fillNodes_of_mem isFilled]

/-- Filling a file without placeholders changes nothing, also if another path leads to it. -/
theorem tokensAt_fillSelected_of_nil {path : Path} {id : NodeId}
    (regular : tree.regularFile? path = some id) (without : tree.tokensAt path = []) :
    (fillSelected language config values tree).tokensAt path = [] := by
  obtain ⟨contents, mode, found⟩ := FileTree.find?_of_regularFile? regular
  rw [FileTree.tokensAt, found] at without
  dsimp only at without
  rw [fillSelected, FileTree.tokensAt, FileTree.find?_mapContents_of_file found]
  by_cases member : id ∈ tree.filesAt (placeholderPaths language config tree)
  · rw [fillNodes_of_mem member, without, filled_nil]
    exact without
  · rw [fillNodes_of_not_mem member]
    exact without

/-- The filled tree is free of placeholders as soon as the files that had some are. -/
theorem Selects.fillSelected_clean_iff {selected : List FileRecord}
    (selects : Selects language config tree selected)
    (readable : ∀ record ∈ selected, tree.canRead record.path = true) :
    (∀ record ∈ selected, (fillSelected language config values tree).tokensAt record.path = []) ↔
      ∀ path ∈ placeholderPaths language config tree, ∀ contents, tree.read path = .ok contents →
        tokens (filled values contents (tokens contents)) = [] := by
  constructor
  · intro clean path member contents read
    obtain ⟨⟨record, given, rfl⟩, -⟩ := selects.mem_placeholderPaths.1 member
    rw [← tokensAt_fillSelected member read]
    exact clean record given
  · intro clean record given
    by_cases without : tree.tokensAt record.path = []
    · obtain ⟨id, isFile⟩ := selects.separate.regular record given
      exact tokensAt_fillSelected_of_nil isFile without
    · have member := selects.mem_placeholderPaths.2 ⟨⟨record, given, rfl⟩, without⟩
      obtain ⟨contents, read⟩ := FileTree.read_of_canRead (readable record given)
      rw [tokensAt_fillSelected member read]
      exact clean _ member contents read

/-! ## The first run -/

/-- A run that injected read all selected files and filled those with placeholders. -/
theorem run_of_injected {summary : Summary}
    (injected : (run language config (.ofFunction values) tree).result = .ok (.injected summary)) :
    ∃ selected, Selects language config tree selected ∧
      (∀ record ∈ selected, tree.canRead record.path = true) ∧
      (∀ path ∈ placeholderPaths language config tree, ∀ token ∈ tree.tokensAt path,
        (values token.name).isSome) ∧
      (run language config (.ofFunction values) tree).tree =
        fillSelected language config values tree := by
  obtain ⟨selected, found, finds, valid, final, done⟩ := exists_finds_of_injected injected
  refine ⟨selected, finds.selects, Scan.canRead_of_scan finds.scanned, finds.set valid, ?_⟩
  rw [final, fillSelected]
  exact finds.replace_tree_of_done valid (fun record member token inRecord =>
    (Scan.value_of_scan finds.scanned record member token inRecord).1) done

/-! ## The second run -/

/-- A run on the filled tree selects the same files, so it has nothing to do exactly if none of them
has a placeholder. -/
theorem Selects.run_fillSelected_iff {selected : List FileRecord}
    (selects : Selects language config tree selected)
    (readable : ∀ record ∈ selected, tree.canRead record.path = true) :
    (run language config (.ofFunction values) (fillSelected language config values tree)).result =
        .ok .nothingToDo ↔
      ∀ record ∈ selected,
        (fillSelected language config values tree).tokensAt record.path = [] := by
  have readableAgain : ∀ record ∈ selected,
      (fillSelected language config values tree).canRead record.path = true := by
    intro record given
    obtain ⟨id, isFile⟩ := selects.separate.regular record given
    rw [canRead_fillSelected isFile]
    exact readable record given
  have finds : Finds language config (.ofFunction values)
      (fillSelected language config values tree) selected _ :=
    ⟨selects.mapContents _, Scan.scan_of_readable _ readableAgain⟩
  rw [finds.run_nothingToDo_iff, Scan.isEmpty, List.isEmpty_iff, Scan.holders_eq_nil_iff]

/-- After a run that injected, the next run has nothing to do exactly when no filled file holds a
placeholder again. It is enough that every value put in is inert. If it has nothing to do it keeps
the tree. -/
theorem run_again {summary : Summary}
    (injected : (run language config (.ofFunction values) tree).result = .ok (.injected summary)) :
    let first := run language config (.ofFunction values) tree
    let second := run language config (.ofFunction values) first.tree
    (second.result = .ok .nothingToDo ↔
      ∀ path ∈ placeholderPaths language config tree, ∀ contents, tree.read path = .ok contents →
        tokens (filled values contents (tokens contents)) = []) ∧
    ((∀ path ∈ placeholderPaths language config tree, ∀ token ∈ tree.tokensAt path, ∀ value,
        values token.name = some value → Inert (Utf8.encode value)) →
      second.result = .ok .nothingToDo) ∧
    (second.result = .ok .nothingToDo → second.tree = first.tree) := by
  intro first second
  obtain ⟨selected, selects, readable, set, firstTree⟩ := run_of_injected injected
  have clean_iff : second.result = .ok .nothingToDo ↔
      ∀ path ∈ placeholderPaths language config tree, ∀ contents, tree.read path = .ok contents →
        tokens (filled values contents (tokens contents)) = [] := by
    have isSecond : second =
        run language config (.ofFunction values) (fillSelected language config values tree) :=
      congrArg (run language config (.ofFunction values)) firstTree
    rw [isSecond, selects.run_fillSelected_iff readable]
    exact selects.fillSelected_clean_iff readable
  refine ⟨clean_iff, fun inert => clean_iff.2 ?_, run_tree_of_nothingToDo⟩
  intro path member contents read
  refine tokens_filled_eq_nil fun token inFile => ?_
  rw [← FileTree.tokensAt_of_read read] at inFile
  obtain ⟨value, isValue⟩ := Option.isSome_iff_exists.1 (set path member token inFile)
  exact ⟨value, isValue, inert path member token inFile value isValue⟩

/-- A value without a placeholder byte stays. -/
theorem run_again_inert :
    let config : Configuration := ⟨[0x2E], "a", false, false, false, 0⟩
    let tree : FileTree :=
      ⟨[⟨.directory [([0x61], 1)], 0o755⟩, ⟨.file (marker ++ [0x41]), 0o644⟩], [0]⟩
    let values := fun _ => some "x"
    let first := run .regular config (.ofFunction values) tree
    let second := run .regular config (.ofFunction values) first.tree
    first.result = .ok (.injected ⟨1, 1, 1⟩) ∧ second.result = .ok .nothingToDo ∧
      second.tree = first.tree := by
  intro config tree values first second
  have injected : first.result = .ok (.injected ⟨1, 1, 1⟩) :=
    toOption_eq_some_iff.1 (by decide +kernel)
  obtain ⟨-, nothing_of_inert, kept⟩ := run_again injected
  have nothing : second.result = .ok .nothingToDo := by
    refine nothing_of_inert fun path _ token _ value isValue => ?_
    obtain rfl := Option.some.inj isValue
    decide
  exact ⟨injected, nothing, kept nothing⟩

/-- A value that is a placeholder is filled in turn by the next run. -/
theorem run_again_rewrites :
    let config : Configuration := ⟨[0x2E], "a", false, false, false, 0⟩
    let tree : FileTree :=
      ⟨[⟨.directory [([0x61], 1)], 0o755⟩, ⟨.file (marker ++ [0x41]), 0o644⟩], [0]⟩
    let values := fun name => if name = "A" then some "__reactenv.B" else some "x"
    let first := run .regular config (.ofFunction values) tree
    let second := run .regular config (.ofFunction values) first.tree
    config.dryRun = false ∧ first.result = .ok (.injected ⟨1, 1, 1⟩) ∧
      second.result = .ok (.injected ⟨1, 1, 1⟩) ∧ second.tree ≠ first.tree := by
  intro config tree values first second
  refine ⟨rfl, toOption_eq_some_iff.1 ?_, toOption_eq_some_iff.1 ?_, ?_⟩
  · decide +kernel
  · decide +kernel
  · decide +kernel

end EnvInject

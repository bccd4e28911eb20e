import EnvInject.Proofs.Run.SameFiles
import EnvInject.Proofs.Selection.Aliases

/-!
# Runs in a directory with further names

A selected file may be given further names in the directory, by hard links or by links that lead to
it. The same files are selected then, each once, though perhaps under other names and in another
order. A run ends as it did without the new names, with the same numbers or the same missing
variables, and if it injects it leaves the same bytes in every file (`run_ignores_aliases`).
-/

namespace EnvInject

variable {language : Pattern.Language} {config : Configuration} {tree other : FileTree}
  {selected others : List FileRecord}
  {holder : NodeId} {extra : List (Bytes × NodeId)}

theorem Separate.nodup (separate : Separate tree selected) :
    (selected.map fun record => tree.regularFile? record.path).Nodup :=
  List.pairwise_map.2 separate.distinct

/-- Two paths to one file, in trees that have the same behind paths to files. -/
theorem view_eq_of_regularFile? {path path' : Path} {file : NodeId}
    (kept : ∀ {path id contents mode}, tree.find? path = .ok (id, ⟨.file contents, mode⟩) →
      other.find? path = .ok (id, ⟨.file contents, mode⟩))
    (regular : tree.regularFile? path = some file)
    (regular' : other.regularFile? path' = some file) : tree.view path = other.view path' := by
  obtain ⟨contents, mode, found⟩ := FileTree.find?_of_regularFile? regular
  have isKept := FileTree.regularFile?_of_find? (kept found)
  apply FileTree.view_eq
  rw [found, ← kept found]
  exact FileTree.find?_eq_of_regularFile? isKept regular'

/-- Selections that lead to the same files, once to each. -/
theorem sameFiles_of_separate (separate : Separate tree selected)
    (separate' : Separate other others)
    (kept : ∀ {path id contents mode}, tree.find? path = .ok (id, ⟨.file contents, mode⟩) →
      other.find? path = .ok (id, ⟨.file contents, mode⟩))
    (files : ∀ file, (∃ path ∈ others.map (·.path), other.regularFile? path = some file) ↔
      ∃ path ∈ selected.map (·.path), tree.regularFile? path = some file) :
    SameFiles tree other selected others := by
  have nodup {tree : FileTree} {records : List FileRecord} (separate : Separate tree records) :
      (records.map fun record => tree.view record.path).Nodup := by
    apply List.Nodup.of_map FileView.file
    rw [List.map_map]
    exact separate.nodup
  refine (List.perm_ext_iff_of_nodup (nodup separate) (nodup separate')).2 fun view => ?_
  constructor
  · intro member
    obtain ⟨record, given, rfl⟩ := List.mem_map.1 member
    obtain ⟨file, regular⟩ := separate.regular record given
    obtain ⟨path, inOthers, regular'⟩ :=
      (files file).2 ⟨record.path, List.mem_map_of_mem given, regular⟩
    obtain ⟨record', given', rfl⟩ := List.mem_map.1 inOthers
    exact List.mem_map.2 ⟨record', given', (view_eq_of_regularFile? kept regular regular').symm⟩
  · intro member
    obtain ⟨record', given', rfl⟩ := List.mem_map.1 member
    obtain ⟨file, regular'⟩ := separate'.regular record' given'
    obtain ⟨path, inSelected, regular⟩ :=
      (files file).1 ⟨record'.path, List.mem_map_of_mem given', regular'⟩
    obtain ⟨record, given, rfl⟩ := List.mem_map.1 inSelected
    exact List.mem_map.2 ⟨record, given, view_eq_of_regularFile? kept regular regular'⟩

/-! ## Selections -/

theorem Selects.exists_aliased
    (aliased : tree.Aliased other config.directory (selected.map (·.path)) holder extra)
    (selects : Selects language config tree selected) :
    ∃ others, Selects language config other others ∧ SameFiles tree other selected others := by
  obtain ⟨isWanted, compiles, selection⟩ := selects
  obtain ⟨others, selection'⟩ := (exists_select_aliased aliased).2 ⟨selected, selection⟩
  refine ⟨others, ⟨isWanted, compiles, selection'⟩, ?_⟩
  exact sameFiles_of_separate (select_separate selection) (select_separate selection')
    aliased.find?_of_file (select_aliased aliased selection selection')

theorem Selects.exists_unaliased {paths : List Path}
    (aliased : tree.Aliased other config.directory paths holder extra)
    (selects : Selects language config other others) :
    ∃ selected, Selects language config tree selected := by
  obtain ⟨isWanted, compiles, selection'⟩ := selects
  obtain ⟨selected, selection⟩ := (exists_select_aliased aliased).1 ⟨others, selection'⟩
  exact ⟨selected, isWanted, compiles, selection⟩

/-! ## Runs -/

/-- Runs in both trees end alike: the same files are selected, or neither tree can be selected
from. -/
theorem run_alike_of_aliased
    (aliased : tree.Aliased other config.directory
      ((selectedFiles language config tree).map (·.path)) holder extra)
    (values : String → Option String) :
    EndAlike (run language config (.ofFunction values) tree).result
      (run language config (.ofFunction values) other).result := by
  cases selection : selection? language config tree with
  | some selected =>
    have selects := selects_iff.2 selection
    rw [selects.selectedFiles_eq] at aliased
    obtain ⟨others, selects', same⟩ := selects.exists_aliased aliased
    exact same.run_result selects selects' values
  | none =>
    cases selection' : selection? language config other with
    | some others =>
      obtain ⟨selected, selects⟩ := (selects_iff.2 selection').exists_unaliased aliased
      cases selection.symm.trans (selects_iff.1 selects)
    | none =>
      obtain ⟨failure, differs, fails⟩ := run_of_selection?_eq_none selection
      obtain ⟨failure', differs', fails'⟩ := run_of_selection?_eq_none selection'
      rw [fails, fails']
      exact .failed differs differs'

/-- Further names of selected files in the directory change nothing but the names: the same files
are selected, each once, a run ends in the same way with the same numbers or missing variables, and
if it injects, every path that leads to a file finds the same in both trees. -/
theorem run_ignores_aliases
    (aliased : tree.Aliased other config.directory
      ((selectedFiles language config tree).map (·.path)) holder extra)
    (values : String → Option String) :
    (∀ selected, Selects language config tree selected →
      ∃ others, Selects language config other others ∧
        Separate tree selected ∧ Separate other others ∧
        (others.map fun record => other.regularFile? record.path).Perm
          (selected.map fun record => tree.regularFile? record.path)) ∧
    let before := run language config (.ofFunction values) tree
    let after := run language config (.ofFunction values) other
    (∀ outcome, after.result = .ok outcome ↔ before.result = .ok outcome) ∧
    (∀ names, after.result = .error (.missingVariables names) ↔
      before.result = .error (.missingVariables names)) ∧
    ∀ summary, before.result = .ok (.injected summary) → ∀ path id,
      tree.regularFile? path = some id → after.tree.find? path = before.tree.find? path := by
  refine ⟨fun selected selects => ?_, ?_⟩
  · rw [selects.selectedFiles_eq] at aliased
    obtain ⟨others, selects', same⟩ := selects.exists_aliased aliased
    refine ⟨others, selects', selects.separate, selects'.separate, ?_⟩
    have files := same.symm.map FileView.file
    rw [List.map_map, List.map_map] at files
    exact files
  intro before after
  have alike : EndAlike before.result after.result := run_alike_of_aliased aliased values
  refine ⟨fun outcome => (alike.ok_iff outcome).symm, fun names => (alike.missing_iff names).symm,
    fun summary injected path id regular => ?_⟩
  have injected' : after.result = .ok (.injected summary) := (alike.ok_iff _).1 injected
  obtain ⟨selected, selects, -, -, final⟩ := run_of_injected injected
  obtain ⟨others, selects', -, -, final'⟩ := run_of_injected injected'
  rw [selects.selectedFiles_eq] at aliased
  obtain ⟨others', selects'', same⟩ := selects.exists_aliased aliased
  obtain rfl := selects''.unique selects'
  obtain ⟨contents, mode, found⟩ := FileTree.find?_of_regularFile? regular
  have found' := aliased.find?_of_file found
  have isFinal : before.tree = fillSelected language config values tree := final
  have isFinal' : after.tree = fillSelected language config values other := final'
  rw [isFinal, isFinal']
  exact (same.find?_fillSelected selects selects' values found found').symm

/-- A hard link behind the old name and a symbolic link before it. -/
theorem run_ignores_aliases_two :
    let config : Configuration := ⟨[0x2E], "a", false, false, false, 0⟩
    let contents := Placeholder.marker ++ [0x41, 0x3B]
    let old : List (Bytes × NodeId) := [([0x61], 1)]
    let extra : List (Bytes × NodeId) := [([0x61, 0x61], 1), ([0x30, 0x61], 2)]
    let tree : FileTree := ⟨[⟨.directory old, 0o755⟩, ⟨.file contents, 0o644⟩], [0]⟩
    let other : FileTree := ⟨[⟨.directory (old ++ extra), 0o755⟩, ⟨.file contents, 0o644⟩,
      ⟨.link [0x61], 0o777⟩], [0]⟩
    let values := fun name => if name = "A" then some "x" else none
    let before := run .regular config (.ofFunction values) tree
    let after := run .regular config (.ofFunction values) other
    before.result = .ok (.injected ⟨1, 1, 1⟩) ∧ after.result = .ok (.injected ⟨1, 1, 1⟩) ∧
      after.tree.find? [0x2E, 0x2F, 0x61] = .ok (1, ⟨.file [0x78, 0x3B], 0o644⟩) := by
  intro config contents old extra tree other values before after
  have treelike : tree.Treelike := by
    apply FileTree.treelike_of_flat rfl rfl
    intro entry member
    rw [List.mem_singleton.1 member]
    exact ⟨⟨.file contents, 0o644⟩, rfl, fun _ => nofun⟩
  have aliased : tree.Aliased other config.directory
      ((selectedFiles .regular config tree).map (·.path)) 0 extra := by
    refine ⟨⟨treelike, by decide +kernel, rfl, ?_, ?_⟩, ⟨⟨.directory old, 0o755⟩, ?_⟩, ?_⟩
    · intro id differs node here
      match id with
      | 0 => exact absurd rfl differs
      | 1 => exact here
      | id + 2 => cases here
    · exact ⟨old, old ++ extra, 0o755, rfl, rfl, .refl _⟩
    · exact toOption_eq_some_iff.1 (by decide +kernel)
    · have selected : [0x2E, 0x2F, 0x61] ∈ (selectedFiles .regular config tree).map (·.path) := by
        decide +kernel
      have regular : tree.regularFile? [0x2E, 0x2F, 0x61] = some 1 := by decide +kernel
      intro entry member
      rcases List.mem_pair.1 member with rfl | rfl
      · exact ⟨_, selected, 1, regular, .inl rfl⟩
      · exact ⟨_, selected, 1, regular, .inr (by decide +kernel)⟩
  have injected : before.result = .ok (.injected ⟨1, 1, 1⟩) :=
    toOption_eq_some_iff.1 (by decide +kernel)
  obtain ⟨-, outcomes, -, kept⟩ := run_ignores_aliases aliased values
  refine ⟨injected, (outcomes _).2 injected, (kept _ injected _ 1 (by decide +kernel)).trans ?_⟩
  exact toOption_eq_some_iff.1 (by decide +kernel)

end EnvInject

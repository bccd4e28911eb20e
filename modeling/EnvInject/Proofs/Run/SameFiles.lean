import EnvInject.Proofs.Run.Again
import EnvInject.Proofs.Run.Messages

/-!
# Runs on the same files

How a run ends depends on the files that are selected, and not on their names or their order: on
which of them can be read and written, and on the placeholders in them (`FileView`). Two runs whose
files are the same up to order (`SameFiles`) end in the same way, with the same numbers and the same
missing variables, unless both fail at some file (`SameFiles.run_result`). If they inject, they fill
the same files (`SameFiles.find?_fillSelected`).
-/

namespace EnvInject

/-- What a run sees of a file. -/
structure FileView where
  file : Option NodeId
  tokens : List Token
  canRead : Bool
  canWrite : Bool

/-- What a run sees at a path. -/
def FileTree.view (tree : FileTree) (path : Path) : FileView :=
  ⟨tree.regularFile? path, tree.tokensAt path, tree.canRead path, tree.canWrite path⟩

theorem FileTree.view_eq {tree other : FileTree} {path path' : Path}
    (same : tree.find? path = other.find? path') : tree.view path = other.view path' := by
  simp only [view, regularFile?, tokensAt, canRead, read, canWrite, same]

/-- Records of the same files in two trees, perhaps in another order. -/
def SameFiles (tree other : FileTree) (records others : List FileRecord) : Prop :=
  (records.map fun record => tree.view record.path).Perm
    (others.map fun record => other.view record.path)

namespace SameFiles

variable {tree other : FileTree} {records others : List FileRecord}

theorem symm (same : SameFiles tree other records others) : SameFiles other tree others records :=
  List.Perm.symm same

theorem exists_view (same : SameFiles tree other records others) {record : FileRecord}
    (member : record ∈ records) :
    ∃ record' ∈ others, other.view record'.path = tree.view record.path :=
  List.mem_map.1 (same.subset (List.mem_map.2 ⟨record, member, rfl⟩))

theorem canRead (same : SameFiles tree other records others)
    (readable : ∀ record ∈ records, tree.canRead record.path = true) :
    ∀ record ∈ others, other.canRead record.path = true := by
  intro record member
  obtain ⟨record', member', view⟩ := same.symm.exists_view member
  exact (congrArg FileView.canRead view).symm.trans (readable record' member')

theorem mem_namesIn (same : SameFiles tree other records others) {name : String}
    (named : name ∈ Scan.namesIn tree records) : name ∈ Scan.namesIn other others := by
  obtain ⟨record, member, token, inFile, rfl⟩ := Scan.mem_namesIn.1 named
  obtain ⟨record', member', view⟩ := same.exists_view member
  have tokens : other.tokensAt record'.path = tree.tokensAt record.path :=
    congrArg FileView.tokens view
  exact Scan.mem_namesIn.2 ⟨record', member', token, tokens ▸ inFile, rfl⟩

/-- The same variables are met, in whatever order, so the checklists are the same. -/
theorem checklist_eq (same : SameFiles tree other records others)
    (values : String → Option String) :
    (Resolution.start.resolveAll (.ofFunction values) (Scan.namesIn tree records)).checklist =
      (Resolution.start.resolveAll (.ofFunction values)
        (Scan.namesIn other others)).checklist :=
  Resolution.checklist_start_congr fun _ => ⟨same.mem_namesIn, same.symm.mem_namesIn⟩

theorem holders_perm (same : SameFiles tree other records others) :
    ((Scan.holders tree records).map (·.tokens)).Perm
      ((Scan.holders other others).map (·.tokens)) := by
  have tokens (tree : FileTree) (records : List FileRecord) :
      (Scan.holders tree records).map (·.tokens) =
        ((records.map fun record => tree.view record.path).filter
          fun view => !view.tokens.isEmpty).map (·.tokens) := by
    rw [Scan.holders_eq_map, List.filter_map, List.map_map, List.map_map]
    rfl
  rw [tokens, tokens]
  exact (same.filter _).map _

theorem tokenCount_eq (same : SameFiles tree other records others) :
    tokenCount (Scan.holders tree records) = tokenCount (Scan.holders other others) := by
  have counts := (same.holders_perm.map List.length).sum_nat
  rw [List.map_map, List.map_map] at counts
  rw [tokenCount_eq_sum, tokenCount_eq_sum]
  exact counts

/-- Scans of the same files find the same number of files and of placeholders, and the same
variables. -/
theorem scans (same : SameFiles tree other records others) {values : String → Option String}
    {found found' : Scan} (scanned : scan tree (.ofFunction values) records = .ok found)
    (scanned' : scan other (.ofFunction values) others = .ok found') :
    found.isEmpty = found'.isEmpty ∧ found.fileCount = found'.fileCount ∧
      found.occurrenceCount = found'.occurrenceCount ∧ found.checklist = found'.checklist := by
  have checklist : found.checklist = found'.checklist := by
    rw [Scan.eq_of_scan scanned, Scan.eq_of_scan scanned']
    exact same.checklist_eq values
  have isEmpty : found.isEmpty = found'.isEmpty := by
    rw [Scan.isEmpty_of_scan scanned, Scan.isEmpty_of_scan scanned', checklist]
  have fileCount := same.holders_perm.length_eq
  have occurrenceCount := same.tokenCount_eq
  rw [List.length_map, List.length_map] at fileCount
  rw [← Scan.files_eq_of_scan scanned, ← Scan.files_eq_of_scan scanned']
    at fileCount occurrenceCount
  exact ⟨isEmpty, fileCount, occurrenceCount, checklist⟩

end SameFiles

/-! ## How the runs end -/

/-- Both results are the same, or both runs failed, and not for missing variables. -/
inductive EndAlike : Except Failure Outcome → Except Failure Outcome → Prop
  | same (result : Except Failure Outcome) : EndAlike result result
  | failed {failure failure' : Failure} (other : ∀ names, failure ≠ .missingVariables names)
    (other' : ∀ names, failure' ≠ .missingVariables names) :
    EndAlike (.error failure) (.error failure')

theorem EndAlike.ok_iff {first second : Except Failure Outcome} (alike : EndAlike first second)
    (outcome : Outcome) : first = .ok outcome ↔ second = .ok outcome := by
  cases alike with
  | same => exact Iff.rfl
  | failed => simp

theorem EndAlike.missing_iff {first second : Except Failure Outcome}
    (alike : EndAlike first second) (names : List String) :
    first = .error (.missingVariables names) ↔ second = .error (.missingVariables names) := by
  cases alike with
  | same => exact Iff.rfl
  | failed other other' => simp [other names, other' names]

variable {language : Pattern.Language} {config : Configuration} {tree other : FileTree}
  {selected others : List FileRecord}

/-- A run that selected a file that it cannot read fails there. -/
theorem Selects.run_of_unreadable (selects : Selects language config tree selected)
    (env : Environment) (unreadable : ¬∀ record ∈ selected, tree.canRead record.path = true) :
    ∃ path cause, (run language config env tree).result = .error (.io path cause) := by
  rw [(selects.run_eq env).1, Run.process_result]
  cases scanned : scan tree env selected with
  | ok found => exact absurd (Scan.canRead_of_scan scanned) unreadable
  | error failure =>
    obtain ⟨record, cause, -, -, rfl⟩ := read_of_scan_eq_error scanned
    exact ⟨record.path, cause, rfl⟩

/-- Some file with placeholders cannot be written in both trees, or in none. -/
theorem SameFiles.find?_unwritable (same : SameFiles tree other selected others)
    (selects : Selects language config tree selected)
    (selects' : Selects language config other others)
    (noneStuck :
      (placeholderPaths language config tree).find? (fun path => !tree.canWrite path) = none) :
    (placeholderPaths language config other).find? (fun path => !other.canWrite path) = none := by
  rw [List.find?_eq_none] at noneStuck ⊢
  intro path member
  obtain ⟨⟨record, inOthers, rfl⟩, placed⟩ := selects'.mem_placeholderPaths.1 member
  obtain ⟨record', inSelected, view⟩ := same.symm.exists_view inOthers
  have tokens : tree.tokensAt record'.path = other.tokensAt record.path :=
    congrArg FileView.tokens view
  have writable : tree.canWrite record'.path = other.canWrite record.path :=
    congrArg FileView.canWrite view
  rw [← writable]
  exact noneStuck record'.path
    (selects.mem_placeholderPaths.2 ⟨⟨record', inSelected, rfl⟩, tokens ▸ placed⟩)

/-- Runs on the same files end alike. -/
theorem SameFiles.run_result (same : SameFiles tree other selected others)
    (selects : Selects language config tree selected)
    (selects' : Selects language config other others)
    (values : String → Option String) :
    EndAlike (run language config (.ofFunction values) tree).result
      (run language config (.ofFunction values) other).result := by
  by_cases readable : ∀ record ∈ selected, tree.canRead record.path = true
  · obtain ⟨found, finds⟩ := selects.exists_finds readable (.ofFunction values)
    obtain ⟨found', finds'⟩ := selects'.exists_finds (same.canRead readable) (.ofFunction values)
    obtain ⟨isEmpty, files, occurrences, checklist⟩ := same.scans finds.scanned finds'.scanned
    rw [finds.run_result, finds'.run_result, isEmpty, files, occurrences, checklist]
    by_cases nothing : found'.isEmpty = true
    · rw [if_pos nothing, if_pos nothing]
      exact .same _
    rw [if_neg nothing, if_neg nothing]
    by_cases missing : found'.checklist.missing ≠ []
    · rw [if_pos missing, if_pos missing]
      exact .same _
    rw [if_neg missing, if_neg missing]
    by_cases isDry : config.dryRun = true
    · rw [if_pos isDry, if_pos isDry]
      exact .same _
    rw [if_neg isDry, if_neg isDry]
    cases stuck : (placeholderPaths language config tree).find? fun path => !tree.canWrite path with
    | none =>
      rw [same.find?_unwritable selects selects' stuck]
      exact .same _
    | some path =>
      cases stuck' : (placeholderPaths language config other).find? fun path =>
          !other.canWrite path with
      | none => cases (same.symm.find?_unwritable selects' selects stuck').symm.trans stuck
      | some path' => exact .failed (fun _ => nofun) fun _ => nofun
  · have unreadable : ¬∀ record ∈ others, other.canRead record.path = true :=
      fun all => readable (same.symm.canRead all)
    obtain ⟨path, cause, fails⟩ := selects.run_of_unreadable (.ofFunction values) readable
    obtain ⟨path', cause', fails'⟩ := selects'.run_of_unreadable (.ofFunction values) unreadable
    rw [fails, fails']
    exact .failed (fun _ => nofun) fun _ => nofun

/-! ## What the runs write -/

/-- A file that has placeholders under a selected path of one tree has them under a selected path of
the other. -/
theorem SameFiles.mem_filesAt (same : SameFiles tree other selected others)
    (selects : Selects language config tree selected)
    (selects' : Selects language config other others) {id : NodeId}
    (member : id ∈ tree.filesAt (placeholderPaths language config tree)) :
    id ∈ other.filesAt (placeholderPaths language config other) := by
  obtain ⟨path, inPaths, regular⟩ := List.mem_filterMap.1 member
  obtain ⟨⟨record, given, rfl⟩, placed⟩ := selects.mem_placeholderPaths.1 inPaths
  obtain ⟨record', given', view⟩ := same.exists_view given
  have file : other.regularFile? record'.path = tree.regularFile? record.path :=
    congrArg FileView.file view
  have tokens : other.tokensAt record'.path = tree.tokensAt record.path :=
    congrArg FileView.tokens view
  exact List.mem_filterMap.2 ⟨record'.path,
    selects'.mem_placeholderPaths.2 ⟨⟨record', given', rfl⟩, tokens ▸ placed⟩, file.trans regular⟩

/-- Runs on the same files that inject leave the same in a file that is in both trees. -/
theorem SameFiles.find?_fillSelected (same : SameFiles tree other selected others)
    (selects : Selects language config tree selected)
    (selects' : Selects language config other others)
    (values : String → Option String) {path : Path} {id : NodeId} {contents : Bytes}
    {mode : Permissions}
    (found : tree.find? path = .ok (id, ⟨.file contents, mode⟩))
    (found' : other.find? path = .ok (id, ⟨.file contents, mode⟩)) :
    (fillSelected language config values tree).find? path =
      (fillSelected language config values other).find? path := by
  have isFilled : id ∈ tree.filesAt (placeholderPaths language config tree) ↔
      id ∈ other.filesAt (placeholderPaths language config other) :=
    ⟨same.mem_filesAt selects selects', same.symm.mem_filesAt selects' selects⟩
  rw [fillSelected, fillSelected, FileTree.find?_mapContents_of_file found,
    FileTree.find?_mapContents_of_file found', fillNodes, fillNodes]
  simp only [isFilled]

end EnvInject

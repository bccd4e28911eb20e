import EnvInject.Proofs.Checklist
import EnvInject.Proofs.FileTree.Contents
import EnvInject.Scan
import Mathlib.Algebra.GroupWithZero.Nat
import Mathlib.Data.List.TakeWhile

/-!
# What a scan finds

A scan reads the files before the first that cannot be read. It keeps those with tokens
(`Scan.scanFrom_files`) and meets the names of all their tokens, file by file and token by token
(`Scan.scanFrom_resolution`); its failure is that of the first file that cannot be read
(`Scan.scanFrom_failure`). A scan of readable files gives them all (`Scan.scan_of_readable`), and
what it counts can be told from the files.
-/

namespace EnvInject

namespace FileTree

/-- The tokens of the file that a path leads to, whether or not it can be read. -/
def tokensAt (tree : FileTree) (path : Path) : List Token :=
  match tree.find? path with
  | .ok (_, ⟨.file contents, _⟩) => tokens contents
  | _ => []

/-- Whether the file that a path leads to can be read. -/
def canRead (tree : FileTree) (path : Path) : Bool :=
  (tree.read path).isOk

theorem read_of_canRead {tree : FileTree} {path : Path} (readable : tree.canRead path = true) :
    ∃ contents, tree.read path = .ok contents := by
  rw [canRead] at readable
  cases read : tree.read path with
  | error cause =>
    rw [read] at readable
    cases readable
  | ok contents => exact ⟨contents, rfl⟩

theorem canRead_of_read {tree : FileTree} {path : Path} {contents : Bytes}
    (reads : tree.read path = .ok contents) : tree.canRead path = true := by
  rw [canRead, reads]
  rfl

theorem tokensAt_of_read {tree : FileTree} {path : Path} {contents : Bytes}
    (readable : tree.read path = .ok contents) : tree.tokensAt path = tokens contents := by
  obtain ⟨id, mode, found, -⟩ := find?_of_read readable
  rw [tokensAt, found]

end FileTree

theorem tokenCount_eq_sum (records : List FileRecord) :
    tokenCount records = (records.map fun record => record.tokens.length).sum := by
  induction records with
  | nil => rfl
  | cons record rest ih =>
    rw [List.map_cons, List.sum_cons, ← ih]
    rfl

namespace Scan

variable {tree : FileTree} {env : Environment}

/-- A record with the tokens of its file. -/
def recordOf (tree : FileTree) (record : FileRecord) : FileRecord :=
  ⟨record.path, tree.tokensAt record.path⟩

/-- The records whose files have tokens, with these tokens. -/
def holders (tree : FileTree) (records : List FileRecord) : List FileRecord :=
  (records.map (recordOf tree)).filter fun record => !record.tokens.isEmpty

/-- The names of all tokens in the files, in order. -/
def namesIn (tree : FileTree) (records : List FileRecord) : List String :=
  records.flatMap fun record => (tree.tokensAt record.path).map (·.name)

/-- The records before the first whose file cannot be read. -/
def readablePart (tree : FileTree) (records : List FileRecord) : List FileRecord :=
  records.takeWhile fun record => tree.canRead record.path

/-- Why a file cannot be read. -/
def readFailure (tree : FileTree) (record : FileRecord) : Option Failure :=
  match tree.read record.path with
  | .error cause => some (.io record.path cause)
  | .ok _ => none

theorem holders_cons (tree : FileTree) (record : FileRecord) (rest : List FileRecord) :
    holders tree (record :: rest) =
      if (tree.tokensAt record.path).isEmpty then holders tree rest
      else recordOf tree record :: holders tree rest := by
  rw [holders, List.map_cons, List.filter_cons, recordOf]
  cases (tree.tokensAt record.path).isEmpty with
  | true => rfl
  | false => rfl

theorem readFailure_eq_none_iff {record : FileRecord} :
    readFailure tree record = none ↔ ∃ contents, tree.read record.path = .ok contents := by
  rw [readFailure]
  cases tree.read record.path with
  | error cause => simp
  | ok contents => simp

theorem readFailure_eq_some_iff {record : FileRecord} {failure : Failure} :
    readFailure tree record = some failure ↔
      ∃ cause, tree.read record.path = .error cause ∧ failure = .io record.path cause := by
  rw [readFailure]
  cases tree.read record.path with
  | error cause => simp [eq_comm]
  | ok contents => simp

theorem readablePart_cons_of_ok {record : FileRecord} {contents : Bytes}
    (readable : tree.read record.path = .ok contents) (rest : List FileRecord) :
    readablePart tree (record :: rest) = record :: readablePart tree rest := by
  simp [readablePart, FileTree.canRead_of_read readable]

theorem readablePart_cons_of_error {record : FileRecord} {cause : FileError}
    (unreadable : tree.read record.path = .error cause) (rest : List FileRecord) :
    readablePart tree (record :: rest) = [] := by
  have cannotRead : tree.canRead record.path = false := by
    rw [FileTree.canRead, unreadable]
    rfl
  simp [readablePart, cannotRead]

/-- The files of a scan are those that have tokens among the files that it reads, up to the first
one that it cannot read. What the environment answers plays no part. -/
theorem scanFrom_files (tree : FileTree) (env : Environment) (known : Resolution)
    (records : List FileRecord) :
    (scanFrom tree env known records).files = holders tree (readablePart tree records) := by
  induction records generalizing known with
  | nil => rfl
  | cons record rest ih =>
    cases readable : tree.read record.path with
    | error cause =>
      rw [scanFrom, readable, readablePart_cons_of_error readable]
      rfl
    | ok contents =>
      rw [scanFrom, readable, readablePart_cons_of_ok readable, holders_cons, recordOf,
        FileTree.tokensAt_of_read readable]
      dsimp only
      rw [ih]

/-- A scan meets the names in the files that it reads one after the other, also if it fails behind
them. -/
theorem scanFrom_resolution (tree : FileTree) (env : Environment) (known : Resolution)
    (records : List FileRecord) :
    (scanFrom tree env known records).resolution =
      known.resolveAll env (namesIn tree (readablePart tree records)) := by
  induction records generalizing known with
  | nil => rfl
  | cons record rest ih =>
    cases readable : tree.read record.path with
    | error cause =>
      rw [scanFrom, readable, readablePart_cons_of_error readable]
      rfl
    | ok contents =>
      rw [scanFrom, readable, readablePart_cons_of_ok readable, namesIn, List.flatMap_cons,
        FileTree.tokensAt_of_read readable, Resolution.resolveAll_append]
      exact ih _

theorem scanFrom_failure (tree : FileTree) (env : Environment) (known : Resolution)
    (records : List FileRecord) :
    (scanFrom tree env known records).failure = records.findSome? (readFailure tree) := by
  induction records generalizing known with
  | nil => rfl
  | cons record rest ih =>
    cases readable : tree.read record.path with
    | error cause => rw [scanFrom, readable, List.findSome?_cons, readFailure, readable]
    | ok contents =>
      rw [scanFrom, readable, List.findSome?_cons, readFailure, readable]
      exact ih _

/-- A scan fails at the first file that cannot be read, or gives the files with tokens and the names
in them. -/
theorem scan_eq (tree : FileTree) (env : Environment) (records : List FileRecord) :
    scan tree env records =
      match records.findSome? (readFailure tree) with
      | some failure => .error failure
      | none => .ok ⟨holders tree (readablePart tree records),
        (Resolution.start.resolveAll env (namesIn tree (readablePart tree records))).checklist,
        records.length⟩ := by
  rw [scan, Progress.result, scanProgress, scanFrom_failure]
  cases records.findSome? (readFailure tree) with
  | some failure => rfl
  | none =>
    dsimp only
    rw [scanFrom_files, scanFrom_resolution]

theorem scan_of_readable {records : List FileRecord} (env : Environment)
    (readable : ∀ record ∈ records, tree.canRead record.path = true) :
    scan tree env records =
      .ok ⟨holders tree records, (Resolution.start.resolveAll env (namesIn tree records)).checklist,
        records.length⟩ := by
  have all : readablePart tree records = records := List.takeWhile_eq_self_iff.2 readable
  have noFailure : records.findSome? (readFailure tree) = none :=
    List.findSome?_eq_none_iff.2 fun record member =>
      readFailure_eq_none_iff.2 (FileTree.read_of_canRead (readable record member))
  rw [scan_eq, noFailure, all]

theorem scan_eq_error_iff {records : List FileRecord} {failure : Failure} :
    scan tree env records = .error failure ↔
      records.findSome? (readFailure tree) = some failure := by
  rw [scan_eq]
  cases records.findSome? (readFailure tree) with
  | some cause => simp
  | none => simp

/-- A scan that ended has read all of its files. -/
theorem canRead_of_scan {records : List FileRecord} {found : Scan}
    (scanned : scan tree env records = .ok found) :
    ∀ record ∈ records, tree.canRead record.path = true := by
  rw [scan_eq] at scanned
  cases failure : records.findSome? (readFailure tree) with
  | some cause =>
    rw [failure] at scanned
    cases scanned
  | none =>
    intro record member
    obtain ⟨contents, reads⟩ :=
      readFailure_eq_none_iff.1 (List.findSome?_eq_none_iff.1 failure record member)
    exact FileTree.canRead_of_read reads

theorem eq_of_scan {records : List FileRecord} {found : Scan}
    (scanned : scan tree env records = .ok found) :
    found = ⟨holders tree records,
      (Resolution.start.resolveAll env (namesIn tree records)).checklist, records.length⟩ := by
  rw [scan_of_readable env (canRead_of_scan scanned)] at scanned
  exact (Except.ok.inj scanned).symm

theorem files_eq_of_scan {records : List FileRecord} {found : Scan}
    (scanned : scan tree env records = .ok found) : found.files = holders tree records := by
  rw [eq_of_scan scanned]

theorem mem_namesIn {records : List FileRecord} {name : String} :
    name ∈ namesIn tree records ↔
      ∃ record ∈ records, ∃ token ∈ tree.tokensAt record.path, token.name = name := by
  simp only [namesIn, List.mem_flatMap, List.mem_map]

theorem namesIn_eq_nil_iff {records : List FileRecord} :
    namesIn tree records = [] ↔ ∀ record ∈ records, tree.tokensAt record.path = [] := by
  rw [namesIn, List.flatMap_eq_nil_iff]
  simp

theorem holders_eq_nil_iff {records : List FileRecord} :
    holders tree records = [] ↔ ∀ record ∈ records, tree.tokensAt record.path = [] := by
  rw [holders, List.filter_eq_nil_iff]
  simp [recordOf]

theorem mem_holders {records : List FileRecord} {record : FileRecord} :
    record ∈ holders tree records ↔
      record.tokens ≠ [] ∧ ∃ unscanned ∈ records, recordOf tree unscanned = record := by
  rw [holders, List.mem_filter, List.mem_map, and_comm]
  simp

theorem mem_missing_of_scan {values : String → Option String} {records : List FileRecord}
    {found : Scan} (scanned : scan tree (.ofFunction values) records = .ok found) {name : String} :
    name ∈ found.checklist.missing ↔ name ∈ namesIn tree records ∧ values name = none := by
  rw [eq_of_scan scanned]
  exact Resolution.mem_missing_start

/-- The names that some records name are all on the checklist, with their values. -/
theorem value_of_scan {values : String → Option String} {records : List FileRecord}
    {found : Scan} (scanned : scan tree (.ofFunction values) records = .ok found) :
    ∀ record ∈ found.files, ∀ token ∈ record.tokens,
      found.checklist.value token.name = values token.name ∧
        (token.name ∈ found.checklist.missing ↔ values token.name = none) := by
  intro record member token inRecord
  rw [mem_missing_of_scan scanned]
  rw [eq_of_scan scanned] at member ⊢
  obtain ⟨-, unscanned, given, rfl⟩ := mem_holders.1 member
  have named : token.name ∈ namesIn tree records :=
    mem_namesIn.2 ⟨unscanned, given, token, inRecord, rfl⟩
  rw [Resolution.value_start, if_pos named]
  exact ⟨rfl, and_iff_right named⟩

theorem validate_eq_ok_iff {found : Scan} :
    found.validate = .ok () ↔ found.checklist.missing = [] := by
  rw [validate]
  cases found.checklist.missing with
  | nil => simp
  | cons name rest => simp

theorem validate_of_missing {found : Scan} (missing : found.checklist.missing ≠ []) :
    found.validate = .error (.missingVariables found.checklist.missing) := by
  unfold validate
  cases names : found.checklist.missing with
  | nil => exact absurd names missing
  | cons name rest => rfl

theorem validate_eq_error {found : Scan} {failure : Failure}
    (fails : found.validate = .error failure) :
    failure = .missingVariables found.checklist.missing ∧ found.checklist.missing ≠ [] := by
  by_cases missing : found.checklist.missing = []
  · rw [validate_eq_ok_iff.2 missing] at fails
    cases fails
  · rw [validate_of_missing missing] at fails
    exact ⟨(Except.error.inj fails).symm, missing⟩

/-! ## Counts -/

variable {selected : List FileRecord}

/-- The files that a scan keeps are the selected ones with placeholders. -/
theorem holders_eq_map (tree : FileTree) (selected : List FileRecord) :
    holders tree selected =
      (selected.filter fun record => !(tree.tokensAt record.path).isEmpty).map (recordOf tree) := by
  rw [holders, List.filter_map]
  rfl

theorem tokenCount_holders (tree : FileTree) (selected : List FileRecord) :
    tokenCount (holders tree selected) =
      ((selected.filter fun record => !(tree.tokensAt record.path).isEmpty).map
        fun record => (tree.tokensAt record.path).length).sum := by
  rw [tokenCount_eq_sum, holders_eq_map, List.map_map]
  rfl

/-- Files without placeholders add nothing to the count. -/
theorem sum_filter_tokens (tree : FileTree) (selected : List FileRecord) :
    ((selected.filter fun record => !(tree.tokensAt record.path).isEmpty).map
        fun record => (tree.tokensAt record.path).length).sum =
      (selected.map fun record => (tree.tokensAt record.path).length).sum := by
  induction selected with
  | nil => rfl
  | cons record rest ih =>
    rw [List.filter_cons, List.map_cons, List.sum_cons, ← ih]
    cases found : tree.tokensAt record.path with
    | nil => simp
    | cons token more => simp [found]

theorem fileCount_of_scan {found : Scan} (scanned : scan tree env selected = .ok found) :
    found.fileCount =
      (selected.filter fun record => !(tree.tokensAt record.path).isEmpty).length := by
  rw [fileCount, files_eq_of_scan scanned, holders_eq_map, List.length_map]

theorem occurrenceCount_of_scan {found : Scan} (scanned : scan tree env selected = .ok found) :
    found.occurrenceCount =
      (selected.map fun record => (tree.tokensAt record.path).length).sum := by
  rw [occurrenceCount, files_eq_of_scan scanned, tokenCount_holders, sum_filter_tokens]

/-- The variables of a scan are the names in its files. -/
theorem mem_names_of_scan {found : Scan} {name : String}
    (scanned : scan tree env selected = .ok found) :
    name ∈ found.checklist.names ↔ name ∈ namesIn tree selected := by
  rw [Checklist.mem_names_iff, eq_of_scan scanned]
  dsimp only
  rw [Resolution.contains_resolveAll]
  exact or_iff_right fun before => by cases before

/-- Files without placeholders name no variable. -/
theorem isEmpty_of_scan {found : Scan} (scanned : scan tree env selected = .ok found) :
    found.isEmpty = found.checklist.isEmpty := by
  have names : found.checklist.names = [] ↔ namesIn tree selected = [] := by
    rw [List.eq_nil_iff_forall_not_mem, List.eq_nil_iff_forall_not_mem]
    simp only [mem_names_of_scan scanned]
  rw [Bool.eq_iff_iff, isEmpty, List.isEmpty_iff, files_eq_of_scan scanned, holders_eq_nil_iff,
    Checklist.isEmpty_iff, names, namesIn_eq_nil_iff]

end Scan

end EnvInject

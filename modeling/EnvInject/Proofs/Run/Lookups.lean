import EnvInject.Proofs.Questions
import EnvInject.Proofs.Run.Report

/-!
# What a run asks its environment

A scan meets the names in the files that it reads, in the order of the files and of their
placeholders, so it asks for each of them once, when it first occurs. A run asks for nothing else.
What it writes for a name is the one answer that it got, whatever the environment would have
answered later (`run_asks_once`).
-/

namespace EnvInject

open Scan

variable {language : Pattern.Language} {config : Configuration} {env : Environment}
  {tree : FileTree}

/-- A run asks what the scan of its files asks. -/
theorem run_asked (language : Pattern.Language) (config : Configuration) (env : Environment)
    (tree : FileTree) :
    (run language config env tree).asked =
      (scanProgress tree env (selectedFiles language config tree)).resolution.asked := by
  cases selection : selection? language config tree with
  | none =>
    have noFiles : selectedFiles language config tree = [] := by
      rw [selectedFiles, selection]
      rfl
    obtain ⟨failure, -, fails⟩ := run_of_selection?_eq_none selection
    rw [noFiles, fails]
    rfl
  | some selected =>
    have selects := selects_iff.2 selection
    rw [selects.selectedFiles_eq, (selects.run_eq env).2.2.2, Run.process_asked]

/-! ## The questions of a scan -/

theorem scanProgress_asked (tree : FileTree) (env : Environment) (records : List FileRecord) :
    FirstOccurrences (namesIn tree (readablePart tree records))
      (scanProgress tree env records).resolution.asked := by
  rw [scanProgress, scanFrom_resolution]
  exact Resolution.asked_resolveAll env _

/-- A scan that fails names the file behind those it has read. -/
theorem read_of_scan_eq_error {records : List FileRecord} {failure : Failure}
    (fails : scan tree env records = .error failure) :
    ∃ record cause, records[(readablePart tree records).length]? = some record ∧
      tree.read record.path = .error cause ∧ failure = .io record.path cause := by
  obtain ⟨before, record, after, rfl, stops, earlier⟩ :=
    List.findSome?_eq_some_iff.1 (scan_eq_error_iff.1 fails)
  obtain ⟨cause, unreadable, rfl⟩ := readFailure_eq_some_iff.1 stops
  have readable : ∀ other ∈ before, tree.canRead other.path = true := by
    intro other member
    obtain ⟨contents, reads⟩ := readFailure_eq_none_iff.1 (earlier other member)
    exact FileTree.canRead_of_read reads
  have part : readablePart tree (before ++ record :: after) = before := by
    rw [readablePart, List.takeWhile_append_of_pos readable, ← readablePart,
      readablePart_cons_of_error unreadable, List.append_nil]
  refine ⟨record, cause, ?_, unreadable, rfl⟩
  rw [part, List.getElem?_append_right (Nat.le_refl _), Nat.sub_self]
  rfl

/-- What stands on the checklist of a scan for a name in its files is the answer to the one question
for it. -/
theorem value_of_named {records : List FileRecord} {found : Scan} {name : String}
    (scanned : scan tree env records = .ok found) (named : name ∈ namesIn tree records) :
    found.checklist.value name =
      env.answerIn (scanProgress tree env records).resolution.asked name := by
  have readable : readablePart tree records = records :=
    List.takeWhile_eq_self_iff.2 (canRead_of_scan scanned)
  rw [scanProgress, scanFrom_resolution, readable, eq_of_scan scanned]
  exact Resolution.value_resolveAll env named

theorem isSome_value_of_valid {records : List FileRecord} {found : Scan} {name : String}
    (scanned : scan tree env records = .ok found) (valid : found.validate = .ok ())
    (named : name ∈ namesIn tree records) : (found.checklist.value name).isSome = true := by
  have contains : found.checklist.contains name = true := by
    rw [eq_of_scan scanned]
    exact (Resolution.contains_resolveAll _ _ _).2 (.inr named)
  cases set : found.checklist.value name with
  | some value => rfl
  | none =>
    have missing := Checklist.mem_missing_iff_contains.2 ⟨contains, set⟩
    rw [validate_eq_ok_iff.1 valid] at missing
    cases missing

theorem mem_namesIn_of_mem_files {records : List FileRecord} {found : Scan}
    (scanned : scan tree env records = .ok found) {record : FileRecord}
    (member : record ∈ found.files) {token : Token} (inRecord : token ∈ record.tokens) :
    token.name ∈ namesIn tree records := by
  rw [files_eq_of_scan scanned] at member
  obtain ⟨-, unscanned, given, rfl⟩ := mem_holders.1 member
  exact mem_namesIn.2 ⟨unscanned, given, token, inRecord, rfl⟩

/-- A scan asks for each name in the files that it reads once, in the order in which the names first
occur, and for no other; these are all files, or those before the one that it names in its failure.
A run asks what the scan of the selected files asks. If it injects, every name that it asked for had
a value, and each occurrence of a name in a file that it wrote is replaced by the answer to this one
question. -/
theorem run_asks_once (language : Pattern.Language) (config : Configuration) (env : Environment)
    (tree : FileTree) :
    (∀ records,
      FirstOccurrences (namesIn tree (readablePart tree records))
          (scanProgress tree env records).resolution.asked ∧
        (∀ found, scan tree env records = .ok found → readablePart tree records = records) ∧
        ∀ failure, scan tree env records = .error failure →
          ∃ record cause, records[(readablePart tree records).length]? = some record ∧
            tree.read record.path = .error cause ∧ failure = .io record.path cause) ∧
    (∀ path contents, tree.read path = .ok contents →
      InOrder contents.length 0 (tree.tokensAt path)) ∧
    let after := run language config env tree
    FirstOccurrences (namesIn tree (readablePart tree (selectedFiles language config tree)))
        after.asked ∧
      ∀ summary, after.result = .ok (.injected summary) →
        (∀ name ∈ after.asked, (env.answerIn after.asked name).isSome = true) ∧
        after.tree = tree.mapContents (fillNodes (env.answerIn after.asked)
          (tree.filesAt (placeholderPaths language config tree))) := by
  refine ⟨fun records => ⟨scanProgress_asked tree env records, fun found scanned => ?_,
    fun failure => read_of_scan_eq_error⟩, fun path contents reads => ?_, ?_⟩
  · exact List.takeWhile_eq_self_iff.2 (canRead_of_scan scanned)
  · rw [FileTree.tokensAt_of_read reads]
    exact tokens_inOrder contents
  · intro after
    have asked : after.asked = _ := run_asked language config env tree
    refine ⟨asked ▸ scanProgress_asked tree env _, fun summary injected => ?_⟩
    obtain ⟨selected, found, finds, valid, final, done⟩ := exists_finds_of_injected injected
    rw [finds.selects.selectedFiles_eq] at asked
    have answers : ∀ name ∈ namesIn tree selected,
        found.checklist.value name = env.answerIn after.asked name := by
      intro name named
      rw [asked]
      exact value_of_named finds.scanned named
    constructor
    · intro name member
      rw [asked] at member
      have named := ((scanProgress_asked tree env selected).mem_iff name).1 member
      rw [readablePart, List.takeWhile_eq_self_iff.2 (canRead_of_scan finds.scanned)] at named
      rw [← answers name named]
      exact isSome_value_of_valid finds.scanned valid named
    · rw [final]
      exact finds.replace_tree_of_done valid (fun record member token inRecord =>
        answers _ (mem_namesIn_of_mem_files finds.scanned member inRecord)) done

/-- An environment that answers the second question otherwise than the first: the name that occurs
again behind it keeps the first answer. -/
theorem run_asks_once_changing :
    let config : Configuration := ⟨[0x2E], "a", false, false, false, 0⟩
    let contents := [0x41, 0x42, 0x41].flatMap fun letter => Placeholder.marker ++ [letter, 0x3B]
    let treeOf (contents : Bytes) : FileTree :=
      ⟨[⟨.directory [([0x61], 1)], 0o755⟩, ⟨.file contents, 0o644⟩], [0]⟩
    let env : Environment := ⟨fun asked _ => some (if asked.isEmpty then "x" else "y")⟩
    let after := run .regular config env (treeOf contents)
    after.result = .ok (.injected ⟨1, 3, 2⟩) ∧
      FirstOccurrences ["A", "B", "A"] after.asked ∧
      after.tree = treeOf [0x78, 0x3B, 0x79, 0x3B, 0x78, 0x3B] := by
  intro config contents treeOf env after
  have injected : after.result = .ok (.injected ⟨1, 3, 2⟩) :=
    toOption_eq_some_iff.1 (by decide +kernel)
  have names : namesIn (treeOf contents) (readablePart (treeOf contents)
      (selectedFiles .regular config (treeOf contents))) = ["A", "B", "A"] := by
    decide +kernel
  obtain ⟨-, -, asked, answered⟩ := run_asks_once .regular config env (treeOf contents)
  rw [names] at asked
  refine ⟨injected, asked, ?_⟩
  rw [(answered _ injected).2]
  decide +kernel

end EnvInject

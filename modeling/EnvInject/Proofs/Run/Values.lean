import EnvInject.Proofs.Run.Report

/-!
# What a run does with values

A run asks whether a variable is set and writes its value into files. It never looks at the value:
two environments that set the same of the names in the selected files give the same result, the same
messages and the same questions, and if they also give these names the same values they leave the
same tree. What they say about other names does not matter.

The step is `Resolution.Alike.resolve`: two checklists that mark the same names the same way still
do after one more name. Everything that is told is read off the marks.
-/

namespace EnvInject

variable {first second : String → Option String}

/-! ## Checklists with the same marks -/

namespace Checklist

/-- Where a name is entered depends on the names alone. -/
theorem marks_enterEntry {name : String} {value value' : Option String}
    (set : value.isSome = value'.isSome) {entries entries' : List (String × Option String)}
    (same : entries.map (fun entry => (entry.1, entry.2.isSome)) =
      entries'.map fun entry => (entry.1, entry.2.isSome)) :
    (enterEntry name value entries).map (fun entry => (entry.1, entry.2.isSome)) =
      (enterEntry name value' entries').map fun entry => (entry.1, entry.2.isSome) := by
  induction entries generalizing entries' with
  | nil =>
    obtain rfl := List.map_eq_nil_iff.1 same.symm
    simp [enterEntry, set]
  | cons entry rest ih =>
    cases entries' with
    | nil => simp at same
    | cons entry' rest' =>
      rw [List.map_cons, List.map_cons, List.cons.injEq, Prod.mk.injEq] at same
      obtain ⟨⟨sameName, sameMark⟩, sameRest⟩ := same
      rw [enterEntry, enterEntry, sameName]
      split
      · simp [sameName, sameMark, sameRest]
      · split
        · simp [sameName, sameMark, sameRest, set]
        · simp [sameName, sameMark, ih sameRest]

end Checklist

namespace Resolution

/-- Resolutions that met the same names, found the same of them set and asked the same questions. -/
structure Alike (one other : Resolution) : Prop where
  marks_eq : one.checklist.marks = other.checklist.marks
  asked_eq : one.asked = other.asked

variable {one other : Resolution}

theorem Alike.resolve (alike : Alike one other) {name : String}
    (set : (first name).isSome = (second name).isSome) :
    Alike (one.resolve (.ofFunction first) name) (other.resolve (.ofFunction second) name) := by
  have contains : one.checklist.contains name = other.checklist.contains name := by
    rw [Checklist.contains_eq_any_marks, alike.marks_eq, Checklist.contains_eq_any_marks]
  rw [Resolution.resolve_eq, Resolution.resolve_eq, contains]
  split
  · exact alike
  · refine ⟨Checklist.marks_enterEntry set alike.marks_eq, ?_⟩
    rw [alike.asked_eq]

theorem Alike.resolveAll (alike : Alike one other) {names : List String}
    (set : ∀ name ∈ names, (first name).isSome = (second name).isSome) :
    Alike (one.resolveAll (.ofFunction first) names)
      (other.resolveAll (.ofFunction second) names) := by
  induction names generalizing one other with
  | nil => exact alike
  | cons name rest ih =>
    exact ih (alike.resolve (set name List.mem_cons_self)) fun later member =>
      set later (List.mem_cons_of_mem _ member)

theorem resolveAll_congr (known : Resolution) {names : List String}
    (same : ∀ name ∈ names, first name = second name) :
    known.resolveAll (.ofFunction first) names = known.resolveAll (.ofFunction second) names := by
  refine List.foldl_ext _ _ known fun met name member => ?_
  rw [resolve_eq, resolve_eq, Environment.ofFunction, Environment.ofFunction]
  dsimp only
  rw [same name member]

end Resolution

/-! ## Scans that tell the same -/

namespace Scan

/-- Scans that differ at most in the values of variables that both found set. -/
structure Alike (one other : Scan) : Prop where
  files_eq : one.files = other.files
  marks_eq : one.checklist.marks = other.checklist.marks
  filesMatched_eq : one.filesMatched = other.filesMatched

variable {one other : Scan}

theorem Alike.missing_eq (alike : Alike one other) :
    one.checklist.missing = other.checklist.missing := by
  rw [Checklist.missing_eq_filter_marks, alike.marks_eq, Checklist.missing_eq_filter_marks]

theorem Alike.size_eq (alike : Alike one other) : one.checklist.size = other.checklist.size := by
  rw [Checklist.size_eq_length_marks, alike.marks_eq, Checklist.size_eq_length_marks]

theorem Alike.report_eq (alike : Alike one other) (matcher : String)
    (result : Except Failure Outcome) :
    Run.report matcher result (.ok one) = Run.report matcher result (.ok other) := by
  have empty : one.isEmpty = other.isEmpty := by
    rw [isEmpty, isEmpty, alike.files_eq]
  have matched : Run.matchedText matcher one = Run.matchedText matcher other := by
    simp only [Run.matchedText, fileCount, alike.files_eq, alike.filesMatched_eq]
  have entries : Run.foundEntries one = Run.foundEntries other := by
    simp only [Run.foundEntries, Run.foundText, occurrenceCount, alike.files_eq, alike.marks_eq,
      alike.size_eq]
  rw [Run.report, Run.report, empty, matched, entries]

variable {tree : FileTree} {records : List FileRecord}

/-- Under environments that set the same of the names in some files, scans of these files fail alike
or find the same. -/
theorem scan_alike
    (set : ∀ record ∈ records, ∀ token ∈ tree.tokensAt record.path,
      (first token.name).isSome = (second token.name).isSome) :
    (scanProgress tree (.ofFunction first) records).resolution.asked =
        (scanProgress tree (.ofFunction second) records).resolution.asked ∧
      ((∃ failure, scan tree (.ofFunction first) records = .error failure ∧
          scan tree (.ofFunction second) records = .error failure) ∨
        ∃ one other, scan tree (.ofFunction first) records = .ok one ∧
          scan tree (.ofFunction second) records = .ok other ∧ Alike one other) := by
  have named : ∀ name ∈ namesIn tree (readablePart tree records),
      (first name).isSome = (second name).isSome := by
    intro name member
    obtain ⟨record, read, token, inFile, rfl⟩ := mem_namesIn.1 member
    exact set record ((List.takeWhile_sublist _).subset read) token inFile
  have resolved : Resolution.Alike .start .start := ⟨rfl, rfl⟩
  have resolved := resolved.resolveAll named
  rw [scanProgress, scanProgress, scanFrom_resolution, scanFrom_resolution, scan_eq, scan_eq]
  refine ⟨resolved.asked_eq, ?_⟩
  cases records.findSome? (readFailure tree) with
  | some failure => exact .inl ⟨failure, rfl, rfl⟩
  | none => exact .inr ⟨_, _, rfl, rfl, rfl, resolved.marks_eq, rfl⟩

theorem scan_congr
    (same : ∀ record ∈ records, ∀ token ∈ tree.tokensAt record.path,
      first token.name = second token.name) :
    scan tree (.ofFunction first) records = scan tree (.ofFunction second) records := by
  have named : ∀ name ∈ namesIn tree (readablePart tree records), first name = second name := by
    intro name member
    obtain ⟨record, read, token, inFile, rfl⟩ := mem_namesIn.1 member
    exact same record ((List.takeWhile_sublist _).subset read) token inFile
  rw [scan_eq, scan_eq, Resolution.resolveAll_congr _ named]

end Scan

/-! ## The whole run -/

variable {language : Pattern.Language} {config : Configuration} {tree : FileTree}
  {selected : List FileRecord}

/-- Replacements of scans that tell the same end in the same way: how far they come depends on the
files alone. -/
theorem conclude_result_congr {one other : Scan}
    (finds : Finds language config (.ofFunction first) tree selected one)
    (finds' : Finds language config (.ofFunction second) tree selected other)
    (alike : Scan.Alike one other) :
    (Run.conclude config tree one).result = (Run.conclude config tree other).result := by
  by_cases missing : one.checklist.missing = []
  · have valid := Scan.validate_eq_ok_iff.2 missing
    have valid' := Scan.validate_eq_ok_iff.2 (alike.missing_eq ▸ missing)
    have fileCount : one.fileCount = other.fileCount := congrArg List.length alike.files_eq
    have occurrences : one.occurrenceCount = other.occurrenceCount :=
      congrArg tokenCount alike.files_eq
    cases isDry : config.dryRun with
    | true =>
      rw [conclude_of_dry valid isDry, conclude_of_dry valid' isDry, fileCount, occurrences,
        alike.size_eq]
    | false =>
      rw [(conclude_of_notDry valid isDry).1, (conclude_of_notDry valid' isDry).1,
        finds.replace_result valid, finds'.replace_result valid', fileCount, occurrences,
        alike.size_eq]
  · have missing' : other.checklist.missing ≠ [] := alike.missing_eq ▸ missing
    simp only [Run.conclude, Scan.validate_of_missing missing, Scan.validate_of_missing missing',
      alike.missing_eq]

/-- From the selection on, runs under environments that set the same names have one result, tell the
same and ask for the same: none of these depends on what the values are. -/
theorem process_alike (selects : Selects language config tree selected)
    (set : ∀ record ∈ selected, ∀ token ∈ tree.tokensAt record.path,
      (first token.name).isSome = (second token.name).isSome) :
    (Run.process config (.ofFunction first) tree selected).result =
        (Run.process config (.ofFunction second) tree selected).result ∧
      (Run.process config (.ofFunction first) tree selected).messages =
        (Run.process config (.ofFunction second) tree selected).messages ∧
      (Run.process config (.ofFunction first) tree selected).asked =
        (Run.process config (.ofFunction second) tree selected).asked := by
  obtain ⟨asked, scans⟩ := Scan.scan_alike set
  simp only [Run.process_messages, Run.process_asked, Run.process_result]
  rcases scans with ⟨failure, fails, fails'⟩ | ⟨one, other, scanned, scanned', alike⟩
  · rw [fails, fails']
    exact ⟨rfl, rfl, asked⟩
  · have concluded := conclude_result_congr ⟨selects, scanned⟩ ⟨selects, scanned'⟩ alike
    have empty : one.isEmpty = other.isEmpty := congrArg List.isEmpty alike.files_eq
    rw [scanned, scanned']
    dsimp only
    rw [empty, concluded]
    exact ⟨rfl, alike.report_eq _ _, asked⟩

/-- Runs under environments that set the same of the names in the selected files have one result,
tell the same and ask for the same. If these names also have the same values, the runs leave the
same tree. -/
theorem run_ignores_values (language : Pattern.Language) (config : Configuration) (tree : FileTree)
    (set : ∀ record ∈ selectedFiles language config tree, ∀ token ∈ tree.tokensAt record.path,
      (first token.name).isSome = (second token.name).isSome) :
    let one := run language config (.ofFunction first) tree
    let other := run language config (.ofFunction second) tree
    one.result = other.result ∧ one.messages = other.messages ∧ one.asked = other.asked ∧
      ((∀ record ∈ selectedFiles language config tree, ∀ token ∈ tree.tokensAt record.path,
        first token.name = second token.name) → one.tree = other.tree) := by
  intro one other
  cases selection : selection? language config tree with
  | none =>
    obtain ⟨failure, -, fails⟩ := run_of_selection?_eq_none selection
    have same : one = other := (fails _).trans (fails _).symm
    rw [same]
    exact ⟨rfl, rfl, rfl, fun _ => rfl⟩
  | some selected =>
    have selects := selects_iff.2 selection
    have isSelected : selectedFiles language config tree = selected := by
      rw [selectedFiles, selection, Option.getD_some]
    rw [isSelected] at set ⊢
    obtain ⟨result, messages, asked⟩ := process_alike selects set
    obtain ⟨result₁, tree₁, messages₁, asked₁⟩ := selects.run_eq (.ofFunction first)
    obtain ⟨result₂, tree₂, messages₂, asked₂⟩ := selects.run_eq (.ofFunction second)
    refine ⟨?_, ?_, ?_, fun same => ?_⟩
    · exact result₁.trans (result.trans result₂.symm)
    · exact messages₁.trans (messages.trans messages₂.symm)
    · exact asked₁.trans (asked.trans asked₂.symm)
    · refine tree₁.trans (Eq.trans ?_ tree₂.symm)
      rw [Run.process_tree, Run.process_tree, Scan.scan_congr same]

/-- Two values of one variable, of different lengths, and a variable of which no file speaks. -/
theorem run_ignores_values_two :
    let config : Configuration := ⟨[0x2E], "a", false, false, false, 0⟩
    let tree : FileTree :=
      ⟨[⟨.directory [([0x61], 1)], 0o755⟩, ⟨.file (Placeholder.marker ++ [0x41]), 0o644⟩], [0]⟩
    let first := fun name => if name = "A" then some "x" else none
    let second := fun name => if name = "A" then some "longer" else some "y"
    let third := fun name => if name = "A" then some "x" else some "y"
    let runOf := fun values => run .regular config (.ofFunction values) tree
    (runOf first).result = .ok (.injected ⟨1, 1, 1⟩) ∧
      (runOf first).result = (runOf second).result ∧
      (runOf first).messages = (runOf second).messages ∧
      (runOf first).asked = (runOf second).asked ∧
      (runOf first).tree ≠ (runOf second).tree ∧ (runOf first).tree = (runOf third).tree := by
  intro config tree first second third runOf
  obtain ⟨result, messages, asked, -⟩ :=
    @run_ignores_values first second .regular config tree (by decide +kernel)
  obtain ⟨-, -, -, sameTree⟩ :=
    @run_ignores_values first third .regular config tree (by decide +kernel)
  exact ⟨toOption_eq_some_iff.1 (by decide +kernel), result, messages, asked,
    by decide +kernel, sameTree (by decide +kernel)⟩

end EnvInject

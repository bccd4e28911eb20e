import EnvInject.Pattern.Basic
import EnvInject.Proofs.Placeholder.Text
import EnvInject.Proofs.Run.Course

/-!
# Runs on texts

Whatever an environment answers, all that a run does to a tree is to fill some of its files from one
checklist (`run_fills`). A file that is a text is a text afterwards (`filling_keeps_text`), whether
the run came to its end or not.
-/

namespace EnvInject

/-- A run fills some files, all with the values of one checklist, and changes nothing else. -/
theorem run_fills (language : Pattern.Language) (config : Configuration) (env : Environment)
    (tree : FileTree) :
    ∃ (checklist : Checklist) (ids : List NodeId),
      (run language config env tree).tree = tree.mapContents (fillNodes checklist.value ids) := by
  have course := run_course language config env tree
  have untouched : tree = tree.mapContents (fillNodes Checklist.empty.value []) :=
    (tree.mapContents_fillNodes_nil _).symm
  generalize (run language config env tree).result = result,
    (run language config env tree).tree = final at course
  cases course with
  | early fails => exact ⟨.empty, [], untouched⟩
  | nothing finds none => exact ⟨.empty, [], untouched⟩
  | dry finds some valid isDry => exact ⟨.empty, [], untouched⟩
  | @replaced selected found finds some valid notDry =>
    obtain ⟨filled, -, -⟩ := replace_of_agreeing finds.selects.separate finds.scanned valid
      fun _ _ _ _ => rfl
    exact ⟨found.checklist, _, filled⟩

/-- Filling a text makes a text of it: the one that has the characters of the values in the place of
those of the placeholders that have one. So a run leaves a text in each file that held one. -/
theorem filling_keeps_text {contents : Bytes} {text : String}
    (isText : Utf8.decode? contents = some text) :
    (∀ checklist : Checklist, ∃ result new,
      fill checklist.value contents (tokens contents) = some result ∧
        Utf8.decode? result = some new ∧
        ∀ other, SplicesText checklist.value 0 text (tokens contents) other ↔ other = new) ∧
    ∀ (language : Pattern.Language) config env tree id mode,
      FileTree.node? tree id = some ⟨.file contents, mode⟩ → ∃ result new,
        (run language config env tree).tree.node? id = some ⟨.file result, mode⟩ ∧
        Utf8.decode? result = some new := by
  refine ⟨fun checklist => fill_tokens_text checklist.value isText, ?_⟩
  intro language config env tree id mode held
  obtain ⟨checklist, ids, final⟩ := run_fills language config env tree
  refine ⟨fillNodes checklist.value ids id contents, ?_⟩
  rw [final, FileTree.node?_mapContents, held]
  by_cases isFilled : id ∈ ids
  · obtain ⟨result, new, filled, isNew, -⟩ := fill_tokens_text checklist.value isText
    rw [fill_tokens, Option.some.injEq] at filled
    refine ⟨new, rfl, ?_⟩
    rw [fillNodes_of_mem isFilled, filled, isNew]
  · refine ⟨text, rfl, ?_⟩
    rw [fillNodes_of_not_mem isFilled, isText]

/-- Placeholders between letters that are no ASCII, and a value that is none. -/
theorem filling_keeps_text_accents :
    let text := "é__reactenv.Aü__reactenv.B"
    let contents := Utf8.encode text
    let checklist := (Checklist.empty.enter "A" (some "→")).enter "B" none
    let tree : FileTree :=
      ⟨[⟨.directory [([0x61], 1)], 0o755⟩, ⟨.file contents, 0o644⟩], [0]⟩
    let after :=
      run .regular ⟨[0x2E], "a", false, false, false, 0⟩ (.ofFunction fun _ => some "→") tree
    Utf8.decode? contents = some text ∧
      (∃ result, fill checklist.value contents (tokens contents) = some result ∧
        Utf8.decode? result = some "é→ü__reactenv.B" ∧
        SplicesText checklist.value 0 text (tokens contents) "é→ü__reactenv.B") ∧
      ∃ result, after.tree.node? 1 = some ⟨.file result, 0o644⟩ ∧
        Utf8.decode? result = some "é→ü→" := by
  intro text contents checklist tree after
  have isText : Utf8.decode? contents = some text := by decide +kernel
  obtain ⟨filling, running⟩ := filling_keeps_text isText
  obtain ⟨result, new, filled, isNew, splices_iff⟩ := filling checklist
  obtain ⟨left, leftText, final, isLeft⟩ :=
    running .regular ⟨[0x2E], "a", false, false, false, 0⟩ (.ofFunction fun _ => some "→") tree
      1 0o644 rfl
  have filled_eq : fill checklist.value contents (tokens contents) =
      some (Utf8.encode "é→ü__reactenv.B") := by decide +kernel
  have final_eq : after.tree.node? 1 = some ⟨.file (Utf8.encode "é→ü→"), 0o644⟩ := by
    decide +kernel
  obtain rfl := Option.some.inj (filled.symm.trans filled_eq)
  rw [Utf8.decode?_encode, Option.some.injEq] at isNew
  obtain rfl := isNew
  exact ⟨isText, ⟨_, filled, Utf8.decode?_encode _, (splices_iff _).2 rfl⟩, _, final_eq,
    Utf8.decode?_encode _⟩

end EnvInject

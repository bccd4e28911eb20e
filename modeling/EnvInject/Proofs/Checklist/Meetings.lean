import EnvInject.Proofs.Checklist
import Mathlib.Data.List.Dedup

/-!
# Names met with environments of their own

The names on a checklist need not come from one environment: each meeting of a name may bring its
own (`Meeting`). What a checklist holds is then a map that is written once for each name, at its
first meeting (`firstAnswer?`), and all that can be read off the checklist follows from this map
(`first_meeting_decides`).

The step is `lookup_outcome`: a meeting adds an answer to a name that has none and changes no other.
-/

namespace EnvInject

/-- The meeting of a name, with the environment to be asked for it. An environment that was asked
before, and may answer otherwise now, counts as another one. -/
structure Meeting where
  name : String
  env : Environment

/-- What comes of a meeting: whether the name is new, the checklist with it and what was asked. -/
def Meeting.outcome (meeting : Meeting) (checklist : Checklist) : Bool × Resolution :=
  Resolution.meet meeting.env ⟨checklist, []⟩ meeting.name

/-- The checklist after some meetings, one after the other. -/
def checklistAfter (meetings : List Meeting) : Checklist :=
  meetings.foldl (fun checklist meeting => (meeting.outcome checklist).2.checklist) .empty

/-- The answer at the first meeting of a name, if there was one. -/
def firstAnswer? (meetings : List Meeting) (name : String) : Option (Option String) :=
  (meetings.find? (·.name == name)).map fun first => first.env.answer [] name

variable {checklist : Checklist} {meetings : List Meeting}

theorem firstAnswer?_cons (meeting : Meeting) (rest : List Meeting) (name : String) :
    firstAnswer? (meeting :: rest) name =
      (if name = meeting.name then some (meeting.env.answer [] name) else none).or
        (firstAnswer? rest name) := by
  rw [firstAnswer?, List.find?_cons]
  by_cases same : name = meeting.name
  · simp [same]
  · rw [beq_false_of_ne (Ne.symm same), if_neg same, Option.none_or, firstAnswer?]

theorem isSome_firstAnswer?_iff {name : String} :
    (firstAnswer? meetings name).isSome = true ↔ name ∈ meetings.map (·.name) := by
  simp [firstAnswer?]

/-- A meeting adds the answer to a name that was not met, and that is all it changes. -/
theorem lookup_outcome (meeting : Meeting) (checklist : Checklist) (name : String) :
    (meeting.outcome checklist).2.checklist.entries.lookup name =
      (checklist.entries.lookup name).or
        (if name = meeting.name then some (meeting.env.answer [] name) else none) := by
  have stepped := @Resolution.lookup_resolve (meeting.env.answer []) ⟨checklist, []⟩ meeting.name
    name
  by_cases same : name = meeting.name
  · subst same
    exact stepped
  · rw [if_neg same] at stepped ⊢
    exact stepped

/-- A checklist holds the first answer for each name that was met. -/
theorem lookup_checklistAfter (meetings : List Meeting) (name : String) :
    (checklistAfter meetings).entries.lookup name = firstAnswer? meetings name := by
  have met (start : Checklist) :
      (meetings.foldl (fun checklist meeting => (meeting.outcome checklist).2.checklist)
          start).entries.lookup name =
        (start.entries.lookup name).or (firstAnswer? meetings name) := by
    induction meetings generalizing start with
    | nil => simp [firstAnswer?]
    | cons meeting rest ih =>
      rw [List.foldl_cons, ih, lookup_outcome, firstAnswer?_cons, Option.or_assoc]
  exact met .empty

theorem contains_checklistAfter {name : String} :
    (checklistAfter meetings).contains name = true ↔ name ∈ meetings.map (·.name) := by
  rw [Checklist.contains_eq_isSome_lookup, lookup_checklistAfter, isSome_firstAnswer?_iff]

/-- The environment is asked for a new name, once, and for nothing else. -/
theorem Meeting.asked_outcome (meeting : Meeting) (checklist : Checklist) :
    (meeting.outcome checklist).2.asked =
      if (meeting.outcome checklist).1 then [meeting.name] else [] := by
  rw [outcome, Resolution.meet]
  split
  · rfl
  · rfl

theorem Meeting.isNew_iff (meeting : Meeting) (checklist : Checklist) :
    (meeting.outcome checklist).1 = true ↔ checklist.contains meeting.name = false := by
  rw [outcome, Resolution.meet]
  split
  · rename_i known
    simp [known]
  · rename_i new
    simpa using new

namespace Checklist

theorem length_missing_add_resolvedCount (checklist : Checklist) :
    checklist.missing.length + checklist.resolvedCount = checklist.size := by
  have split := List.length_eq_length_filter_add (l := checklist.entries) (·.2.isNone)
  simp only [Option.not_isNone] at split
  rw [missing, List.length_map, resolvedCount, size, split]

theorem marks_ascending (checklist : Checklist) :
    checklist.marks.Pairwise fun a b => Utf8.encode a.1 < Utf8.encode b.1 := by
  rw [marks_eq, List.pairwise_map]
  exact checklist.names_ascending

theorem mem_marks_iff {name : String} {mark : Bool} : (name, mark) ∈ checklist.marks ↔
    checklist.contains name = true ∧ mark = checklist.isResolved name := by
  rw [marks_eq, ← mem_names_iff, isResolved]
  constructor
  · intro member
    obtain ⟨listed, isName, same⟩ := List.mem_map.1 member
    obtain ⟨rfl, rfl⟩ := Prod.mk.inj same
    exact ⟨isName, rfl⟩
  · rintro ⟨isName, rfl⟩
    exact List.mem_map.2 ⟨name, isName, rfl⟩

/-- A checklist has as many names as there are distinct names among those it was made from. -/
theorem size_eq_length_dedup {met : List String}
    (contains_iff : ∀ name, checklist.contains name = true ↔ name ∈ met) :
    checklist.size = met.dedup.length := by
  have nodup : checklist.names.Nodup := by
    refine checklist.names_ascending.imp fun {a b} before same => ?_
    rw [same] at before
    exact List.lt_irrefl _ before
  have perm : checklist.names.Perm met.dedup := by
    rw [List.perm_ext_iff_of_nodup nodup met.nodup_dedup]
    intro name
    rw [mem_names_iff, contains_iff, List.mem_dedup]
  rw [← length_names, perm.length_eq]

end Checklist

/-- The first meeting of a name decides. It is the one that finds the name new, and the only one at
which an environment is asked for it; the answer is the value of the name from then on. The names of
the checklist, in order and marked, the missing ones, the counts and equality all go by this. -/
theorem first_meeting_decides (meetings others : List Meeting) (next : Meeting) :
    let checklist := checklistAfter meetings
    let outcome := next.outcome checklist
    (outcome.1 = true ↔ ∀ earlier ∈ meetings, earlier.name ≠ next.name) ∧
      outcome.2.asked = (if outcome.1 then [next.name] else []) ∧
      (∀ name, checklist.value name =
        (meetings.find? (·.name == name)).bind fun first => first.env.answer [] name) ∧
      (∀ name, checklist.contains name = true ↔ name ∈ meetings.map (·.name)) ∧
      checklist.size = (meetings.map (·.name)).dedup.length ∧
      checklist.marks.Pairwise (fun a b => Utf8.encode a.1 < Utf8.encode b.1) ∧
      (∀ name mark, (name, mark) ∈ checklist.marks ↔
        name ∈ meetings.map (·.name) ∧ mark = (checklist.value name).isSome) ∧
      checklist.missing = (checklist.marks.filter (!·.2)).map (·.1) ∧
      checklist.missing.length + checklist.resolvedCount = checklist.size ∧
      (checklist = checklistAfter others ↔ ∀ name,
        checklist.contains name = (checklistAfter others).contains name ∧
          checklist.value name = (checklistAfter others).value name) := by
  intro checklist outcome
  refine ⟨?_, next.asked_outcome checklist, ?_, fun _ => contains_checklistAfter,
    Checklist.size_eq_length_dedup fun _ => contains_checklistAfter, checklist.marks_ascending, ?_,
    checklist.missing_eq_filter_marks, checklist.length_missing_add_resolvedCount, ?_⟩
  · rw [next.isNew_iff checklist, ← Bool.not_eq_true, contains_checklistAfter, List.mem_map]
    constructor
    · exact fun unmet earlier member same => unmet ⟨earlier, member, same⟩
    · rintro differ ⟨earlier, member, same⟩
      exact differ earlier member same
  · intro name
    rw [Checklist.value, lookup_checklistAfter, firstAnswer?]
    cases meetings.find? (·.name == name) with
    | none => rfl
    | some first => rfl
  · intro name mark
    rw [Checklist.mem_marks_iff, contains_checklistAfter, Checklist.isResolved]
  · constructor
    · rintro same name
      rw [same]
      exact ⟨rfl, rfl⟩
    · intro agree
      exact Checklist.eq_of_contains_of_value (fun name => (agree name).1)
        fun name _ => (agree name).2

end EnvInject

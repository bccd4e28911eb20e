import EnvInject.Proofs.Checklist
import Mathlib.Data.List.Induction
import Mathlib.Data.List.Nodup
import Mathlib.Data.List.TakeWhile

/-!
# Which questions are asked

Where names are met one after the other, each is asked for when it is first met and never again
(`Resolution.asked_resolveAll`). So an environment that may change its mind has one say on each
name, the answer after the questions before it (`Environment.answerIn`), and a checklist holds these
answers and nothing else (`Resolution.Records`).

The step is `Resolution.Records.resolve`: a question that is put last changes no earlier answer.
-/

namespace EnvInject

/-- What an environment answers for a name, where names are asked for one after the other. -/
def Environment.answerIn (env : Environment) (asked : List String) (name : String) :
    Option String :=
  env.answer (asked.takeWhile (· != name)) name

variable {env : Environment} {asked : List String} {name other : String}

/-- A further question is put after the answer. -/
theorem Environment.answerIn_concat_of_mem (member : name ∈ asked) :
    env.answerIn (asked ++ [other]) name = env.answerIn asked name := by
  have stops : (asked.takeWhile (· != name)).length ≠ asked.length := by
    intro same
    have all := (List.takeWhile_prefix (· != name)).eq_of_length same
    have differs := List.takeWhile_eq_self_iff.1 all name member
    simp at differs
  rw [answerIn, answerIn, List.takeWhile_append, if_neg stops]

/-- The last question is put after all others. -/
theorem Environment.answerIn_concat_self (fresh : name ∉ asked) :
    env.answerIn (asked ++ [name]) name = env.answer asked name := by
  have passed : asked.takeWhile (· != name) = asked := by
    refine List.takeWhile_eq_self_iff.2 fun earlier member => ?_
    have differs : earlier ≠ name := fun same => fresh (same ▸ member)
    simpa using differs
  rw [answerIn, List.takeWhile_append, passed, if_pos rfl]
  simp

/-! ## First occurrences -/

/-- The names of a list, each once, in the order in which the list first has them. -/
structure FirstOccurrences (names asked : List String) : Prop where
  mem_iff : ∀ name, name ∈ asked ↔ name ∈ names
  nodup : asked.Nodup
  ascending : asked.Pairwise fun a b => names.idxOf a < names.idxOf b

theorem FirstOccurrences.nil : FirstOccurrences [] [] :=
  ⟨fun _ => Iff.rfl, .nil, .nil⟩

theorem FirstOccurrences.idxOf_concat {names : List String} (first : FirstOccurrences names asked)
    (name : String) : asked.Pairwise fun a b =>
      (names ++ [name]).idxOf a < (names ++ [name]).idxOf b := by
  refine first.ascending.imp_of_mem fun {a b} askedA askedB before => ?_
  rwa [List.idxOf_append_of_mem ((first.mem_iff a).1 askedA),
    List.idxOf_append_of_mem ((first.mem_iff b).1 askedB)]

theorem FirstOccurrences.concat_of_mem {names : List String}
    (first : FirstOccurrences names asked) (known : name ∈ names) :
    FirstOccurrences (names ++ [name]) asked := by
  refine ⟨fun other => ?_, first.nodup, first.idxOf_concat name⟩
  rw [first.mem_iff, List.mem_append, List.mem_singleton]
  constructor
  · exact .inl
  · rintro (member | rfl)
    · exact member
    · exact known

/-- A name that was not met before first occurs at the end, behind all others. -/
theorem FirstOccurrences.concat_of_not_mem {names : List String}
    (first : FirstOccurrences names asked) (new : name ∉ names) :
    FirstOccurrences (names ++ [name]) (asked ++ [name]) := by
  refine ⟨fun other => ?_, ?_, ?_⟩
  · rw [List.mem_append, List.mem_append, first.mem_iff]
  · have fresh : name ∉ asked := fun member => new ((first.mem_iff name).1 member)
    rw [← List.concat_eq_append]
    exact first.nodup.concat fresh
  · refine List.pairwise_append.2 ⟨first.idxOf_concat name, List.pairwise_singleton _ _, ?_⟩
    intro a member b isName
    rw [List.mem_singleton.1 isName, List.idxOf_append_of_notMem new,
      List.idxOf_append_of_mem ((first.mem_iff a).1 member)]
    have inside := List.idxOf_lt_length_of_mem ((first.mem_iff a).1 member)
    omega

namespace Resolution

theorem resolve_of_contains {known : Resolution}
    (met : known.checklist.contains name = true) : known.resolve env name = known := by
  rw [resolve_eq, if_pos met]

theorem resolve_of_not_contains {known : Resolution}
    (new : known.checklist.contains name = false) : known.resolve env name =
      ⟨known.checklist.enter name (env.answer known.asked name), known.asked ++ [name]⟩ := by
  rw [resolve_eq, new]
  rfl

/-- The names that are met are asked for where they first occur. -/
theorem asked_resolveAll (env : Environment) (names : List String) :
    FirstOccurrences names (start.resolveAll env names).asked := by
  induction names using List.reverseRecOn with
  | nil => exact .nil
  | append_singleton names name ih =>
    have contains_iff := @contains_resolveAll env start names name
    rw [resolveAll_append, resolveAll_cons]
    change FirstOccurrences _ (resolve env _ name).asked
    by_cases member : name ∈ names
    · rw [resolve_of_contains (contains_iff.2 (.inr member))]
      exact ih.concat_of_mem member
    · have new : (start.resolveAll env names).checklist.contains name = false := by
        rw [← Bool.not_eq_true, contains_iff]
        rintro (before | later)
        · cases before
        · exact member later
      rw [resolve_of_not_contains new]
      exact ih.concat_of_not_mem member

/-- A checklist holds the answers to the questions that were asked, and nothing else. -/
def Records (env : Environment) (known : Resolution) : Prop :=
  ∀ name, known.checklist.entries.lookup name =
    if name ∈ known.asked then some (env.answerIn known.asked name) else none

theorem records_start (env : Environment) : start.Records env := by
  intro name
  simp [start, Checklist.empty]

theorem Records.contains_iff {known : Resolution} (records : known.Records env) (name : String) :
    known.checklist.contains name = true ↔ name ∈ known.asked := by
  rw [Checklist.contains_eq_isSome_lookup, records name]
  split
  · rename_i member
    simp [member]
  · rename_i fresh
    simp [fresh]

/-- Meeting a name keeps the record: a known name is not asked for, and a new one is entered with
the answer to the question that is then the last. -/
theorem Records.resolve {known : Resolution} (records : known.Records env) (name : String) :
    (known.resolve env name).Records env := by
  cases met : known.checklist.contains name with
  | true =>
    rw [resolve_of_contains met]
    exact records
  | false =>
    have fresh : name ∉ known.asked := by
      rw [← records.contains_iff, met]
      exact Bool.false_ne_true
    rw [Checklist.contains_eq_isSome_lookup] at met
    have absent := Option.isSome_eq_false_iff.1 met
    rw [resolve_of_not_contains (by rwa [Checklist.contains_eq_isSome_lookup])]
    intro other
    dsimp only [Checklist.enter]
    by_cases same : other = name
    · subst same
      rw [Checklist.lookup_enterEntry_self (Option.isNone_iff_eq_none.1 absent),
        if_pos (by simp), Environment.answerIn_concat_self fresh]
    · rw [Checklist.lookup_enterEntry_of_ne same, records other]
      by_cases member : other ∈ known.asked
      · rw [if_pos member, if_pos (List.mem_append_left _ member),
          Environment.answerIn_concat_of_mem member]
      · rw [if_neg member, if_neg (by simp [member, same])]

theorem Records.resolveAll {known : Resolution} (records : known.Records env)
    (names : List String) : (known.resolveAll env names).Records env := by
  induction names generalizing known with
  | nil => exact records
  | cons name rest ih =>
    rw [resolveAll_cons]
    exact ih (records.resolve name)

/-- The value of a name that was met is the one answer given for it. -/
theorem value_resolveAll (env : Environment) {names : List String} {name : String}
    (member : name ∈ names) :
    (start.resolveAll env names).checklist.value name =
      env.answerIn (start.resolveAll env names).asked name := by
  have records := (records_start env).resolveAll names
  have isAsked := ((asked_resolveAll env names).mem_iff name).2 member
  rw [Checklist.value, records name, if_pos isAsked]
  rfl

end Resolution

end EnvInject

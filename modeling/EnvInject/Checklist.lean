import EnvInject.Environment

/-!
# The checklist of variables

A `Checklist` holds every variable that some files name, each once, with the value that the
environment gave when the name was first met, if it gave one. Names stand in ascending order of
their UTF-8 bytes. A name keeps its first answer: entering it again changes nothing, also when that
answer was that the variable is unset.

`Resolution` is a checklist in the making: it also keeps the questions put to the environment.
-/

namespace EnvInject

/-- Whether one name comes before another on a checklist. -/
def nameBefore (a b : String) : Bool :=
  decide (Utf8.encode a < Utf8.encode b)

theorem nameBefore_trans {a b c : String} (ab : nameBefore a b) (bc : nameBefore b c) :
    nameBefore a c := by
  simp only [nameBefore, decide_eq_true_eq] at *
  exact List.lt_trans ab bc

theorem nameBefore_irrefl (a : String) : nameBefore a a = false := by
  simp only [nameBefore, decide_eq_false_iff_not]
  exact List.lt_irrefl _

/-- Of two names one comes first. -/
theorem nameBefore_of_ne {a b : String} (distinct : a ≠ b) (notBefore : nameBefore a b = false) :
    nameBefore b a := by
  simp only [nameBefore, decide_eq_true_eq, decide_eq_false_iff_not] at *
  rcases List.le_iff_lt_or_eq.1 (List.not_lt.1 notBefore) with before | same
  · exact before
  · exact absurd (Utf8.encode_injective same).symm distinct

namespace Checklist

/-- Entries whose names ascend, so that each name stands once. -/
def Ascending (entries : List (String × Option String)) : Prop :=
  entries.Pairwise (fun a b => nameBefore a.1 b.1)

/-- The entries with a name entered at its place, unless it is among them. -/
def enterEntry (name : String) (value : Option String) :
    List (String × Option String) → List (String × Option String)
  | [] => [(name, value)]
  | entry :: rest =>
    if entry.1 = name then entry :: rest
    else if nameBefore name entry.1 then (name, value) :: entry :: rest
    else entry :: enterEntry name value rest

/-- Entering a name adds its entry and no other. -/
theorem mem_of_mem_enterEntry {name : String} {value : Option String}
    {entries : List (String × Option String)} {entry : String × Option String}
    (member : entry ∈ enterEntry name value entries) :
    entry = (name, value) ∨ entry ∈ entries := by
  induction entries with
  | nil => simpa [enterEntry] using member
  | cons head rest ih =>
    unfold enterEntry at member
    split at member
    · exact .inr member
    · split at member
      · simpa using member
      · rcases List.mem_cons.1 member with rfl | later
        · simp
        · exact (ih later).imp_right (List.mem_cons_of_mem _)

/-- The names still ascend after a further one is entered: it is put before the first name that it
comes before, and a name that is there already is left as it is. -/
theorem Ascending.enterEntry {entries : List (String × Option String)}
    (ascending : Ascending entries) (name : String) (value : Option String) :
    Ascending (enterEntry name value entries) := by
  induction entries with
  | nil => simp [Checklist.enterEntry, Ascending]
  | cons head rest ih =>
    obtain ⟨below, restAscending⟩ := List.pairwise_cons.1 ascending
    unfold Checklist.enterEntry
    split
    · exact ascending
    · rename_i distinct
      split
      · rename_i before
        refine List.pairwise_cons.2 ⟨fun entry member => ?_, ascending⟩
        rcases List.mem_cons.1 member with rfl | later
        · exact before
        · exact nameBefore_trans before (below entry later)
      · rename_i notBefore
        refine List.pairwise_cons.2 ⟨fun entry member => ?_, ih restAscending⟩
        rcases mem_of_mem_enterEntry member with rfl | old
        · exact nameBefore_of_ne (Ne.symm distinct) (by simpa using notBefore)
        · exact below entry old

end Checklist

/-- Every variable met so far with its value, if it has one. -/
structure Checklist where
  entries : List (String × Option String)
  ascending : Checklist.Ascending entries

namespace Checklist

/-- Checklists with the same entries are the same. -/
@[ext]
theorem ext {a b : Checklist} (same : a.entries = b.entries) : a = b := by
  cases a; cases b; cases same; rfl

instance : DecidableEq Checklist := fun a b =>
  decidable_of_iff (a.entries = b.entries) ⟨ext, fun same => same ▸ rfl⟩

/-- The checklist without names. -/
def empty : Checklist :=
  ⟨[], .nil⟩

/-- The checklist with a name entered, unless it is on it. -/
def enter (checklist : Checklist) (name : String) (value : Option String) : Checklist :=
  ⟨enterEntry name value checklist.entries, checklist.ascending.enterEntry name value⟩

/-- Whether a name is on the checklist, set or not. -/
def contains (checklist : Checklist) (name : String) : Bool :=
  checklist.entries.any (·.1 == name)

/-- The value of a name; none if it is unset or not on the checklist. -/
def value (checklist : Checklist) (name : String) : Option String :=
  (checklist.entries.lookup name).join

/-- Whether a name is on the checklist and set. -/
def isResolved (checklist : Checklist) (name : String) : Bool :=
  (checklist.value name).isSome

/-- The names that are unset, in order. -/
def missing (checklist : Checklist) : List String :=
  (checklist.entries.filter (·.2.isNone)).map (·.1)

/-- The number of names that are set. -/
def resolvedCount (checklist : Checklist) : Nat :=
  (checklist.entries.filter (·.2.isSome)).length

/-- The number of names. -/
def size (checklist : Checklist) : Nat :=
  checklist.entries.length

/-- Whether there is no name. -/
def isEmpty (checklist : Checklist) : Bool :=
  checklist.entries.isEmpty

/-- Each name in order, and whether it is set. -/
def marks (checklist : Checklist) : List (String × Bool) :=
  checklist.entries.map fun (name, value) => (name, value.isSome)

end Checklist

/-- A checklist and the questions that filled it. -/
structure Resolution where
  /-- The names met so far. -/
  checklist : Checklist
  /-- The names that the environment was asked for, the oldest first. -/
  asked : List String

namespace Resolution

/-- Nothing met and nothing asked. -/
def start : Resolution :=
  ⟨.empty, []⟩

/-- Meets a name, and says whether it is new. The environment is asked for it only then. -/
def meet (env : Environment) (known : Resolution) (name : String) : Bool × Resolution :=
  if known.checklist.contains name then (false, known)
  else
    (true, ⟨known.checklist.enter name (env.answer known.asked name), known.asked ++ [name]⟩)

/-- Meets a name. -/
def resolve (env : Environment) (known : Resolution) (name : String) : Resolution :=
  (known.meet env name).2

theorem resolve_eq (env : Environment) (known : Resolution) (name : String) :
    known.resolve env name =
      if known.checklist.contains name then known
      else ⟨known.checklist.enter name (env.answer known.asked name), known.asked ++ [name]⟩ := by
  rw [resolve, meet]
  split
  · rfl
  · rfl

/-- Meets names one after the other. -/
def resolveAll (env : Environment) (known : Resolution) (names : List String) : Resolution :=
  names.foldl (resolve env) known

end Resolution

end EnvInject

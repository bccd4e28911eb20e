import EnvInject.Checklist
import Mathlib.Data.List.Sort

/-!
# What a checklist holds

Looking a name up says all about a checklist, since each name stands once
(`Checklist.mem_entries_iff`). Meeting names under an environment that does not change its mind adds
the answer for each new name and keeps all others (`Resolution.lookup_resolveAll`), and the missing
names are those whose answer was none (`Checklist.mem_missing_iff`).
-/

namespace EnvInject

namespace Checklist

variable {checklist : Checklist} {name other : String} {value : Option String}

/-- A name that is not there yet is found after it is entered, with the value entered. -/
theorem lookup_enterEntry_self {entries : List (String × Option String)}
    (absent : entries.lookup name = none) :
    (enterEntry name value entries).lookup name = some value := by
  induction entries with
  | nil => simp [enterEntry]
  | cons entry rest ih =>
    rcases entry with ⟨key, old⟩
    rw [List.lookup_cons] at absent
    split at absent
    · cases absent
    · rename_i differs
      have differs : name ≠ key := by simpa using differs
      rw [enterEntry, if_neg (Ne.symm differs)]
      split
      · simp
      · rw [List.lookup_cons, beq_false_of_ne differs]
        exact ih absent

theorem lookup_enterEntry_of_ne (differs : other ≠ name)
    (entries : List (String × Option String)) :
    (enterEntry name value entries).lookup other = entries.lookup other := by
  induction entries with
  | nil => simp [enterEntry, List.lookup_cons, beq_false_of_ne differs]
  | cons entry rest ih =>
    rw [enterEntry]
    split
    · rfl
    · split
      · rw [List.lookup_cons, beq_false_of_ne differs]
      · rw [List.lookup_cons, List.lookup_cons, ih]

theorem contains_eq_isSome_lookup (checklist : Checklist) (name : String) :
    checklist.contains name = (checklist.entries.lookup name).isSome := by
  rw [contains]
  induction checklist.entries with
  | nil => rfl
  | cons entry rest ih =>
    rw [List.any_cons, List.lookup_cons, ih]
    by_cases same : entry.1 = name
    · simp [same]
    · simp [same, beq_false_of_ne (Ne.symm same)]

/-- Each name stands once, so what stands on a checklist is what is looked up on it. -/
theorem mem_entries_iff : (name, value) ∈ checklist.entries ↔
    checklist.entries.lookup name = some value := by
  have ascending := checklist.ascending
  generalize checklist.entries = entries at ascending
  induction entries with
  | nil => simp
  | cons entry rest ih =>
    rcases entry with ⟨key, first⟩
    obtain ⟨below, later⟩ := List.pairwise_cons.1 ascending
    have inRest : (name, value) ∈ rest ↔ rest.lookup name = some value := ih later
    rw [List.mem_cons, List.lookup_cons, inRest]
    by_cases same : name = key
    · subst same
      have absent : rest.lookup name ≠ some value := by
        intro found
        have before := below _ (inRest.2 found)
        rw [nameBefore_irrefl] at before
        cases before
      simp [absent, eq_comm]
    · simp [same, beq_false_of_ne same]

theorem mem_missing_iff :
    name ∈ checklist.missing ↔ checklist.entries.lookup name = some none := by
  rw [← mem_entries_iff, missing]
  constructor
  · intro member
    obtain ⟨⟨key, value⟩, filtered, rfl⟩ := List.mem_map.1 member
    obtain ⟨entered, unset⟩ := List.mem_filter.1 filtered
    rw [← Option.isNone_iff_eq_none.1 unset]
    exact entered
  · intro entered
    exact List.mem_map.2 ⟨(name, none), List.mem_filter.2 ⟨entered, rfl⟩, rfl⟩

theorem contains_of_value {value : String} (set : checklist.value name = some value) :
    checklist.contains name = true := by
  rw [contains_eq_isSome_lookup]
  rw [Checklist.value, Option.join_eq_some_iff] at set
  rw [set]
  rfl

/-- The missing names are those on the checklist that have no value. -/
theorem mem_missing_iff_contains :
    name ∈ checklist.missing ↔
      checklist.contains name = true ∧ checklist.value name = none := by
  rw [mem_missing_iff, contains_eq_isSome_lookup, value]
  cases checklist.entries.lookup name with
  | none => simp
  | some answer => simp

/-- A list in strictly ascending order is known by its members. -/
theorem eq_of_ascending {first second : List String}
    (ascends : first.Pairwise fun a b => Utf8.encode a < Utf8.encode b)
    (ascends' : second.Pairwise fun a b => Utf8.encode a < Utf8.encode b)
    (same : ∀ name, name ∈ first ↔ name ∈ second) : first = second := by
  have irrefl : Std.Irrefl fun a b : String => Utf8.encode a < Utf8.encode b :=
    ⟨fun a => List.lt_irrefl _⟩
  have antisymm : Std.Antisymm fun a b : String => Utf8.encode a < Utf8.encode b :=
    ⟨fun a b ab ba => absurd (List.lt_trans ab ba) (List.lt_irrefl _)⟩
  exact ascends.eq_of_mem_iff ascends' same

/-- The names on a checklist, in order. -/
def names (checklist : Checklist) : List String :=
  checklist.entries.map (·.1)

theorem mem_names_iff : name ∈ checklist.names ↔ checklist.contains name = true := by
  simp [names, contains]

theorem names_ascending (checklist : Checklist) :
    checklist.names.Pairwise fun a b => Utf8.encode a < Utf8.encode b := by
  rw [names, List.pairwise_map]
  exact checklist.ascending.imp fun {a b} before => by simpa [nameBefore] using before

theorem length_names (checklist : Checklist) : checklist.names.length = checklist.size := by
  rw [names, List.length_map, size]

theorem value_of_mem {entry : String × Option String} (member : entry ∈ checklist.entries) :
    checklist.value entry.1 = entry.2 := by
  rw [value, mem_entries_iff.1 member]
  rfl

theorem entries_eq (checklist : Checklist) :
    checklist.entries = checklist.names.map fun name => (name, checklist.value name) := by
  rw [names, List.map_map]
  refine (List.map_id _).symm.trans (List.map_congr_left fun entry member => ?_)
  rw [Function.comp_apply, value_of_mem member]
  rfl

theorem marks_eq (checklist : Checklist) :
    checklist.marks = checklist.names.map fun name => (name, (checklist.value name).isSome) := by
  rw [marks, entries_eq, List.map_map]
  rfl

theorem missing_eq (checklist : Checklist) :
    checklist.missing = checklist.names.filter fun name => (checklist.value name).isNone := by
  rw [missing, entries_eq, List.filter_map, List.map_map]
  exact List.map_id _

theorem contains_eq_any_marks (checklist : Checklist) (name : String) :
    checklist.contains name = checklist.marks.any (·.1 == name) := by
  rw [contains, marks, List.any_map]
  rfl

theorem missing_eq_filter_marks (checklist : Checklist) :
    checklist.missing = (checklist.marks.filter (!·.2)).map (·.1) := by
  rw [missing, marks, List.filter_map, List.map_map]
  congr 1
  refine List.filter_congr fun entry _ => ?_
  rcases entry with ⟨name, value⟩
  cases value with
  | none => rfl
  | some value => rfl

theorem size_eq_length_marks (checklist : Checklist) :
    checklist.size = checklist.marks.length := by
  rw [size, marks, List.length_map]

/-- Checklists on which the same is looked up are the same. -/
theorem eq_of_lookup {one other : Checklist}
    (same : ∀ name, one.entries.lookup name = other.entries.lookup name) : one = other := by
  have names : one.names = other.names := by
    refine eq_of_ascending one.names_ascending other.names_ascending fun name => ?_
    rw [mem_names_iff, mem_names_iff, contains_eq_isSome_lookup, contains_eq_isSome_lookup, same]
  have entries : one.entries = other.entries := by
    rw [one.entries_eq, other.entries_eq, names]
    refine List.map_congr_left fun name _ => ?_
    rw [value, value, same]
  cases one
  cases other
  congr

/-- Whether a name is on the checklist and its value say what is looked up. -/
theorem lookup_eq (checklist : Checklist) (name : String) : checklist.entries.lookup name =
    if checklist.contains name then some (checklist.value name) else none := by
  rw [contains_eq_isSome_lookup, value]
  cases checklist.entries.lookup name with
  | none => rfl
  | some answer => rfl

theorem eq_of_contains_of_value {one other : Checklist}
    (contains : ∀ name, one.contains name = other.contains name)
    (value : ∀ name, one.contains name = true → one.value name = other.value name) :
    one = other := by
  refine eq_of_lookup fun name => ?_
  rw [lookup_eq, lookup_eq, ← contains]
  split
  · rename_i named
    rw [value name named]
  · rfl

theorem isEmpty_iff (checklist : Checklist) :
    checklist.isEmpty = true ↔ checklist.names = [] := by
  rw [isEmpty, List.isEmpty_iff, names, List.map_eq_nil_iff]

theorem missing_ascending (checklist : Checklist) :
    checklist.missing.Pairwise fun a b => Utf8.encode a < Utf8.encode b := by
  rw [missing_eq]
  exact checklist.names_ascending.filter _

theorem missing_nodup (checklist : Checklist) : checklist.missing.Nodup := by
  refine checklist.missing_ascending.imp fun {a b} before same => ?_
  rw [same] at before
  exact List.lt_irrefl _ before

end Checklist

namespace Resolution

open Checklist

variable {env : Environment} {values : String → Option String}

theorem resolveAll_cons (env : Environment) (known : Resolution) (name : String)
    (rest : List String) :
    known.resolveAll env (name :: rest) = (known.resolve env name).resolveAll env rest :=
  rfl

theorem resolveAll_append (env : Environment) (known : Resolution) (first second : List String) :
    known.resolveAll env (first ++ second) = (known.resolveAll env first).resolveAll env second :=
  List.foldl_append

/-! ## Any environment -/

/-- A name that is met is on the checklist from then on, and names are only added. This does not
depend on what the environment answers. -/
theorem contains_resolve (known : Resolution) (name other : String) :
    (known.resolve env name).checklist.contains other = true ↔
      known.checklist.contains other = true ∨ other = name := by
  rw [resolve_eq]
  split
  · rename_i met
    constructor
    · exact .inl
    · rintro (before | rfl)
      · exact before
      · exact met
  · rename_i new
    rw [Checklist.contains_eq_isSome_lookup] at new
    have absent := Option.not_isSome_iff_eq_none.1 new
    rw [Checklist.contains_eq_isSome_lookup, Checklist.contains_eq_isSome_lookup]
    by_cases same : other = name
    · subst same
      simp [Checklist.enter, Checklist.lookup_enterEntry_self absent]
    · simp [Checklist.enter, Checklist.lookup_enterEntry_of_ne same, same]

/-- Every name that was met is on the checklist, whatever the environment answered. -/
theorem contains_resolveAll (known : Resolution) (names : List String) (other : String) :
    (known.resolveAll env names).checklist.contains other = true ↔
      known.checklist.contains other = true ∨ other ∈ names := by
  induction names generalizing known with
  | nil => simp [resolveAll]
  | cons name rest ih => rw [resolveAll_cons, ih, contains_resolve, List.mem_cons, or_assoc]

/-! ## An environment that does not change its mind -/

/-- Meeting a name adds the answer for it, unless the name was met before; the entries of all other
names stay. One answer for each name means that the entry of a name met before is the right one. -/
theorem lookup_resolve (known : Resolution) (name other : String) :
    (known.resolve (.ofFunction values) name).checklist.entries.lookup other =
      (known.checklist.entries.lookup other).or
        (if other = name then some (values name) else none) := by
  rw [resolve_eq, contains_eq_isSome_lookup]
  cases found : known.checklist.entries.lookup name with
  | some value =>
    rw [Option.isSome_some, if_pos rfl]
    by_cases same : other = name
    · rw [same, found]
      rfl
    · rw [if_neg same, Option.or_none]
  | none =>
    rw [Option.isSome_none, if_neg Bool.false_ne_true]
    by_cases same : other = name
    · rw [same, found, if_pos rfl]
      exact lookup_enterEntry_self found
    · rw [if_neg same, Option.or_none]
      exact lookup_enterEntry_of_ne same _

/-- Names met under an environment that gives each name one answer. -/
theorem lookup_resolveAll (known : Resolution) (names : List String) (name : String) :
    (known.resolveAll (.ofFunction values) names).checklist.entries.lookup name =
      (known.checklist.entries.lookup name).or
        (if name ∈ names then some (values name) else none) := by
  induction names generalizing known with
  | nil => simp [resolveAll]
  | cons first rest ih =>
    rw [resolveAll_cons, ih, lookup_resolve, Option.or_assoc]
    congr 1
    by_cases same : name = first
    · simp [same]
    · simp [same]

theorem lookup_start (names : List String) (name : String) :
    (start.resolveAll (.ofFunction values) names).checklist.entries.lookup name =
      if name ∈ names then some (values name) else none :=
  lookup_resolveAll start names name

theorem value_start (names : List String) (name : String) :
    (start.resolveAll (.ofFunction values) names).checklist.value name =
      if name ∈ names then values name else none := by
  rw [value, lookup_start]
  split
  · rfl
  · rfl

/-- The same names, in whatever order and however often, make the same checklist. -/
theorem checklist_start_congr {names names' : List String}
    (same : ∀ name, name ∈ names ↔ name ∈ names') :
    (start.resolveAll (.ofFunction values) names).checklist =
      (start.resolveAll (.ofFunction values) names').checklist := by
  refine eq_of_lookup fun name => ?_
  rw [lookup_start, lookup_start]
  simp only [same]

theorem mem_missing_start {names : List String} {name : String} :
    name ∈ (start.resolveAll (.ofFunction values) names).checklist.missing ↔
      name ∈ names ∧ values name = none := by
  rw [mem_missing_iff, lookup_start]
  split
  · rename_i met
    simp [met]
  · rename_i notMet
    simp [notMet]

end Resolution

end EnvInject

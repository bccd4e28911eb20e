import EnvInject.Text.Utf8
import Mathlib.Data.List.Basic

/-!
# Bytes that spell a text

`Spells` lists the sequences of bytes that are characters, by the number of their bytes and the
bounds that keep out overlong forms, surrogates and code points that are too large. Writing a
character gives such a sequence (`spells_encode`) and reading takes no other (`spells_of_unitAt`),
so `decode?` accepts exactly what `encode` writes (`decode?_eq_some_iff`).

A text can be cut wherever its bytes go on with an ASCII byte (`exists_cut`), and behind any text
that its bytes begin with (`exists_behind`).
-/

namespace EnvInject

namespace Utf8

/-! ## Well-formed characters -/

/-- A byte that goes on with a character. -/
def IsTail (byte : UInt8) : Prop :=
  0x80 ≤ byte ∧ byte ≤ 0xBF

/-- `Spells bytes code`: the bytes are the character with this code point. -/
inductive Spells : Bytes → Nat → Prop
  | one {a : UInt8} (first : a < 0x80) : Spells [a] a.toNat
  | two {a b : UInt8} (low : 0xC2 ≤ a) (high : a < 0xE0) (second : IsTail b) :
    Spells [a, b] ((a.toNat - 0xC0) * 64 + (b.toNat - 0x80))
  | three {a b c : UInt8} (low : 0xE0 ≤ a) (high : a < 0xF0) (second : IsTail b) (third : IsTail c)
    (notOverlong : a = 0xE0 → 0xA0 ≤ b) (notSurrogate : a = 0xED → b ≤ 0x9F) :
    Spells [a, b, c] (((a.toNat - 0xE0) * 64 + (b.toNat - 0x80)) * 64 + (c.toNat - 0x80))
  | four {a b c d : UInt8} (low : 0xF0 ≤ a) (high : a ≤ 0xF4) (second : IsTail b)
    (third : IsTail c) (fourth : IsTail d) (notOverlong : a = 0xF0 → 0x90 ≤ b)
    (notBeyond : a = 0xF4 → b ≤ 0x8F) :
    Spells [a, b, c, d]
      ((((a.toNat - 0xF0) * 64 + (b.toNat - 0x80)) * 64 + (c.toNat - 0x80)) * 64
        + (d.toNat - 0x80))

theorem isTail_iff {byte : UInt8} : IsTail byte ↔ 0x80 ≤ byte.toNat ∧ byte.toNat ≤ 0xBF :=
  Iff.rfl

theorem Spells.isTail {first : UInt8} {tails : Bytes} {code : Nat}
    (spells : Spells (first :: tails) code) : ∀ byte ∈ tails, IsTail byte := by
  cases spells with
  | one first => simp
  | two low high second => simp [second]
  | three low high second third notOverlong notSurrogate => simp [second, third]
  | four low high second third fourth notOverlong notBeyond => simp [second, third, fourth]

/-- A well-formed character is neither a surrogate nor beyond the last code point. -/
theorem Spells.isValidChar {bytes : Bytes} {code : Nat} (spells : Spells bytes code) :
    code.isValidChar := by
  unfold Nat.isValidChar
  cases spells with
  | one first =>
    simp only [UInt8.lt_iff_toNat_lt, UInt8.reduceToNat] at first
    omega
  | two low high second =>
    simp only [isTail_iff, UInt8.le_iff_toNat_le, UInt8.lt_iff_toNat_lt, UInt8.reduceToNat] at *
    omega
  | three low high second third notOverlong notSurrogate =>
    simp only [isTail_iff, UInt8.le_iff_toNat_le, UInt8.lt_iff_toNat_lt, ← UInt8.toNat_inj,
      UInt8.reduceToNat] at *
    omega
  | four low high second third fourth notOverlong notBeyond =>
    simp only [isTail_iff, UInt8.le_iff_toNat_le, ← UInt8.toNat_inj, UInt8.reduceToNat] at *
    omega

/-! ## Writing a character -/

theorem val_ofNat {code : Nat} (valid : code.isValidChar) :
    (Char.ofNat code).val.toNat = code := by
  rw [Char.ofNat, dif_pos valid]
  rfl

theorem ofNat_eq (byte : UInt8) {code : Nat} (same : code = byte.toNat) :
    UInt8.ofNat code = byte := by
  rw [same, UInt8.ofNat_toNat]

/-- A well-formed character is written with the bytes that spell it. -/
theorem Spells.encode_eq {bytes : Bytes} {code : Nat} (spells : Spells bytes code) :
    String.utf8EncodeChar (Char.ofNat code) = bytes := by
  unfold String.utf8EncodeChar
  rw [val_ofNat spells.isValidChar]
  cases spells with
  | @one a first =>
    simp only [UInt8.lt_iff_toNat_lt, UInt8.reduceToNat] at first
    rw [if_pos (by omega), ofNat_eq a rfl]
  | @two a b low high second =>
    simp only [isTail_iff, UInt8.le_iff_toNat_le, UInt8.lt_iff_toNat_lt, UInt8.reduceToNat] at *
    rw [if_neg (by omega), if_pos (by omega), ofNat_eq a (by omega), ofNat_eq b (by omega)]
  | @three a b c low high second third notOverlong notSurrogate =>
    simp only [isTail_iff, UInt8.le_iff_toNat_le, UInt8.lt_iff_toNat_lt, ← UInt8.toNat_inj,
      UInt8.reduceToNat] at *
    rw [if_neg (by omega), if_neg (by omega), if_pos (by omega), ofNat_eq a (by omega),
      ofNat_eq b (by omega), ofNat_eq c (by omega)]
  | @four a b c d low high second third fourth notOverlong notBeyond =>
    simp only [isTail_iff, UInt8.le_iff_toNat_le, ← UInt8.toNat_inj, UInt8.reduceToNat] at *
    rw [if_neg (by omega), if_neg (by omega), if_neg (by omega), ofNat_eq a (by omega),
      ofNat_eq b (by omega), ofNat_eq c (by omega), ofNat_eq d (by omega)]

theorem exists_byte {code : Nat} (small : code < 256) : ∃ byte : UInt8, byte.toNat = code :=
  ⟨UInt8.ofNat code, UInt8.toNat_ofNat_of_lt' small⟩

/-- Every code point has bytes that spell it: one to four, as many as its size asks for. A second
byte that is ruled out would make a smaller code point or a surrogate of it. -/
theorem exists_spells {code : Nat} (valid : code.isValidChar) : ∃ bytes, Spells bytes code := by
  unfold Nat.isValidChar at valid
  rcases Nat.lt_or_ge code 0x80 with one | notOne
  · obtain ⟨a, rfl⟩ := exists_byte (show code < 256 by omega)
    exact ⟨_, .one one⟩
  obtain ⟨last, isLast⟩ := exists_byte (show code % 64 + 0x80 < 256 by omega)
  rcases Nat.lt_or_ge code 0x800 with two | notTwo
  · obtain ⟨a, first⟩ := exists_byte (show code / 64 + 0xC0 < 256 by omega)
    have isCode : code = (a.toNat - 0xC0) * 64 + (last.toNat - 0x80) := by omega
    rw [isCode]
    refine ⟨_, .two ?_ ?_ ?_⟩ <;>
      simp only [isTail_iff, UInt8.le_iff_toNat_le, UInt8.lt_iff_toNat_lt, UInt8.reduceToNat] <;>
      omega
  obtain ⟨middle, isMiddle⟩ := exists_byte (show code / 64 % 64 + 0x80 < 256 by omega)
  rcases Nat.lt_or_ge code 0x10000 with three | notThree
  · obtain ⟨a, first⟩ := exists_byte (show code / 4096 + 0xE0 < 256 by omega)
    have isCode : code = ((a.toNat - 0xE0) * 64 + (middle.toNat - 0x80)) * 64
        + (last.toNat - 0x80) := by omega
    rw [isCode]
    refine ⟨_, .three ?_ ?_ ?_ ?_ ?_ ?_⟩ <;>
      simp only [isTail_iff, UInt8.le_iff_toNat_le, UInt8.lt_iff_toNat_lt, ← UInt8.toNat_inj,
        UInt8.reduceToNat] <;>
      omega
  · obtain ⟨a, first⟩ := exists_byte (show code / 262144 + 0xF0 < 256 by omega)
    obtain ⟨b, second⟩ := exists_byte (show code / 4096 % 64 + 0x80 < 256 by omega)
    have isCode : code = (((a.toNat - 0xF0) * 64 + (b.toNat - 0x80)) * 64
        + (middle.toNat - 0x80)) * 64 + (last.toNat - 0x80) := by omega
    rw [isCode]
    refine ⟨_, .four ?_ ?_ ?_ ?_ ?_ ?_ ?_⟩ <;>
      simp only [isTail_iff, UInt8.le_iff_toNat_le, ← UInt8.toNat_inj, UInt8.reduceToNat] <;>
      omega

/-- Every character is written as a well-formed one. -/
theorem spells_encode (char : Char) : Spells (String.utf8EncodeChar char) char.toNat := by
  obtain ⟨bytes, spells⟩ := exists_spells char.valid
  have written := spells.encode_eq
  rw [← Char.toNat, Char.ofNat_toNat] at written
  rw [written]
  exact spells

/-! ## Writing a text -/

theorem encode_append (first second : String) :
    encode (first ++ second) = encode first ++ encode second := by
  rw [encode, String.toList_append, List.flatMap_append]
  rfl

/-- Equal texts with parts of one size in front have equal parts. -/
theorem append_inj {a b c d : String} (same : a ++ b = c ++ d)
    (size : (encode a).length = (encode c).length) : a = c ∧ b = d := by
  have bytes := congrArg encode same
  rw [encode_append, encode_append] at bytes
  obtain ⟨first, second⟩ := List.append_inj bytes size
  exact ⟨encode_injective first, encode_injective second⟩

/-! ## Reading a character -/

theorem lead?_one {first : UInt8} (high : first < 0x80) :
    lead? first = some ⟨0, 0x80, 0xBF, first⟩ := by
  rw [lead?, if_pos high]

theorem lead?_two {first : UInt8} (low : 0xC2 ≤ first) (high : first < 0xE0) :
    lead? first = some ⟨1, 0x80, 0xBF, first - 0xC0⟩ := by
  grind [lead?]

theorem lead?_three {first : UInt8} (low : 0xE0 ≤ first) (high : first < 0xF0) :
    lead? first = some ⟨2, if first = 0xE0 then 0xA0 else 0x80,
      if first = 0xED then 0x9F else 0xBF, first - 0xE0⟩ := by
  by_cases least : first = 0xE0
  · rw [least]
    rfl
  by_cases surrogates : first = 0xED
  · rw [surrogates]
    rfl
  · grind [lead?]

theorem lead?_four {first : UInt8} (low : 0xF0 ≤ first) (high : first ≤ 0xF4) :
    lead? first = some ⟨3, if first = 0xF0 then 0x90 else 0x80,
      if first = 0xF4 then 0x8F else 0xBF, first - 0xF0⟩ := by
  by_cases least : first = 0xF0
  · rw [least]
    rfl
  by_cases greatest : first = 0xF4
  · rw [greatest]
    rfl
  · grind [lead?]

theorem lead?_eq_none {first : UInt8} (none : 0x80 ≤ first ∧ first < 0xC2 ∨ 0xF4 < first) :
    lead? first = .none := by
  grind [lead?]

/-- The bounds on the second byte after a first one, if the character is `least` or `greatest`. -/
theorem bounds_iff {a b least greatest low high : UInt8} (lowTail : 0x80 ≤ low)
    (highTail : high ≤ 0xBF) :
    ((if a = least then low else 0x80) ≤ b ∧ b ≤ if a = greatest then high else 0xBF) ↔
      IsTail b ∧ (a = least → low ≤ b) ∧ (a = greatest → b ≤ high) := by
  grind [IsTail]

theorem tailsOf_zero (low high : UInt8) (rest : Bytes) : tailsOf 0 low high rest = [] := by
  rw [tailsOf]

theorem tailsOf_cons {count : Nat} {low high byte : UInt8} (inRange : low ≤ byte ∧ byte ≤ high)
    (rest : Bytes) :
    tailsOf (count + 1) low high (byte :: rest) = byte :: tailsOf count 0x80 0xBF rest := by
  rw [tailsOf, if_pos inRange]

theorem exists_of_tailsOf_full {count : Nat} {low high : UInt8} {rest : Bytes}
    (full : (tailsOf (count + 1) low high rest).length = count + 1) :
    ∃ byte more, rest = byte :: more ∧ (low ≤ byte ∧ byte ≤ high) ∧
      (tailsOf count 0x80 0xBF more).length = count := by
  cases rest with
  | nil => simp [tailsOf] at full
  | cons byte more =>
    by_cases inRange : low ≤ byte ∧ byte ≤ high
    · rw [tailsOf_cons inRange, List.length_cons, Nat.add_right_cancel_iff] at full
      exact ⟨byte, more, rfl, inRange, full⟩
    · rw [tailsOf, if_neg inRange] at full
      cases full

/-- A well-formed character is read to its end, whatever follows. -/
theorem Spells.unitAt_eq {first : UInt8} {tails : Bytes} {code : Nat}
    (spells : Spells (first :: tails) code) (rest : Bytes) :
    unitAt first (tails ++ rest) = (some (Char.ofNat code), tails.length) := by
  generalize whole : first :: tails = bytes at spells
  cases spells with
  | one high =>
    cases whole
    rw [unitAt, lead?_one high]
    rfl
  | two low high second =>
    cases whole
    have bits := UInt8.toNat_sub_of_le first 0xC0 (UInt8.le_trans (by decide) low)
    rw [unitAt, lead?_two low high]
    dsimp only
    rw [List.cons_append, List.nil_append, tailsOf_cons second, tailsOf_zero]
    simp [bits]
  | three low high second third notOverlong notSurrogate =>
    cases whole
    have bits := UInt8.toNat_sub_of_le first 0xE0 low
    have inRange := (bounds_iff (by decide) (by decide)).2 ⟨second, notOverlong, notSurrogate⟩
    rw [unitAt, lead?_three low high]
    dsimp only
    rw [List.cons_append, List.cons_append, List.nil_append, tailsOf_cons inRange,
      tailsOf_cons third, tailsOf_zero]
    simp [bits]
  | four low high second third fourth notOverlong notBeyond =>
    cases whole
    have bits := UInt8.toNat_sub_of_le first 0xF0 low
    have inRange := (bounds_iff (by decide) (by decide)).2 ⟨second, notOverlong, notBeyond⟩
    rw [unitAt, lead?_four low high]
    dsimp only
    rw [List.cons_append, List.cons_append, List.cons_append, List.nil_append,
      tailsOf_cons inRange, tailsOf_cons third, tailsOf_cons fourth, tailsOf_zero]
    simp [bits]

/-- As many bytes as the first one asks for make a character with it. -/
theorem exists_spells_of_lead {first : UInt8} {rest : Bytes} {lead : Lead}
    (isLead : lead? first = some lead)
    (full : (tailsOf lead.tails lead.low lead.high rest).length = lead.tails) :
    ∃ tails more code, rest = tails ++ more ∧ Spells (first :: tails) code := by
  rcases UInt8.lt_or_le first 0x80 with one | notOne
  · exact ⟨[], rest, _, rfl, .one one⟩
  rcases UInt8.lt_or_le first 0xC2 with below | low
  · rw [lead?_eq_none (.inl ⟨notOne, below⟩)] at isLead
    cases isLead
  rcases UInt8.lt_or_le first 0xE0 with two | notTwo
  · obtain rfl := Option.some.inj ((lead?_two low two).symm.trans isLead)
    obtain ⟨b, more, rfl, second, -⟩ := exists_of_tailsOf_full full
    exact ⟨[b], more, _, rfl, .two low two second⟩
  rcases UInt8.lt_or_le first 0xF0 with three | notThree
  · obtain rfl := Option.some.inj ((lead?_three notTwo three).symm.trans isLead)
    obtain ⟨b, more, rfl, inRange, full⟩ := exists_of_tailsOf_full full
    obtain ⟨c, more, rfl, third, -⟩ := exists_of_tailsOf_full full
    obtain ⟨second, notOverlong, notSurrogate⟩ := (bounds_iff (by decide) (by decide)).1 inRange
    exact ⟨[b, c], more, _, rfl, .three notTwo three second third notOverlong notSurrogate⟩
  rcases UInt8.lt_or_le 0xF4 first with beyond | four
  · rw [lead?_eq_none (.inr beyond)] at isLead
    cases isLead
  · obtain rfl := Option.some.inj ((lead?_four notThree four).symm.trans isLead)
    obtain ⟨b, more, rfl, inRange, full⟩ := exists_of_tailsOf_full full
    obtain ⟨c, more, rfl, third, full⟩ := exists_of_tailsOf_full full
    obtain ⟨d, more, rfl, fourth, -⟩ := exists_of_tailsOf_full full
    obtain ⟨second, notOverlong, notBeyond⟩ := (bounds_iff (by decide) (by decide)).1 inRange
    exact ⟨[b, c, d], more, _, rfl,
      .four notThree four second third fourth notOverlong notBeyond⟩

/-- What is read as a character is well-formed. -/
theorem spells_of_unitAt {first : UInt8} {rest : Bytes} {char : Char} {taken : Nat}
    (isRead : unitAt first rest = (some char, taken)) :
    ∃ tails more, rest = tails ++ more ∧ tails.length = taken ∧
      String.utf8EncodeChar char = first :: tails := by
  have exists_spells : ∃ tails more code, rest = tails ++ more ∧ Spells (first :: tails) code := by
    unfold unitAt at isRead
    cases isLead : lead? first with
    | none =>
      rw [isLead] at isRead
      cases isRead
    | some lead =>
      rw [isLead] at isRead
      dsimp only at isRead
      split at isRead
      · rename_i full
        exact exists_spells_of_lead isLead full
      · cases isRead
  obtain ⟨tails, more, code, rfl, spells⟩ := exists_spells
  rw [spells.unitAt_eq more, Prod.mk.injEq, Option.some.injEq] at isRead
  obtain ⟨rfl, length⟩ := isRead
  exact ⟨tails, more, rfl, length, spells.encode_eq⟩

/-! ## Reading a text -/

/-- To skip bytes is to read what follows them. -/
theorem unitsFrom_eq_drop (skip : Nat) (bytes : Bytes) :
    unitsFrom skip bytes = units (bytes.drop skip) := by
  induction bytes generalizing skip with
  | nil =>
    rw [List.drop_nil]
    cases skip with
    | zero => rfl
    | succ skip => rfl
  | cons first rest ih =>
    cases skip with
    | zero => rfl
    | succ skip =>
      rw [unitsFrom, List.drop_succ_cons]
      exact ih skip

theorem units_cons (first : UInt8) (rest : Bytes) :
    units (first :: rest) =
      (unitAt first rest).1 :: units (rest.drop (unitAt first rest).2) := by
  rw [units, unitsFrom]
  dsimp only
  rw [unitsFrom_eq_drop]

theorem units_encodeChar_append (char : Char) (rest : Bytes) :
    units (String.utf8EncodeChar char ++ rest) = some char :: units rest := by
  have spells := spells_encode char
  cases written : String.utf8EncodeChar char with
  | nil =>
    rw [written] at spells
    cases spells
  | cons first tails =>
    rw [written] at spells
    rw [List.cons_append, units_cons, spells.unitAt_eq, Char.ofNat_toNat, List.drop_left]

theorem units_encode_append (text : String) (rest : Bytes) :
    units (encode text ++ rest) = text.toList.map some ++ units rest := by
  rw [encode]
  induction text.toList with
  | nil => rfl
  | cons char more ih =>
    rw [List.flatMap_cons, List.append_assoc, units_encodeChar_append, ih]
    rfl

/-- Bytes that read as characters throughout are what these characters are written with. -/
theorem flatMap_encodeChar_of_units {bytes : Bytes} {chars : List Char}
    (spelled : units bytes = chars.map some) :
    chars.flatMap String.utf8EncodeChar = bytes := by
  induction chars generalizing bytes with
  | nil =>
    cases bytes with
    | nil => rfl
    | cons first rest =>
      rw [units_cons] at spelled
      cases spelled
  | cons char more ih =>
    cases bytes with
    | nil => cases spelled
    | cons first rest =>
      rw [units_cons, List.map_cons, List.cons.injEq] at spelled
      cases isRead : unitAt first rest with
      | mk unit taken =>
        rw [isRead] at spelled
        obtain ⟨rfl, later⟩ := spelled
        obtain ⟨tails, behind, rfl, rfl, written⟩ := spells_of_unitAt isRead
        rw [List.drop_left] at later
        rw [List.flatMap_cons, written, ih later, List.cons_append]

theorem mapM_id_eq_some_iff {found : List (Option Char)} {chars : List Char} :
    found.mapM id = some chars ↔ found = chars.map some := by
  induction found generalizing chars with
  | nil => cases chars <;> simp
  | cons unit rest ih =>
    cases unit with
    | none => cases chars <;> simp
    | some char => cases chars <;> simp [ih, Option.bind_eq_some_iff, and_comm]

theorem decode?_eq_some_iff_units {bytes : Bytes} {text : String} :
    decode? bytes = some text ↔ units bytes = text.toList.map some := by
  rw [decode?, Option.map_eq_some_iff]
  constructor
  · rintro ⟨chars, isRead, rfl⟩
    rw [String.toList_ofList]
    exact mapM_id_eq_some_iff.1 isRead
  · intro spelled
    exact ⟨text.toList, mapM_id_eq_some_iff.2 spelled, String.ofList_toList⟩

/-- The bytes that spell a text are those with which it is written. -/
theorem decode?_eq_some_iff {bytes : Bytes} {text : String} :
    decode? bytes = some text ↔ bytes = encode text := by
  rw [decode?_eq_some_iff_units]
  constructor
  · intro spelled
    exact (flatMap_encodeChar_of_units spelled).symm
  · rintro rfl
    have isRead := units_encode_append text []
    rw [List.append_nil] at isRead
    exact isRead.trans (List.append_nil _)

theorem decode?_encode (text : String) : decode? (encode text) = some text :=
  decode?_eq_some_iff.2 rfl

/-! ## Cutting a text -/

/-- Characters can be cut in front of an ASCII byte, which goes on with none of them. -/
theorem exists_cut_chars {chars : List Char} {kept behind : Bytes}
    (whole : chars.flatMap String.utf8EncodeChar = kept ++ behind)
    (boundary : ∀ byte ∈ behind.head?, byte < 0x80) :
    ∃ first second, chars = first ++ second ∧ first.flatMap String.utf8EncodeChar = kept ∧
      second.flatMap String.utf8EncodeChar = behind := by
  induction chars generalizing kept with
  | nil =>
    obtain ⟨rfl, rfl⟩ := List.append_eq_nil_iff.1 whole.symm
    exact ⟨[], [], rfl, rfl, rfl⟩
  | cons char more ih =>
    cases kept with
    | nil => exact ⟨[], char :: more, rfl, rfl, whole⟩
    | cons byte kept =>
      have spells := spells_encode char
      rw [List.flatMap_cons] at whole
      cases written : String.utf8EncodeChar char with
      | nil =>
        rw [written] at spells
        cases spells
      | cons first tails =>
        rw [written] at spells whole
        obtain ⟨rfl, onward⟩ : first = byte ∧
            tails ++ more.flatMap String.utf8EncodeChar = kept ++ behind := by
          simpa only [List.cons_append, List.cons.injEq] using whole
        rcases List.append_eq_append_iff.1 onward with ⟨past, rfl, later⟩ | ⟨past, rfl, isBehind⟩
        · obtain ⟨before, after, rfl, isKept, isBehind⟩ := ih later
          refine ⟨char :: before, after, rfl, ?_, isBehind⟩
          rw [List.flatMap_cons, written, isKept, List.cons_append]
        · cases past with
          | nil =>
            refine ⟨[char], more, rfl, ?_, by simpa using isBehind.symm⟩
            simp [written]
          | cons tail past =>
            have isTail := spells.isTail tail (by simp)
            have isAscii := boundary tail (by rw [isBehind]; rfl)
            exact absurd isAscii (UInt8.not_lt.2 isTail.1)

/-- A text can be cut where an ASCII byte follows. -/
theorem exists_cut {text : String} {kept behind : Bytes} (whole : encode text = kept ++ behind)
    (boundary : ∀ byte ∈ behind.head?, byte < 0x80) :
    ∃ first second, text = first ++ second ∧ encode first = kept ∧ encode second = behind := by
  obtain ⟨first, second, split, isKept, isBehind⟩ := exists_cut_chars whole boundary
  refine ⟨String.ofList first, String.ofList second, ?_, ?_, ?_⟩
  · rw [← String.ofList_append, ← split, String.ofList_toList]
  · rw [encode, String.toList_ofList, isKept]
  · rw [encode, String.toList_ofList, isBehind]

/-- A text whose bytes begin with those of another text begins with it. -/
theorem exists_behind {text first : String} {behind : Bytes}
    (whole : encode text = encode first ++ behind) :
    ∃ second, text = first ++ second ∧ encode second = behind := by
  have isRead := decode?_eq_some_iff_units.1 (decode?_encode text)
  rw [whole, units_encode_append, eq_comm, List.map_eq_append_iff] at isRead
  obtain ⟨front, back, split, isFront, isBack⟩ := isRead
  obtain rfl : front = first.toList := List.map_injective_iff.2 (fun _ _ => Option.some.inj) isFront
  refine ⟨String.ofList back, ?_, ?_⟩
  · rw [← String.ofList_toList (s := text), split, String.ofList_append, String.ofList_toList]
  · refine (decode?_eq_some_iff.1 (decode?_eq_some_iff_units.2 ?_)).symm
    rw [String.toList_ofList, isBack]

end Utf8

end EnvInject

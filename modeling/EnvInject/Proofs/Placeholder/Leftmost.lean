import EnvInject.Proofs.Placeholder.Filling
import EnvInject.Proofs.Text.Utf8

/-!
# Tokens as leftmost matches

The tokens of a file are what leftmost matching of `__reactenv\.[a-zA-Z_$][0-9a-zA-Z_$]*` without
overlap gives. `LeftmostMatches` says so without a scan: the tokens are in order, each is a match
that cannot be made longer (`Token.Matches`), and no match begins outside of them. A file has
exactly one such list (`leftmostMatches_iff`).

That it has no other is an induction on the parts of the file. Where a placeholder starts, some
token of the list must cover it, and only one that starts there can; so the list starts with the
placeholder, and the rest of it is a list for what follows.
-/

namespace EnvInject

open Placeholder

/-! ## The pattern -/

/-- The bytes of the class `[a-zA-Z_$]`. -/
def startClass : Bytes :=
  Utf8.encode "abcdefghijklmnopqrstuvwxyzABCDEFGHIJKLMNOPQRSTUVWXYZ_$"

/-- The bytes of the class `[0-9a-zA-Z_$]`. -/
def partClass : Bytes :=
  Utf8.encode "0123456789" ++ startClass

/-- The bytes that `token` describes, marker and name, stand in `contents` at its span. -/
def Token.Stands (contents : Bytes) (token : Token) : Prop :=
  ∃ before after, contents = before ++ Utf8.encode ("__reactenv." ++ token.name) ++ after ∧
    token.span.start = before.length ∧
    token.span.stop = before.length + (Utf8.encode ("__reactenv." ++ token.name)).length

/-- `token` is a match of the pattern in `contents`, as long as it can be. -/
structure Token.Matches (contents : Bytes) (token : Token) : Prop where
  stands : token.Stands contents
  name : ∃ first rest, Utf8.encode token.name = first :: rest ∧ first ∈ startClass ∧
    ∀ byte ∈ rest, byte ∈ partClass
  longest : ∀ byte, contents[token.span.stop]? = some byte → byte ∉ partClass

/-- A list of matches in order and without overlap, such that every match of the pattern begins
within one of them. -/
structure LeftmostMatches (contents : Bytes) (found : List Token) : Prop where
  inOrder : InOrder contents.length 0 found
  matching : ∀ token ∈ found, token.Matches contents
  covering : ∀ position first rest,
    contents.drop position = Utf8.encode "__reactenv." ++ first :: rest → first ∈ startClass →
    ∃ token ∈ found, token.span.start ≤ position ∧ position < token.span.stop

theorem marker_eq_encode : marker = Utf8.encode "__reactenv." := by decide

theorem mem_map_range' {start count : Nat} (le : start + count ≤ 256) (byte : UInt8) :
    byte ∈ (List.range' start count).map UInt8.ofNat ↔
      start ≤ byte.toNat ∧ byte.toNat < start + count := by
  rw [List.mem_map]
  constructor
  · rintro ⟨code, member, rfl⟩
    have inRange := List.mem_range'_1.1 member
    have small : code < UInt8.size := Nat.lt_of_lt_of_le inRange.2 le
    rw [UInt8.toNat_ofNat_of_lt' small]
    exact inRange
  · intro inRange
    exact ⟨byte.toNat, List.mem_range'_1.2 inRange, UInt8.ofNat_toNat⟩

theorem startClass_eq : startClass = (List.range' 0x61 26).map UInt8.ofNat
    ++ (List.range' 0x41 26).map UInt8.ofNat ++ [0x5F, 0x24] := by
  decide +kernel

theorem partClass_eq : partClass = (List.range' 0x30 10).map UInt8.ofNat ++ startClass := by
  rw [partClass, List.append_left_inj]
  decide

theorem isNameStart_iff_mem (byte : UInt8) : isNameStart byte = true ↔ byte ∈ startClass := by
  rw [startClass_eq, List.mem_append, List.mem_append, mem_map_range' (by decide),
    mem_map_range' (by decide)]
  simp only [isNameStart, Bool.or_eq_true, Bool.and_eq_true, decide_eq_true_eq, beq_iff_eq,
    UInt8.le_iff_toNat_le, UInt8.reduceToNat, List.mem_cons, List.not_mem_nil, or_false]
  grind

theorem isNamePart_iff_mem (byte : UInt8) : isNamePart byte = true ↔ byte ∈ partClass := by
  rw [partClass_eq, List.mem_append, mem_map_range' (by decide), ← isNameStart_iff_mem]
  simp only [isNamePart, Bool.or_eq_true, Bool.and_eq_true, decide_eq_true_eq,
    UInt8.le_iff_toNat_le, UInt8.reduceToNat]
  grind

theorem isName_iff_classes (name : Bytes) : IsName name ↔
    ∃ first rest, name = first :: rest ∧ first ∈ startClass ∧ ∀ byte ∈ rest, byte ∈ partClass := by
  cases name with
  | nil => simp [IsName]
  | cons first rest => simp [IsName, isNameStart_iff_mem, isNamePart_iff_mem]

theorem isSome_nameAt?_iff_classes {bytes : Bytes} : (nameAt? bytes).isSome = true ↔
    ∃ first rest, bytes = Utf8.encode "__reactenv." ++ first :: rest ∧ first ∈ startClass := by
  simp only [isSome_nameAt?_iff, isNameStart_iff_mem, marker_eq_encode]

theorem endsName_drop_iff (contents : Bytes) (offset : Nat) : EndsName (contents.drop offset) ↔
    ∀ byte, contents[offset]? = some byte → byte ∉ partClass := by
  rw [EndsName, List.head?_drop]
  simp only [← isNamePart_iff_mem, Option.mem_def, Bool.not_eq_true]

/-! ## Where a token stands -/

/-- A slice is what stands between its two offsets, and there is one only if they are in order and
within the bytes. -/
theorem slice?_eq_some_iff {bytes text : Bytes} {start stop : Nat} :
    slice? bytes start stop = some text ↔
      ∃ before after, bytes = before ++ text ++ after ∧ start = before.length ∧
        stop = before.length + text.length := by
  constructor
  · intro sliced
    unfold slice? at sliced
    split at sliced
    · rename_i bounds
      obtain rfl := Option.some.inj sliced
      have first : (bytes.take start).length = start := by
        rw [List.length_take]
        omega
      have kept : (bytes.take stop).take start = bytes.take start := by
        rw [List.take_take, Nat.min_eq_left bounds.1]
      refine ⟨bytes.take start, bytes.drop stop, ?_, first.symm, ?_⟩
      · rw [← kept, List.take_append_drop, List.take_append_drop]
      · rw [first, List.length_drop, List.length_take]
        omega
    · cases sliced
  · rintro ⟨before, after, rfl, rfl, rfl⟩
    have stop : (before ++ text).length = before.length + text.length := List.length_append
    rw [← stop, slice?_eq_some (by omega) (List.prefix_append _ after).length_le, List.take_left,
      List.drop_left]

namespace Token

variable {contents : Bytes} {token : Token}

/-- A token stands in a file exactly if the file goes on with the marker and its name at its start,
and its span is as long as these are. -/
theorem stands_iff : token.Stands contents ↔
    contents.drop token.span.start =
        marker ++ Utf8.encode token.name ++ contents.drop token.span.stop ∧
      token.span.stop = token.span.start + (marker.length + (Utf8.encode token.name).length) := by
  rw [Stands, Utf8.encode_append, ← marker_eq_encode, List.length_append]
  constructor
  · rintro ⟨before, after, rfl, start, stop⟩
    have length : (before ++ (marker ++ Utf8.encode token.name)).length = token.span.stop := by
      rw [List.length_append, List.length_append, stop]
    refine ⟨?_, by rw [start, stop]⟩
    rw [← length, List.drop_left, start, List.append_assoc, List.drop_left]
  · rintro ⟨here, stop⟩
    have within : token.span.start ≤ contents.length := by
      by_contra beyond
      rw [List.drop_eq_nil_of_le (by omega)] at here
      cases here
    have start : (contents.take token.span.start).length = token.span.start := by
      rw [List.length_take]
      omega
    refine ⟨contents.take token.span.start, contents.drop token.span.stop, ?_, start.symm, ?_⟩
    · rw [List.append_assoc, ← here, List.take_append_drop]
    · rw [start, stop]

theorem Stands.start_lt_stop (stands : token.Stands contents) :
    token.span.start < token.span.stop := by
  have stop := (stands_iff.1 stands).2
  have nonempty : 0 < marker.length := by decide
  omega

theorem Stands.stop_le (stands : token.Stands contents) : token.span.stop ≤ contents.length := by
  rcases stands with ⟨before, after, rfl, -, stop⟩
  rw [List.length_append, List.length_append]
  omega

theorem standsIn_iff : token.standsIn contents = true ↔ token.Stands contents := by
  rw [standsIn, beq_iff_eq, slice?_eq_some_iff, Stands, Utf8.encode_append, ← marker_eq_encode]

instance : Decidable (token.Stands contents) :=
  decidable_of_iff _ standsIn_iff

theorem matches_iff : token.Matches contents ↔ token.Stands contents ∧
    IsName (Utf8.encode token.name) ∧ EndsName (contents.drop token.span.stop) := by
  rw [isName_iff_classes, endsName_drop_iff]
  exact ⟨fun isMatch => ⟨isMatch.stands, isMatch.name, isMatch.longest⟩,
    fun ⟨stands, name, longest⟩ => ⟨stands, name, longest⟩⟩

/-- A match is the placeholder that starts at its offset. -/
theorem Matches.nameAt?_eq (isMatch : token.Matches contents) :
    nameAt? (contents.drop token.span.start) = some (Utf8.encode token.name) := by
  obtain ⟨stands, isName, ends⟩ := matches_iff.1 isMatch
  exact nameAt?_eq_some_iff.2 ⟨_, (stands_iff.1 stands).1, isName, ends⟩

/-- At most one match starts at an offset. -/
theorem Matches.unique {other : Token} (isMatch : token.Matches contents)
    (isOther : other.Matches contents) (same : token.span.start = other.span.start) :
    token = other := by
  have names := isMatch.nameAt?_eq
  rw [same, isOther.nameAt?_eq] at names
  have name : other.name = token.name := Utf8.encode_injective (Option.some.inj names)
  have stop := (stands_iff.1 isMatch.stands).2
  have otherStop := (stands_iff.1 isOther.stands).2
  rcases token with ⟨⟨start, stop⟩, text⟩
  rcases other with ⟨⟨otherStart, otherStop⟩, otherText⟩
  simp only at *
  subst same name stop otherStop
  rfl

end Token

/-! ## The tokens of a file are such a list -/

variable {contents : Bytes}

theorem drop_past_placeholder {name rest : Bytes} {position : Nat}
    (here : contents.drop position = marker ++ name ++ rest) :
    contents.drop (position + (marker.length + name.length)) = rest := by
  have length : (marker ++ name).length = marker.length + name.length := List.length_append
  rw [← List.drop_drop, here, ← length, List.drop_left]

theorem matches_of_placeholder {name rest : Bytes} {position : Nat} (isName : IsName name)
    (ends : EndsName rest) (here : contents.drop position = marker ++ name ++ rest) :
    Token.Matches contents
      ⟨⟨position, position + (marker.length + name.length)⟩, nameText name⟩ := by
  rw [Token.matches_iff, Token.stands_iff]
  dsimp only
  rw [encode_nameText isName, drop_past_placeholder here]
  exact ⟨⟨here, rfl⟩, isName, ends⟩

/-- The placeholders of parts are matches: each has a name, and the byte behind it does not belong
to the name. -/
theorem Placeholder.Reads.matching {bytes : Bytes} {parts : List Part} (reads : Reads bytes parts)
    {position : Nat} (here : contents.drop position = bytes) :
    ∀ token ∈ tokensOf position parts, token.Matches contents := by
  induction reads generalizing position with
  | nil => simp [tokensOf]
  | @plain first rest parts absent _ ih =>
    refine ih ?_
    rw [← List.drop_drop, here, List.drop_one, List.tail_cons]
  | @placeholder name rest parts isName ends _ ih =>
    intro token member
    rcases List.mem_cons.1 member with rfl | later
    · exact matches_of_placeholder isName ends here
    · exact ih (drop_past_placeholder here) token later

/-- No placeholder is left out: an offset at which one starts is within one of those that are
listed, for no other part has one at its byte. -/
theorem Placeholder.Reads.covering {bytes : Bytes} {parts : List Part} (reads : Reads bytes parts)
    {position offset : Nat} (found : (nameAt? (bytes.drop offset)).isSome = true) :
    ∃ token ∈ tokensOf position parts,
      token.span.start ≤ position + offset ∧ position + offset < token.span.stop := by
  induction reads generalizing position offset with
  | nil =>
    rw [List.drop_nil] at found
    cases found
  | @plain first rest parts absent _ ih =>
    cases offset with
    | zero =>
      rw [List.drop_zero, absent] at found
      cases found
    | succ offset =>
      have covered := @ih (position + 1) offset found
      rwa [Nat.add_assoc, Nat.add_comm 1] at covered
  | @placeholder name rest parts isName ends _ ih =>
    have length : (marker ++ name).length = marker.length + name.length := List.length_append
    by_cases inside : offset < marker.length + name.length
    · exact ⟨_, List.mem_cons_self, Nat.le_add_right _ _, Nat.add_lt_add_left inside _⟩
    · obtain ⟨later, rfl⟩ := Nat.exists_eq_add_of_le (Nat.not_lt.1 inside)
      rw [← List.drop_drop, ← length, List.drop_left] at found
      obtain ⟨token, member, covers⟩ := @ih (position + (marker.length + name.length)) later found
      refine ⟨token, List.mem_cons_of_mem _ member, ?_⟩
      rwa [Nat.add_assoc] at covers

theorem LeftmostMatches.exists_covering {found : List Token} {offset : Nat}
    (leftmost : LeftmostMatches contents found)
    (starts : (nameAt? (contents.drop offset)).isSome = true) :
    ∃ token ∈ found, token.span.start ≤ offset ∧ offset < token.span.stop := by
  obtain ⟨first, rest, here, isStart⟩ := isSome_nameAt?_iff_classes.1 starts
  exact leftmost.covering offset first rest here isStart

theorem tokens_leftmostMatches (contents : Bytes) : LeftmostMatches contents (tokens contents) := by
  obtain ⟨parts, reads⟩ := exists_reads contents
  refine ⟨tokens_inOrder contents, ?_, ?_⟩
  · rw [reads.tokens_eq]
    exact reads.matching rfl
  · intro position first rest here isStart
    have found : (nameAt? (contents.drop position)).isSome = true :=
      isSome_nameAt?_iff_classes.2 ⟨first, rest, here, isStart⟩
    obtain ⟨token, member, covers⟩ := @Reads.covering _ _ reads 0 position found
    rw [reads.tokens_eq]
    exact ⟨token, member, by rwa [Nat.zero_add] at covers⟩

theorem tokens_standIn (contents : Bytes) :
    (tokens contents).all (Token.standsIn contents) = true := by
  rw [List.all_eq_true]
  intro token member
  exact Token.standsIn_iff.2 ((tokens_leftmostMatches contents).matching token member).stands

/-! ## There is no other -/

/-- Of two tokens in order the one that starts first ends before the other one starts. -/
theorem InOrder.apart {stop start : Nat} {found : List Token} (ordered : InOrder stop start found) :
    ∀ token ∈ found, ∀ other ∈ found, other.span.start < token.span.start →
      other.span.stop ≤ token.span.start := by
  induction found generalizing start with
  | nil => simp
  | cons head rest ih =>
    obtain ⟨_, forward, later⟩ := ordered
    intro token member other otherMember before
    rcases List.mem_cons.1 member with rfl | inRest
    · rcases List.mem_cons.1 otherMember with rfl | otherInRest
      · omega
      · have := later.le_start other otherInRest
        omega
    · rcases List.mem_cons.1 otherMember with rfl | otherInRest
      · exact later.le_start token inRest
      · exact ih later token inRest other otherInRest before

theorem InOrder.of_start_ne {stop start : Nat} {found : List Token}
    (ordered : InOrder stop start found) (lt : start < stop)
    (later : ∀ token ∈ found, token.span.start ≠ start) : InOrder stop (start + 1) found := by
  cases found with
  | nil => exact lt
  | cons token rest =>
    have differs := later token List.mem_cons_self
    exact ⟨Nat.lt_of_le_of_ne ordered.1 (Ne.symm differs), ordered.2⟩

/-- Matches in order that cover every placeholder from an offset on are the tokens from there on. -/
theorem Placeholder.Reads.eq_tokensOf {bytes : Bytes} {parts : List Part}
    (reads : Reads bytes parts) {position : Nat} {found : List Token}
    (here : contents.drop position = bytes)
    (ordered : InOrder contents.length position found)
    (matching : ∀ token ∈ found, token.Matches contents)
    (covering : ∀ offset, position ≤ offset → (nameAt? (contents.drop offset)).isSome = true →
      ∃ token ∈ found, token.span.start ≤ offset ∧ offset < token.span.stop) :
    found = tokensOf position parts := by
  induction reads generalizing position found with
  | nil =>
    have atEnd : contents.length ≤ position := List.drop_eq_nil_iff.1 here
    cases found with
    | nil => rfl
    | cons token rest =>
      have stands := (matching token List.mem_cons_self).stands
      have := stands.start_lt_stop
      have := stands.stop_le
      have := ordered.1
      omega
  | @plain first rest parts absent _ ih =>
    have behind : contents.drop (position + 1) = rest := by
      rw [← List.drop_drop, here, List.drop_one, List.tail_cons]
    have lt : position < contents.length := by
      by_contra beyond
      rw [List.drop_eq_nil_of_le (Nat.not_lt.1 beyond)] at here
      cases here
    have later : ∀ token ∈ found, token.span.start ≠ position := by
      intro token member same
      have found := (matching token member).nameAt?_eq
      rw [same, here, absent] at found
      cases found
    exact ih behind (ordered.of_start_ne lt later) matching
      fun offset le => covering offset (Nat.le_of_succ_le le)
  | @placeholder name rest parts isName ends _ ih =>
    let first : Token := ⟨⟨position, position + (marker.length + name.length)⟩, nameText name⟩
    have firstMatches : first.Matches contents := matches_of_placeholder isName ends here
    have starts : (nameAt? (contents.drop position)).isSome = true := by
      rw [firstMatches.nameAt?_eq]
      rfl
    -- Only a token that starts here can cover this offset, and only the first one can start here.
    obtain ⟨token, member, le, -⟩ := covering position (Nat.le_refl _) starts
    cases found with
    | nil => cases member
    | cons head more =>
      obtain ⟨low, forward, moreOrdered⟩ := ordered
      have headMatches := matching head List.mem_cons_self
      have headNonempty := headMatches.stands.start_lt_stop
      have isHead : head.span.start = position := by
        rcases List.mem_cons.1 member with rfl | inMore
        · omega
        · have := moreOrdered.le_start token inMore
          omega
      obtain rfl : head = first := headMatches.unique firstMatches isHead
      have covered : ∀ offset, first.span.stop ≤ offset →
          (nameAt? (contents.drop offset)).isSome = true →
          ∃ token ∈ more, token.span.start ≤ offset ∧ offset < token.span.stop := by
        intro offset past starts
        obtain ⟨token, member, covers⟩ := covering offset (by omega) starts
        rcases List.mem_cons.1 member with rfl | inMore
        · omega
        · exact ⟨token, inMore, covers⟩
      have restEq := ih (drop_past_placeholder here) moreOrdered
        (fun token inMore => matching token (List.mem_cons_of_mem _ inMore)) covered
      rw [restEq]
      rfl

/-- The tokens of a file are the one list of leftmost matches. -/
theorem leftmostMatches_iff (contents : Bytes) (found : List Token) :
    LeftmostMatches contents found ↔ found = tokens contents := by
  constructor
  · intro leftmost
    obtain ⟨parts, reads⟩ := exists_reads contents
    rw [reads.tokens_eq]
    exact reads.eq_tokensOf rfl leftmost.inOrder leftmost.matching
      fun offset _ starts => leftmost.exists_covering starts
  · rintro rfl
    exact tokens_leftmostMatches contents

/-- A match is a token unless it begins within another token. -/
theorem mem_tokens_iff {token : Token} : token ∈ tokens contents ↔ token.Matches contents ∧
    ∀ other ∈ tokens contents,
      ¬(other.span.start < token.span.start ∧ token.span.start < other.span.stop) := by
  have leftmost := tokens_leftmostMatches contents
  constructor
  · intro member
    refine ⟨leftmost.matching token member, fun other otherMember within => ?_⟩
    have := leftmost.inOrder.apart token member other otherMember within.1
    omega
  · rintro ⟨isMatch, notWithin⟩
    have starts : (nameAt? (contents.drop token.span.start)).isSome = true := by
      rw [isMatch.nameAt?_eq]
      rfl
    obtain ⟨other, member, le, lt⟩ := leftmost.exists_covering starts
    have same : token.span.start = other.span.start := by
      have := notWithin other member
      omega
    rw [isMatch.unique (leftmost.matching other member) same]
    exact member

end EnvInject

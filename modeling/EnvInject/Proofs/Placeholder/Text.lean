import EnvInject.Proofs.Placeholder.Leftmost
import EnvInject.Proofs.Placeholder.Splice

/-!
# Filling a text

What a placeholder spans is itself a text and begins with an ASCII byte, so a text can be cut in
front of each placeholder and behind it, whatever characters stand there. Splicing the bytes of a
text is therefore splicing the text (`SplicesBytes.exists_text`), and filling a file that is text
leaves a text (`fill_tokens_text`).
-/

namespace EnvInject

open Placeholder

/-- A text is spliced with the values themselves. Offsets count the bytes of the text. -/
def SplicesText (values : String → Option String) : Nat → String → List Token → String → Prop :=
  Splices (fun text => (Utf8.encode text).length) fun token => values token.name

variable {values : String → Option String} {contents : Bytes}

theorem SplicesText.unique {offset : Nat} {whole result other : String} {found : List Token}
    (first : SplicesText values offset whole found result)
    (second : SplicesText values offset whole found other) : result = other :=
  Splices.unique (fun _ _ _ _ => Utf8.append_inj) first second

/-- What a token in its place spans is its placeholder. -/
theorem Token.Stands.spanned_eq {token : Token} {spanned behind : Bytes}
    (stands : token.Stands contents) (here : contents.drop token.span.start = spanned ++ behind)
    (stop : token.span.stop = token.span.start + spanned.length) :
    spanned = Utf8.encode ("__reactenv." ++ token.name) ∧
      contents.drop token.span.stop = behind := by
  obtain ⟨found, found_stop⟩ := stands_iff.1 stands
  have size : spanned.length = (marker ++ Utf8.encode token.name).length := by
    rw [List.length_append]
    omega
  obtain ⟨spanned_eq, behind_eq⟩ := List.append_inj (here.symm.trans found) size
  rw [Utf8.encode_append, ← marker_eq_encode]
  exact ⟨spanned_eq, behind_eq.symm⟩

/-- Splicing the bytes of a text at its placeholders is splicing the text. -/
theorem SplicesBytes.exists_text {offset : Nat} {whole result : Bytes} {found : List Token}
    (splices : SplicesBytes values offset whole found result)
    (stands : ∀ token ∈ found, token.Stands contents) (here : contents.drop offset = whole)
    {text : String} (isText : Utf8.encode text = whole) :
    ∃ new, Utf8.encode new = result ∧ SplicesText values offset text found new := by
  induction splices generalizing text with
  | rest whole => exact ⟨text, isText, .rest text⟩
  | @token offset kept spanned behind result token found start stop later ih =>
    have atToken : contents.drop token.span.start = spanned ++ behind := by
      rw [start, ← List.drop_drop, here, List.drop_left]
    obtain ⟨rfl, past⟩ := (stands token List.mem_cons_self).spanned_eq atToken stop
    -- The placeholder begins with an underscore and is a text, so both of its ends are cuts.
    obtain ⟨first, second, rfl, rfl, isSecond⟩ := Utf8.exists_cut isText fun byte isHead => by
      rw [Utf8.encode_append, ← marker_eq_encode] at isHead
      cases isHead
      decide
    obtain ⟨third, rfl, isThird⟩ := Utf8.exists_behind isSecond
    obtain ⟨new, rfl, splices⟩ :=
      ih (fun other member => stands other (List.mem_cons_of_mem _ member)) past isThird
    refine ⟨first ++ ((values token.name).getD ("__reactenv." ++ token.name) ++ new), ?_,
      .token start stop splices⟩
    rw [Utf8.encode_append, Utf8.encode_append, Option.getD_map]

/-- Filling the placeholders of a text makes the one text that has the values in their place. -/
theorem fill_tokens_text (values : String → Option String) {text : String}
    (isText : Utf8.decode? contents = some text) :
    ∃ result new, fill values contents (tokens contents) = some result ∧
      Utf8.decode? result = some new ∧
      ∀ other, SplicesText values 0 text (tokens contents) other ↔ other = new := by
  obtain ⟨result, filled, splices⟩ := fill_splices values (tokens_inOrder contents)
  have stands : ∀ token ∈ tokens contents, token.Stands contents := fun token member =>
    ((tokens_leftmostMatches contents).matching token member).stands
  obtain ⟨new, rfl, splicesText⟩ :=
    splices.exists_text stands rfl (Utf8.decode?_eq_some_iff.1 isText).symm
  refine ⟨Utf8.encode new, new, filled, Utf8.decode?_encode new, fun other => ⟨?_, ?_⟩⟩
  · exact fun spliced => spliced.unique splicesText
  · rintro rfl
    exact splicesText

end EnvInject

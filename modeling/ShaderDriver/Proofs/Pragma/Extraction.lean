import ShaderDriver.Pragma.Comment

/-!
# ShaderDriver.Proofs.Pragma.Extraction

**Which comment of a source counts.** `Encloses` cuts a source at a settings comment: a part that
does not hold the marker, the comment with its body, and the rest. Neither the marker nor the end of
a comment can overlap itself, so there is at most one such cut, and `body?` finds its body.

A comment that is never closed hides those behind it: there is no body exactly if none of the
markers in the source is followed by an end.

`comment` goes the other way, and writes a body as a comment. The body is found there if it starts
with a space and does not end the comment early (`body?_comment`).
-/

namespace ShaderDriver.Pragma

/-- The source is a part without the marker, a settings comment with this body, and the rest. The
body starts with the space at the end of the marker, and the comment ends as soon as it can. -/
structure Encloses (source before body after : Bytes) : Prop where
  eq : source = before ++ opening ++ body ++ closing ++ after
  unmarked : ¬ opening ++ [space] <:+: before
  head?_body : body.head? = some space
  unclosed : ¬ closing <:+: body

/-- The marker holds no second slash. -/
theorem startsOnce_marker : Text.StartsOnce (opening ++ [space]) :=
  ⟨47, utf8 "*#pragma settings ", by decide, by decide⟩

/-- The end of a comment is an asterisk and a slash. -/
theorem startsOnce_closing : Text.StartsOnce closing :=
  ⟨42, [47], by decide, by decide⟩

/-- Where the marker stands behind a part without it, the comment is looked for there. -/
theorem body?_of_marker {source before rest : Bytes}
    (hsource : source = before ++ (opening ++ [space]) ++ rest)
    (hbefore : ¬ opening ++ [space] <:+: before) :
    body? source = (Text.breakOn? closing (space :: rest)).map (·.1) := by
  rw [body?, (Text.breakOn?_eq_some_iff startsOnce_marker).mpr ⟨hsource, hbefore⟩]

namespace Encloses

variable {source before body after : Bytes}

/-- The two cuts that lead to the body. -/
theorem breakOn? (h : Encloses source before body after) :
    ∃ rest, source = before ++ (opening ++ [space]) ++ rest ∧
      Text.breakOn? (opening ++ [space]) source = some (before, rest) ∧
      Text.breakOn? closing (space :: rest) = some (body, after) := by
  obtain ⟨tail, rfl⟩ := List.head?_eq_some_iff.mp h.head?_body
  have hsource : source = before ++ (opening ++ [space]) ++ (tail ++ closing ++ after) := by
    simp [h.eq]
  refine ⟨tail ++ closing ++ after, hsource, ?_, ?_⟩
  · exact (Text.breakOn?_eq_some_iff startsOnce_marker).mpr ⟨hsource, h.unmarked⟩
  · exact (Text.breakOn?_eq_some_iff startsOnce_closing).mpr ⟨by simp, h.unclosed⟩

theorem body?_eq (h : Encloses source before body after) : body? source = some body := by
  obtain ⟨rest, hsource, -, hclosing⟩ := h.breakOn?
  rw [body?_of_marker hsource h.unmarked, hclosing]
  rfl

/-- A source can be cut in one way only. -/
theorem unique (h : Encloses source before body after) {before' body' after' : Bytes}
    (h' : Encloses source before' body' after') :
    before = before' ∧ body = body' ∧ after = after' := by
  obtain ⟨rest, -, hmarker, hclosing⟩ := h.breakOn?
  obtain ⟨rest', -, hmarker', hclosing'⟩ := h'.breakOn?
  obtain ⟨rfl, rfl⟩ : before = before' ∧ rest = rest' := by
    simpa [hmarker] using hmarker'
  simpa [hclosing] using hclosing'

end Encloses

/-- What is found is the body of a comment that cuts the source. -/
theorem exists_encloses_of_body? {source body : Bytes} (h : body? source = some body) :
    ∃ before after, Encloses source before body after := by
  unfold body? at h
  split at h
  · cases h
  · rename_i before rest hmarker
    simp only [Option.map_eq_some_iff, Prod.exists, exists_and_right, exists_eq_right] at h
    obtain ⟨after, hclosing⟩ := h
    obtain ⟨hsource, hbefore⟩ := (Text.breakOn?_eq_some_iff startsOnce_marker).mp hmarker
    obtain ⟨hrest, hbody⟩ := (Text.breakOn?_eq_some_iff startsOnce_closing).mp hclosing
    -- The end of a comment does not start with a space, so the body has one.
    cases body with
    | nil => exact absurd (List.cons.inj hrest).1 (by decide)
    | cons first tail =>
      obtain ⟨rfl, rfl⟩ := List.cons.inj hrest
      exact ⟨before, after, by simp [hsource], hbefore, rfl, hbody⟩

/-- There is no body exactly if no marker is followed by the end of a comment. -/
theorem body?_eq_none_iff {source : Bytes} :
    body? source = none ↔
      ¬ ∃ before rest, source = before ++ (opening ++ [space]) ++ rest ∧ closing <:+: rest := by
  constructor
  · rintro hnone ⟨other, rest, hsource, hclosed⟩
    cases hmarker : Text.breakOn? (opening ++ [space]) source with
    | none => exact Text.breakOn?_eq_none_iff.mp hmarker ⟨other, rest, hsource.symm⟩
    | some found =>
      obtain ⟨before, first⟩ := found
      obtain ⟨hfirst, hbefore⟩ := (Text.breakOn?_eq_some_iff startsOnce_marker).mp hmarker
      -- The first marker has all that the other one has behind it, and so the end as well.
      have hsuffix := Text.suffix_of_breakOn? hmarker hsource
      have hnever : Text.breakOn? closing (space :: first) = none := by
        simpa [body?_of_marker hfirst hbefore] using hnone
      exact Text.breakOn?_eq_none_iff.mp hnever
        ((hclosed.trans hsuffix.isInfix).trans (List.suffix_cons space first).isInfix)
  · intro hnever
    cases hbody : body? source with
    | none => rfl
    | some body =>
      obtain ⟨before, after, h⟩ := exists_encloses_of_body? hbody
      obtain ⟨tail, rfl⟩ := List.head?_eq_some_iff.mp h.head?_body
      refine absurd ⟨before, tail ++ closing ++ after, ?_, ⟨tail, after, rfl⟩⟩ hnever
      simp [h.eq]

/-- **The first complete comment is found.** A source has a body exactly if it can be cut at a
settings comment with this body, in front of which the marker does not occur; it can be cut in one
way only. It has none exactly if no marker in it is followed by the end of a comment. So the body
depends neither on what is behind the comment nor on what is in front of it, as long as that holds no
marker. -/
theorem body?_finds_first (source : Bytes) :
    (∀ body, body? source = some body ↔ ∃ before after, Encloses source before body after) ∧
    (∀ before body after before' body' after', Encloses source before body after →
      Encloses source before' body' after' → before = before' ∧ body = body' ∧ after = after') ∧
    (body? source = none ↔
      ¬ ∃ before rest, source = before ++ (opening ++ [space]) ++ rest ∧ closing <:+: rest) ∧
    ∀ before body after, Encloses source before body after →
      ∀ elsewhere otherwise, ¬ opening ++ [space] <:+: elsewhere →
        body? (elsewhere ++ opening ++ body ++ closing ++ otherwise) = body? source := by
  refine ⟨fun body => ⟨exists_encloses_of_body?, ?_⟩, ?_, body?_eq_none_iff, ?_⟩
  · rintro ⟨before, after, h⟩
    exact h.body?_eq
  · intro before body after before' body' after' h h'
    exact h.unique h'
  · intro before body after h elsewhere otherwise helsewhere
    have hmoved : Encloses (elsewhere ++ opening ++ body ++ closing ++ otherwise)
        elsewhere body otherwise := ⟨rfl, helsewhere, h.head?_body, h.unclosed⟩
    rw [h.body?_eq, hmoved.body?_eq]

example : body? (utf8 "a /*#pragma settings x /*#pragma settings y**/ b*/") =
    some (utf8 " x /*#pragma settings y*") := by decide +kernel

example : body? (utf8 "/*#pragma settings x /*#pragma settings y * /") = none := by decide +kernel

/-! ### Writing comments -/

/-- A body written as a settings comment. -/
def comment (body : Bytes) : Bytes := opening ++ body ++ closing

theorem body?_comment {body : Bytes} (hhead : body.head? = some space)
    (hclosing : ¬ closing <:+: body) : body? (comment body) = some body := by
  have h : Encloses (comment body) [] body [] :=
    ⟨by simp [comment], by decide, hhead, hclosing⟩
  exact h.body?_eq

/-- What holds no slash does not end a comment, whatever it stands behind. -/
theorem closing_infix_of_append {body more : Bytes} (hmore : 47 ∉ more)
    (h : closing <:+: body ++ more) : closing <:+: body := by
  obtain ⟨left, right, hsplit⟩ := h
  rcases List.append_eq_append_iff.mp hsplit with ⟨rest, hbody, -⟩ | ⟨back, hfront, hback⟩
  · exact ⟨left, rest, hbody.symm⟩
  · -- The slash is the last byte of the end, so no part of the end can reach into `more`.
    rcases List.eq_nil_or_concat back with rfl | ⟨init, last, rfl⟩
    · exact ⟨left, [], by simpa using hfront⟩
    · have hclosing : closing = [42] ++ [47] := by decide
      rw [List.concat_eq_append] at hfront hback
      rw [hclosing, ← List.append_assoc left, ← List.append_assoc body] at hfront
      obtain rfl : 47 = last := by simpa using (List.append_inj' hfront rfl).2
      simp [hback] at hmore

end ShaderDriver.Pragma

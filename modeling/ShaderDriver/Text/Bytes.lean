/-!
# ShaderDriver.Text.Bytes

**Text is kept as its bytes.** Shader sources need not be valid UTF-8 and come out of a build
exactly as they went in, so sources, diagnostics, artifacts and everything printed are byte
sequences. Paths, names and arguments are `String`s; `utf8` is the way from one to the other.

So a text is taken to have an encoding. Of a source this is so however it is made, and of a `String`
too; of the texts that a collaborator comes up with it is an assumption. Where such a text is written
or printed, a `Codec` says whether the assumption holds.
-/

namespace ShaderDriver

/-- A sequence of bytes: a source, a diagnostic, an artifact, or printed output. -/
abbrev Bytes := List UInt8

/-- The UTF-8 form of a string. -/
def utf8 (s : String) : Bytes := s.toUTF8.data.toList

@[simp] theorem utf8_empty : utf8 "" = [] := rfl

@[simp] theorem utf8_append (s t : String) : utf8 (s ++ t) = utf8 s ++ utf8 t := by
  simp [utf8, String.toUTF8, String.toByteArray_append]

/-- The line end. -/
def newline : UInt8 := 10

/-- The text as a whole number of lines: a line end is added unless the text ends in one. -/
def closeLine (text : Bytes) : Bytes :=
  if text.getLast? = some newline then text else text ++ [newline]

theorem closeLine_of_getLast? {text : Bytes} (h : text.getLast? = some newline) :
    closeLine text = text := by
  simp [closeLine, h]

/-! ### Storing in the midst of a content -/

/-- The content with `data` in place of what stands there from `offset` on. If the content ends
before that, zeros fill the gap. Without data nothing changes. -/
def overlay (content : Bytes) (offset : Nat) (data : Bytes) : Bytes :=
  if data = [] then content
  else
    content.take offset ++ (List.replicate (offset - content.length) 0 ++
      (data ++ content.drop (offset + data.length)))

@[simp] theorem overlay_nil (content : Bytes) (offset : Nat) :
    overlay content offset [] = content := by
  simp [overlay]

/-- At the end of a content, data is appended. -/
theorem overlay_length (content data : Bytes) :
    overlay content content.length data = content ++ data := by
  by_cases h : data = [] <;> simp [overlay, h]

/-- Data can be stored piece by piece. -/
theorem overlay_overlay (content : Bytes) (offset : Nat) (first rest : Bytes) :
    overlay (overlay content offset first) (offset + first.length) rest =
      overlay content offset (first ++ rest) := by
  by_cases hfirst : first = []
  · simp [hfirst]
  by_cases hrest : rest = []
  · simp [hrest]
  have hstart : (content.take offset ++ List.replicate (offset - content.length) 0).length =
      offset := by
    simp
    omega
  simp only [overlay, hfirst, hrest, if_false, List.append_eq_nil_iff, and_self,
    ← List.append_assoc (content.take offset)]
  generalize content.take offset ++ List.replicate (offset - content.length) 0 = start at hstart
  subst hstart
  simp [List.take_append, List.drop_append, List.take_of_length_le, List.drop_of_length_le,
    Nat.add_assoc]

end ShaderDriver

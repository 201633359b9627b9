import ShaderDriver.Dehydrated.Reader

/-!
# ShaderDriver.Proofs.Dehydrated.RoundTrip

**A C array says which bytes it was made of.** The digits of a number end at the comma behind it, so
an element is read off the front of a text whatever follows (`readElements_decimal`), and no two
bytes have the same number (`decimal_injective`). Both results are inductions over the data:

* `read?_render`: with margins of white space, the reader finds the data. The white space can be
  chosen, as long as it can be told from numbers and from the end (`SetsApart`). That of all scripts
  can, since characters beyond ASCII are made of bytes beyond ASCII (`isWideBlank_of_mem_utf8`);
* `elements_injective`: with any margins, no other data has the same text. Nothing is read for this:
  margins may look like elements, or like the end. But the same margin stands at the same offset, so
  it can be cancelled on both sides, and then the number up to its comma.
-/

namespace ShaderDriver.Dehydrated

/-! ### Characters as bytes -/

theorem utf8_ofList (chars : List Char) :
    utf8 (String.ofList chars) = chars.flatMap String.utf8EncodeChar := by
  simp only [utf8, String.toUTF8, String.toByteArray_ofList, List.utf8Encode,
    List.toList_data_toByteArray]

theorem toNat_toUInt8_of_ascii {c : Char} (h : c.toNat ≤ 127) : c.toUInt8.toNat = c.toNat := by
  show c.toNat % 256 = c.toNat
  omega

/-- An ASCII character is one byte. -/
theorem utf8EncodeChar_of_ascii {c : Char} (h : c.toNat ≤ 127) :
    String.utf8EncodeChar c = [c.toUInt8] :=
  String.utf8EncodeChar_eq_singleton (Char.utf8Size_eq_one_iff.mpr h)

theorem utf8_ofList_of_ascii {chars : List Char} (h : ∀ c ∈ chars, c.toNat ≤ 127) :
    utf8 (String.ofList chars) = chars.map Char.toUInt8 := by
  rw [utf8_ofList, List.map_eq_flatMap]
  exact congrArg List.flatten
    (List.map_congr_left fun c hc => utf8EncodeChar_of_ascii (h c hc))

/-- Characters beyond ASCII are made of bytes beyond ASCII. -/
theorem le_of_mem_utf8EncodeChar {c : Char} (h : 128 ≤ c.toNat) :
    ∀ b ∈ String.utf8EncodeChar c, 128 ≤ b := by
  -- Each byte carries some bits of the character, and a mark that is at least 128.
  have hmarked {bits width mark : Nat} (hfits : 0 < width ∧ 128 ≤ mark ∧ width + mark ≤ 256) :
      128 ≤ UInt8.ofNat (bits % width + mark) := by
    have hbits : bits % width < width := Nat.mod_lt bits hfits.1
    rw [UInt8.le_iff_toNat_le, UInt8.toNat_ofNat', Nat.mod_eq_of_lt (by omega)]
    exact Nat.le_trans hfits.2.1 (Nat.le_add_left mark _)
  have hascii : ¬ c.val.toNat ≤ 127 := by
    show ¬ c.toNat ≤ 127
    omega
  simp only [String.utf8EncodeChar, if_neg hascii]
  split
  · simp only [List.forall_mem_cons]
    exact ⟨hmarked (by decide), hmarked (by decide), List.forall_mem_nil _⟩
  split
  · simp only [List.forall_mem_cons]
    exact ⟨hmarked (by decide), hmarked (by decide), hmarked (by decide), List.forall_mem_nil _⟩
  · simp only [List.forall_mem_cons]
    exact ⟨hmarked (by decide), hmarked (by decide), hmarked (by decide), hmarked (by decide),
      List.forall_mem_nil _⟩

/-! ### Numbers -/

theorem bounds_of_isDigit {c : Char} (h : c.isDigit = true) : 48 ≤ c.toNat ∧ c.toNat ≤ 57 := by
  simp only [Char.isDigit, Bool.and_eq_true, decide_eq_true_eq] at h
  exact h

theorem digit?_toUInt8 {c : Char} (h : c.isDigit = true) :
    digit? c.toUInt8 = some (c.toNat - 48) := by
  obtain ⟨hlower, hupper⟩ := bounds_of_isDigit h
  have htoNat : c.toUInt8.toNat = c.toNat := toNat_toUInt8_of_ascii (by omega)
  have hdigit : 48 ≤ c.toUInt8 ∧ c.toUInt8 ≤ 57 := by
    rw [UInt8.le_iff_toNat_le, UInt8.le_iff_toNat_le, htoNat]
    exact ⟨hlower, hupper⟩
  rw [digit?, if_pos hdigit, htoNat]

/-- The digits of a byte. -/
def digits (byte : UInt8) : List Char := Nat.toDigits 10 byte.toNat

theorem isDigit_of_mem_digits {byte : UInt8} {c : Char} (h : c ∈ digits byte) :
    c.isDigit = true :=
  Nat.isDigit_of_mem_toDigits (by decide) (by decide) h

theorem decimal_eq (byte : UInt8) : decimal byte = (digits byte).map Char.toUInt8 := by
  rw [decimal, Nat.toString_eq_ofList_toDigits, utf8_ofList_of_ascii]
  · rfl
  · intro c hc
    have hbounds := bounds_of_isDigit (isDigit_of_mem_digits hc)
    omega

/-- There is no comma in a number. -/
theorem comma_notMem_decimal (byte : UInt8) : 44 ∉ decimal byte := by
  rw [decimal_eq]
  intro hcomma
  obtain ⟨c, hc, heq⟩ := List.mem_map.mp hcomma
  have hdigit := digit?_toUInt8 (isDigit_of_mem_digits hc)
  rw [heq] at hdigit
  cases hdigit

/-! ### Reading elements -/

variable {blank : UInt8 → Bool}

/-- Digits that follow digits are read into the same number. -/
theorem readElements_digits {chars : List Char} (h : ∀ c ∈ chars, c.isDigit = true) (n : Nat)
    (rest : Bytes) :
    readElements blank (some n) (chars.map Char.toUInt8 ++ rest) =
      readElements blank (some (Nat.ofDigitChars 10 chars n)) rest := by
  induction chars generalizing n with
  | nil => rfl
  | cons c chars ih =>
    rw [List.map_cons, List.cons_append,
      readElements_of_digit (digit?_toUInt8 (h c List.mem_cons_self)),
      ih fun c hc => h c (List.mem_cons_of_mem _ hc), Nat.ofDigitChars_cons, Nat.mul_comm 10]
    rfl

/-- A number with a comma behind it is read as its byte. -/
theorem readElements_decimal (byte : UInt8) (rest : Bytes) :
    readElements blank none (decimal byte ++ 44 :: rest) =
      (readElements blank none rest).map (byte :: ·) := by
  -- The first digit is read as if it followed a zero.
  have hzero : readElements blank none (decimal byte ++ 44 :: rest) =
      readElements blank (some 0) (decimal byte ++ 44 :: rest) := by
    rw [decimal_eq]
    cases hdigits : digits byte with
    | nil => exact absurd hdigits Nat.toDigits_ne_nil
    | cons c chars =>
      have hc : c ∈ digits byte := hdigits ▸ List.mem_cons_self
      have hdigit := digit?_toUInt8 (isDigit_of_mem_digits hc)
      rw [List.map_cons, List.cons_append, readElements_of_digit hdigit,
        readElements_of_digit hdigit]
      rfl
  rw [hzero, decimal_eq, readElements_digits fun c hc => isDigit_of_mem_digits hc, digits,
    Nat.ofDigitChars_ten_toDigits, readElements_comma byte.toNat_lt, UInt8.ofNat_toNat]

/-- A byte can be told from its number. -/
theorem decimal_injective {byte other : UInt8} (h : decimal byte = decimal other) :
    byte = other := by
  have hread (byte : UInt8) :
      readElements isBlank none (decimal byte ++ [44, brace]) = some [byte] := by
    rw [readElements_decimal, readElements_brace]
    rfl
  have hsame := hread byte
  rw [h, hread other] at hsame
  simpa using hsame.symm

/-- What reading needs of white space: it holds neither digits nor braces. -/
def SetsApart (blank : UInt8 → Bool) : Prop :=
  ∀ b, blank b = true → digit? b = none ∧ b ≠ brace

/-- The bytes that white space of any script is made of: in ASCII it ends with the space, and all
other characters are made of bytes beyond ASCII. -/
def isWideBlank (b : UInt8) : Bool := b ≤ 32 || 128 ≤ b

theorem isWideBlank_iff {b : UInt8} : isWideBlank b = true ↔ b.toNat ≤ 32 ∨ 128 ≤ b.toNat := by
  simp only [isWideBlank, Bool.or_eq_true, decide_eq_true_eq, UInt8.le_iff_toNat_le]
  rfl

theorem setsApart_isWideBlank : SetsApart isWideBlank := by
  intro b hb
  have hbounds := isWideBlank_iff.mp hb
  refine ⟨if_neg ?_, ?_⟩
  · rintro ⟨hlower, hupper⟩
    rw [UInt8.le_iff_toNat_le] at hlower hupper
    have hlower' : 48 ≤ b.toNat := hlower
    have hupper' : b.toNat ≤ 57 := hupper
    omega
  · rintro rfl
    exact absurd hbounds (by decide)

/-- The bytes of a text that has nothing but white space. -/
theorem isWideBlank_of_mem_utf8 {text : String}
    (h : ∀ c ∈ text.toList, c.toNat ≤ 32 ∨ 128 ≤ c.toNat) :
    ∀ b ∈ utf8 text, isWideBlank b = true := by
  intro b hb
  rw [← @String.ofList_toList text, utf8_ofList] at hb
  obtain ⟨c, hc, hbyte⟩ := List.mem_flatMap.mp hb
  rw [isWideBlank_iff]
  obtain hlow | hwide := h c hc
  · have hascii : c.toNat ≤ 127 := by omega
    rw [utf8EncodeChar_of_ascii hascii, List.mem_singleton] at hbyte
    rw [hbyte, toNat_toUInt8_of_ascii hascii]
    exact Or.inl hlow
  · exact Or.inr (UInt8.le_iff_toNat_le.mp (le_of_mem_utf8EncodeChar hwide b hbyte))

theorem isWideBlank_of_isBlank {b : UInt8} (h : isBlank b = true) : isWideBlank b = true := by
  have hcases : b = 32 ∨ 9 ≤ b ∧ b ≤ 13 := by simpa [isBlank] using h
  have hle : b ≤ 32 := by
    rcases hcases with rfl | ⟨-, hupper⟩
    · decide
    · exact UInt8.le_trans hupper (by decide)
  simp [isWideBlank, hle]

theorem setsApart_isBlank : SetsApart isBlank := fun b hb =>
  setsApart_isWideBlank b (isWideBlank_of_isBlank hb)

theorem readElements_margin (hblank : SetsApart blank) {margin : Bytes}
    (h : ∀ b ∈ margin, blank b = true) (rest : Bytes) :
    readElements blank none (margin ++ rest) = readElements blank none rest := by
  induction margin with
  | nil => rfl
  | cons b margin ih =>
    have hb := h b List.mem_cons_self
    obtain ⟨hdigit, hbrace⟩ := hblank b hb
    rw [List.cons_append, readElements_of_blank hdigit hbrace hb]
    exact ih fun b hb => h b (List.mem_cons_of_mem _ hb)

/-! ### Elements with their margins -/

/-- The elements of an array, each behind the margin for its offset. -/
def elements (data : Bytes) (margin : Nat → Bytes) : Bytes :=
  (((List.range data.length).map margin).zip data).flatMap fun (margin, byte) =>
    element margin byte

theorem render_eq (name : String) (data : Bytes) (margin : Nat → Bytes) :
    render name data margin = header name ++ elements data margin ++ footer name := rfl

/-- Behind the first element, offsets count from one. -/
theorem elements_cons (byte : UInt8) (data : Bytes) (margin : Nat → Bytes) :
    elements (byte :: data) margin =
      margin 0 ++ (decimal byte ++ 44 :: elements data fun offset => margin (offset + 1)) := by
  have hcomma : utf8 "," = [44] := by decide
  rw [elements, List.length_cons, List.range_succ_eq_map, List.map_cons, List.zip_cons_cons,
    List.flatMap_cons, List.map_map]
  show element (margin 0) byte ++ elements data (margin ∘ Nat.succ) = _
  rw [element, hcomma, List.append_assoc, List.append_assoc]
  rfl

/-- Elements behind margins of white space are read as their bytes. -/
theorem readElements_elements (hblank : SetsApart blank) (data : Bytes) {margin : Nat → Bytes}
    (h : ∀ offset, ∀ b ∈ margin offset, blank b = true) (rest : Bytes) :
    readElements blank none (elements data margin ++ rest) =
      (readElements blank none rest).map (data ++ ·) := by
  induction data generalizing margin with
  | nil => simp [elements]
  | cons byte data ih =>
    rw [elements_cons, List.append_assoc, readElements_margin hblank (h 0), List.append_assoc,
      List.cons_append, readElements_decimal, ih fun offset => h (offset + 1), Option.map_map]
    rfl

/-- An array whose margins are white space is read as its data. -/
theorem read?_render (hblank : SetsApart blank) (name : String) (data : Bytes)
    {margin : Nat → Bytes} (h : ∀ offset, ∀ b ∈ margin offset, blank b = true) :
    read? blank name (render name data margin) = some data := by
  have hfooter : footer name = brace :: (footer name).tail := by
    rw [footer, String.append_assoc, String.append_assoc, utf8_append]
    rfl
  rw [read?, render_eq, List.append_assoc, Text.stripPrefix?_append]
  show readElements blank none (elements data margin ++ footer name) = some data
  rw [readElements_elements hblank data h, hfooter, readElements_brace, Option.map_some,
    List.append_nil]

/-- Elements behind the same margins are those of the same data. -/
theorem elements_injective {data other : Bytes} {margin : Nat → Bytes}
    (h : elements data margin = elements other margin) : data = other := by
  induction data generalizing other margin with
  | nil =>
    cases other with
    | nil => rfl
    | cons byte other =>
      rw [elements_cons] at h
      simp [elements] at h
  | cons byte data ih =>
    cases other with
    | nil =>
      rw [elements_cons] at h
      simp [elements] at h
    | cons byte' other =>
      rw [elements_cons, elements_cons, List.append_cancel_left_eq] at h
      -- Both texts start with a number now, which ends at the first comma.
      have hnumber : decimal byte = decimal byte' := by
        have hcut := congrArg (List.splitOn 44) h
        rw [List.splitOn_append_cons_self_of_not_mem (comma_notMem_decimal byte),
          List.splitOn_append_cons_self_of_not_mem (comma_notMem_decimal byte')] at hcut
        exact (List.cons.inj hcut).1
      rw [hnumber, List.append_cancel_left_eq] at h
      rw [decimal_injective hnumber, ih (List.cons.inj h).2]

/-- **A C array tells the bytes it was made of.** If there is nothing but white space in its margins,
the reader finds them. White space may be anything that has neither digits nor braces: that of C, or
that of any script, which in ASCII ends with the space. And whatever there is in the margins, other
bytes have another text. -/
theorem array_determines_data (name : String) :
    (∀ (blank : UInt8 → Bool), SetsApart blank → ∀ (data : Bytes) (margin : Nat → Bytes),
      (∀ offset, ∀ b ∈ margin offset, blank b = true) →
        read? blank name (render name data margin) = some data) ∧
    SetsApart isBlank ∧
    (∀ (data : Bytes) (margin : Nat → String),
      (∀ offset, ∀ c ∈ (margin offset).toList, c.toNat ≤ 32 ∨ 128 ≤ c.toNat) →
        read? isWideBlank name (render name data fun offset => utf8 (margin offset)) = some data) ∧
    ∀ (margin : Nat → Bytes) (data other : Bytes),
      render name data margin = render name other margin → data = other := by
  refine ⟨?_, setsApart_isBlank, ?_, ?_⟩
  · intro blank hblank data margin h
    exact read?_render hblank name data h
  · intro data margin h
    exact read?_render setsApart_isWideBlank name data fun offset =>
      isWideBlank_of_mem_utf8 (h offset)
  · intro margin data other h
    rw [render_eq, render_eq, List.append_cancel_right_eq, List.append_cancel_left_eq] at h
    exact elements_injective h

/-- Numbers of each width, with a line break and a wide space in front of every other one; and
margins that look like the elements. -/
theorem array_determines_data_wide :
    let margin (offset : Nat) : String := if offset % 2 = 0 then "\n\u3000" else ""
    read? isWideBlank "gpu" (render "gpu" [0, 9, 10, 255] fun offset => utf8 (margin offset)) =
        some [0, 9, 10, 255] ∧
      read? isBlank "gpu" (render "gpu" [] fun _ => []) = some [] ∧
      render "gpu" [7] (fun _ => utf8 "7,") ≠ render "gpu" [7, 7] (fun _ => utf8 "7,") := by
  intro margin
  obtain ⟨hread, hblank, hwide, hinjective⟩ := array_determines_data "gpu"
  refine ⟨hwide _ margin ?_, hread isBlank hblank _ _ (fun _ _ hb => nomatch hb), ?_⟩
  · intro offset c hc
    by_cases heven : offset % 2 = 0
    · have hmargin : margin offset = "\n\u3000" := if_pos heven
      have hchars : ("\n\u3000".toList.all fun c => c.toNat ≤ 32 || 128 ≤ c.toNat) = true := by
        decide
      rw [hmargin] at hc
      simpa using List.all_eq_true.mp hchars c hc
    · have hmargin : margin offset = "" := if_neg heven
      rw [hmargin] at hc
      cases hc
  · intro h
    exact absurd (hinjective _ _ _ h) (by decide)

end ShaderDriver.Dehydrated

/-!
# ShaderDriver.Text.Search

**Cutting a sequence at a known part.** The functions work on lists, so they serve the bytes of a
source and the characters of a path alike. Each is pinned down by the equation between its answer
and the pieces of the sequence:

* `stripPrefix?_eq_some_iff` and `stripSuffix?_eq_some_iff`: an answer is what stands beside the
  part that was cut off;
* `breakOn?_eq_some` and `length_le_of_breakOn?`: the two sides of the first occurrence of a
  pattern, joined by the pattern, give back the sequence, and no occurrence starts earlier;
* `breakOn?_eq_none_iff`: there is no answer exactly when the pattern does not occur;
* `breakOn?_eq_some_iff`: a pattern that cannot overlap itself is found behind the one part that
  does not hold it;
* `exists_last_occurrence`: a sequence that holds an element can be cut where that stands last.
-/

namespace ShaderDriver.Text

variable {α : Type} [DecidableEq α]

/-! ### Cutting at the ends -/

/-- What follows `front` in `xs`, if `xs` starts with it. -/
def stripPrefix? (front xs : List α) : Option (List α) :=
  if xs.take front.length = front then some (xs.drop front.length) else none

/-- What precedes `back` in `xs`, if `xs` ends with it. -/
def stripSuffix? (back xs : List α) : Option (List α) :=
  if xs.drop (xs.length - back.length) = back then some (xs.take (xs.length - back.length))
  else none

theorem stripPrefix?_eq_some_iff {front xs rest : List α} :
    stripPrefix? front xs = some rest ↔ xs = front ++ rest := by
  unfold stripPrefix?
  constructor
  · intro h
    split at h
    · rename_i hf
      rw [← List.take_append_drop front.length xs, hf]
      simpa using h
    · simp at h
  · rintro rfl
    simp

theorem stripSuffix?_eq_some_iff {back xs rest : List α} :
    stripSuffix? back xs = some rest ↔ xs = rest ++ back := by
  unfold stripSuffix?
  constructor
  · intro h
    split at h
    · rename_i hb
      obtain rfl : xs.take (xs.length - back.length) = rest := by simpa using h
      exact (List.take_append_drop _ xs).symm.trans (by rw [hb])
    · simp at h
  · rintro rfl
    simp

@[simp] theorem stripPrefix?_append (front rest : List α) :
    stripPrefix? front (front ++ rest) = some rest :=
  stripPrefix?_eq_some_iff.mpr rfl

@[simp] theorem stripSuffix?_append (rest back : List α) :
    stripSuffix? back (rest ++ back) = some rest :=
  stripSuffix?_eq_some_iff.mpr rfl

/-- Cutting off the end leaves no more than there was. -/
theorem length_le_of_stripSuffix? {back xs rest : List α} (h : stripSuffix? back xs = some rest) :
    rest.length ≤ xs.length := by
  simp [stripSuffix?_eq_some_iff.mp h]

/-! ### The first occurrence -/

/-- The two sides of the first occurrence of `pattern` in `xs`. -/
def breakOn? (pattern xs : List α) : Option (List α × List α) :=
  go [] xs
where
  /-- Looks on, `seen` holding what was passed over, last element first. -/
  go (seen : List α) : List α → Option (List α × List α)
    | [] => if pattern = [] then some (seen.reverse, []) else none
    | x :: xs =>
      match stripPrefix? pattern (x :: xs) with
      | some rest => some (seen.reverse, rest)
      | none => go (x :: seen) xs

theorem breakOn?_go_eq_some {pattern seen xs before after : List α}
    (h : breakOn?.go pattern seen xs = some (before, after)) :
    seen.reverse ++ xs = before ++ pattern ++ after := by
  induction xs generalizing seen with
  | nil =>
    simp only [breakOn?.go] at h
    split at h
    · rename_i hp
      simp_all
    · simp at h
  | cons x xs ih =>
    simp only [breakOn?.go] at h
    split at h
    · rename_i rest hrest
      simp only [Option.some.injEq, Prod.mk.injEq] at h
      obtain ⟨rfl, rfl⟩ := h
      rw [stripPrefix?_eq_some_iff.mp hrest, List.append_assoc]
    · simpa using ih h

/-- The sides of the first occurrence, joined by the pattern, give back the sequence. -/
theorem breakOn?_eq_some {pattern xs before after : List α}
    (h : breakOn? pattern xs = some (before, after)) : xs = before ++ pattern ++ after := by
  simpa using breakOn?_go_eq_some h

theorem breakOn?_go_append (pattern seen before after : List α) :
    ∃ first last, breakOn?.go pattern seen (before ++ pattern ++ after) =
        some (seen.reverse ++ first, last) ∧ first.length ≤ before.length := by
  induction before generalizing seen with
  | nil =>
    refine ⟨[], after, ?_, Nat.le_refl _⟩
    cases hxs : pattern ++ after with
    | nil =>
      have hp : pattern = [] := (List.append_eq_nil_iff.mp hxs).1
      have ha : after = [] := (List.append_eq_nil_iff.mp hxs).2
      simp [breakOn?.go, hp, ha]
    | cons x xs =>
      have hstrip : stripPrefix? pattern (x :: xs) = some after :=
        stripPrefix?_eq_some_iff.mpr hxs.symm
      simp [breakOn?.go, hxs, hstrip]
  | cons x before ih =>
    simp only [List.cons_append, breakOn?.go]
    split
    · rename_i rest _
      exact ⟨[], rest, by simp, Nat.zero_le _⟩
    · obtain ⟨first, last, hgo, hle⟩ := ih (x :: seen)
      exact ⟨x :: first, last, by simpa using hgo, by simpa using hle⟩

/-- No occurrence of a pattern starts before the one that is found. -/
theorem length_le_of_breakOn? {pattern xs before after other rest : List α}
    (h : breakOn? pattern xs = some (before, after)) (hother : xs = other ++ pattern ++ rest) :
    before.length ≤ other.length := by
  obtain ⟨first, last, hgo, hle⟩ := breakOn?_go_append pattern [] other rest
  rw [← hother] at hgo
  have hfirst : some (before, after) = some (first, last) := by
    rw [← h]
    simpa [breakOn?] using hgo
  simp only [Option.some.injEq, Prod.mk.injEq] at hfirst
  rw [hfirst.1]
  exact hle

/-- What is behind some occurrence is the end of what is behind the first. -/
theorem suffix_of_breakOn? {pattern xs before after other rest : List α}
    (h : breakOn? pattern xs = some (before, after)) (hother : xs = other ++ pattern ++ rest) :
    rest <:+ after := by
  have hfirst := breakOn?_eq_some h
  have hle := length_le_of_breakOn? h hother
  have hlength := congrArg List.length (hfirst.symm.trans hother)
  simp only [List.length_append] at hlength
  exact List.suffix_of_suffix_length_le ⟨_, hother.symm⟩ ⟨_, hfirst.symm⟩ (by omega)

theorem breakOn?_go_eq_none_iff {pattern seen xs : List α} :
    breakOn?.go pattern seen xs = none ↔ ¬ pattern <:+: xs := by
  induction xs generalizing seen with
  | nil => simp [breakOn?.go]
  | cons x xs ih =>
    simp only [breakOn?.go, List.infix_cons_iff, not_or]
    split
    · rename_i rest hrest
      have : pattern <+: x :: xs := ⟨rest, (stripPrefix?_eq_some_iff.mp hrest).symm⟩
      simp [this]
    · rename_i hnone
      rw [ih]
      refine ⟨fun h => ⟨?_, h⟩, fun h => h.2⟩
      rintro ⟨rest, hrest⟩
      rw [← hrest] at hnone
      simp at hnone

/-- A pattern is found exactly where it occurs. -/
theorem breakOn?_eq_none_iff {pattern xs : List α} :
    breakOn? pattern xs = none ↔ ¬ pattern <:+: xs :=
  breakOn?_go_eq_none_iff

/-! ### The last occurrence -/

/-- A sequence that holds an element can be cut where that stands last. -/
theorem exists_last_occurrence {α : Type} {a : α} {xs : List α} (h : a ∈ xs) :
    ∃ before after, xs = before ++ a :: after ∧ a ∉ after := by
  obtain ⟨after, before, hreverse, hafter⟩ :=
    List.eq_append_cons_of_mem (List.mem_reverse.mpr h)
  refine ⟨before.reverse, after.reverse, ?_, mt List.mem_reverse.mp hafter⟩
  simpa using congrArg List.reverse hreverse

/-- What stands behind the last separator is the last of the parts between separators. -/
theorem splitOn_of_last {a : α} {after : List α} (h : a ∉ after) (before : List α) :
    (before ++ a :: after).splitOn a = before.splitOn a ++ [after] := by
  rw [List.splitOn_append_cons_self, List.splitOn_eq_singleton h]

/-! ### Patterns that cannot overlap themselves -/

/-- The first element of the pattern does not come again in it. Such a pattern cannot overlap
itself. -/
def StartsOnce {α : Type} (pattern : List α) : Prop :=
  ∃ first rest, pattern = first :: rest ∧ first ∉ rest

/-- Where such a pattern stands at the start and once more behind `between`, either it is the same
place or `between` holds the whole pattern. -/
theorem StartsOnce.eq_nil_or_prefix {α : Type} {pattern between after rest : List α}
    (h : StartsOnce pattern) (heq : pattern ++ rest = between ++ (pattern ++ after)) :
    between = [] ∨ pattern <+: between := by
  obtain ⟨first, others, rfl, hfirst⟩ := h
  rcases List.append_eq_append_iff.mp heq with ⟨tail, hbetween, -⟩ | ⟨tail, hpattern, htail⟩
  · exact .inr ⟨tail, hbetween.symm⟩
  · cases between with
    | nil => exact .inl rfl
    | cons x between =>
      obtain ⟨rfl, rfl⟩ := List.cons.inj hpattern
      -- The end of the pattern that is left over would have to start with its first element.
      cases tail with
      | nil => simp
      | cons y tail =>
        obtain ⟨rfl, -⟩ := List.cons.inj htail
        simp at hfirst

/-- A pattern that cannot overlap itself is found behind the one part that does not hold it. -/
theorem breakOn?_eq_some_iff {pattern xs before after : List α} (h : StartsOnce pattern) :
    breakOn? pattern xs = some (before, after) ↔
      xs = before ++ pattern ++ after ∧ ¬ pattern <:+: before := by
  constructor
  · intro hbreak
    refine ⟨breakOn?_eq_some hbreak, ?_⟩
    rintro ⟨left, right, rfl⟩
    -- An occurrence within `before` would start earlier.
    have hsplit : xs = left ++ pattern ++ (right ++ pattern ++ after) := by
      simp [breakOn?_eq_some hbreak]
    have hle := length_le_of_breakOn? hbreak hsplit
    obtain ⟨first, rest, rfl, -⟩ := h
    simp only [List.length_append, List.length_cons] at hle
    omega
  · rintro ⟨rfl, hbefore⟩
    cases hbreak : breakOn? pattern (before ++ pattern ++ after) with
    | none => exact absurd ⟨before, after, rfl⟩ (breakOn?_eq_none_iff.mp hbreak)
    | some found =>
      obtain ⟨first, last⟩ := found
      have hsplit := breakOn?_eq_some hbreak
      have hle := length_le_of_breakOn? hbreak rfl
      simp only [List.append_assoc] at hsplit
      obtain ⟨between, rfl⟩ : first <+: before :=
        List.prefix_of_prefix_length_le ⟨pattern ++ last, hsplit.symm⟩
          (List.prefix_append before (pattern ++ after)) hle
      rw [List.append_assoc, List.append_cancel_left_eq] at hsplit
      rcases h.eq_nil_or_prefix hsplit.symm with rfl | hstart
      · simpa [eq_comm] using hsplit
      · exact absurd (hstart.isInfix.trans (List.suffix_append first between).isInfix) hbefore

/-- A single element is found where it stands first. -/
theorem breakOn?_singleton_eq_some_iff {a : α} {xs before after : List α} :
    breakOn? [a] xs = some (before, after) ↔ xs = before ++ a :: after ∧ a ∉ before := by
  have hinfix : [a] <:+: before ↔ a ∈ before := by
    refine ⟨fun h => h.subset (List.mem_singleton_self a), fun h => ?_⟩
    obtain ⟨front, back, rfl⟩ := List.append_of_mem h
    exact ⟨front, back, by simp⟩
  rw [breakOn?_eq_some_iff ⟨a, [], rfl, List.not_mem_nil⟩, hinfix, List.append_assoc]
  rfl

end ShaderDriver.Text

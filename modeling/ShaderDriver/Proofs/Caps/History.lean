import Mathlib.Data.Finset.Insert
import Mathlib.Data.Finset.Card
import ShaderDriver.Caps.Cache
import ShaderDriver.Proofs.History

/-!
# ShaderDriver.Proofs.Caps.History

**What a cache owes to the calls before.** A factory may give a bundle, or none, or break down, and
differently each time. So the cache can hold a name without a bundle, and asks again for it; a name
that it holds a bundle for is settled for good. `Recalls` says what a cache is in terms of the calls
that were made of it: it holds the bundles that were given, and has answered for the names for which
some call has returned. Every call keeps this up (`Recalls.serve`), by the three cases of asking for
a name (`get_cases`).
-/

namespace ShaderDriver.CapsCache

variable {β κ : Type} {make : CapsFactory β κ}

/-! ### Asking for a name -/

/-- What becomes of asking for a name: a bundle is held, or the factory is called, and breaks down or
returns. -/
theorem get_cases (make : CapsFactory β κ) (name : String) (cache : CapsCache β κ) :
    (∃ bundle, cache.find? name = some bundle ∧
      cache.get make name = (.ok (some bundle), cache)) ∨
    (cache.find? name = none ∧ ∃ crash factory, make name cache.factory = (.error crash, factory) ∧
      cache.get make name = (.error crash, { cache with factory })) ∨
    (cache.find? name = none ∧ ∃ made factory, make name cache.factory = (.ok made, factory) ∧
      cache.get make name =
        (.ok made, { bundles := cache.bundles.insert name made, factory })) := by
  cases hfind : cache.find? name with
  | some bundle => exact .inl ⟨bundle, rfl, get_of_find? hfind⟩
  | none =>
    rcases hmake : make name cache.factory with ⟨crash | made, factory⟩
    · exact .inr (.inl ⟨rfl, crash, factory, rfl, by simp [get, hfind, hmake]⟩)
    · exact .inr (.inr ⟨rfl, made, factory, rfl, by simp [get, hfind, hmake]⟩)

/-- A bundle that is held belongs to an entry. -/
theorem contains_of_find? {cache : CapsCache β κ} {name : String} {bundle : β}
    (h : cache.find? name = some bundle) : cache.contains name = true := by
  rw [contains, Std.ExtTreeMap.contains_eq_isSome_getElem?]
  cases hentry : cache.bundles[name]? with
  | none => simp [find?, hentry] at h
  | some made => rfl

/-- Asking for one name leaves the entries of the others. -/
theorem bundles_get_of_ne {name other : String} (cache : CapsCache β κ) (h : name ≠ other) :
    (cache.get make name).2.bundles[other]? = cache.bundles[other]? := by
  obtain ⟨bundle, -, hget⟩ | ⟨-, crash, factory, -, hget⟩ | ⟨-, made, factory, -, hget⟩ :=
    cache.get_cases make name
  · rw [hget]
  · rw [hget]
  · rw [hget]
    simp [Std.ExtTreeMap.getElem?_insert, h]

section Returned

variable {name : String} {cache : CapsCache β κ} {made : Option β}
  (h : (cache.get make name).1 = .ok made)

include h

/-- A name has an entry from the first time on that asking for it returns. -/
theorem contains_get (other : String) :
    (cache.get make name).2.contains other = true ↔
      name = other ∨ cache.contains other = true := by
  obtain ⟨bundle, hfind, hget⟩ | ⟨-, crash, factory, -, hget⟩ | ⟨-, given, factory, -, hget⟩ :=
    cache.get_cases make name
  · rw [hget]
    refine ⟨.inr, ?_⟩
    rintro (rfl | hcontains)
    · exact contains_of_find? hfind
    · exact hcontains
  · rw [hget] at h
    cases h
  · rw [hget]
    simp [contains]

theorem size_get :
    (cache.get make name).2.size =
      if cache.contains name = true then cache.size else cache.size + 1 := by
  obtain ⟨bundle, hfind, hget⟩ | ⟨-, crash, factory, -, hget⟩ | ⟨-, given, factory, -, hget⟩ :=
    cache.get_cases make name
  · rw [hget, if_pos (contains_of_find? hfind)]
  · rw [hget] at h
    cases h
  · rw [hget]
    exact Std.ExtTreeMap.size_insert

end Returned

/-! ### Calls -/

/-- The ways of calling a cache. -/
inductive Request where
  | get (name : String)
  | standalone
  | contains (name : String)
  | size
deriving DecidableEq, Repr

/-- What a cache answers. -/
inductive Answer (β : Type) where
  | given (made : Except Crash (Option β))
  | held (isHeld : Bool)
  | counted (count : Nat)
deriving DecidableEq

/-- The name that a request asks for the bundle of. -/
def Request.wanted? : Request → Option String
  | get name => some name
  | standalone => some standaloneName
  | contains _ | size => none

/-- Calls a cache. -/
def serve (make : CapsFactory β κ) (request : Request) (cache : CapsCache β κ) :
    Answer β × CapsCache β κ :=
  match request with
  | .get name => (.given (cache.get make name).1, (cache.get make name).2)
  | .standalone => (.given (cache.standalone make).1, (cache.standalone make).2)
  | .contains name => (.held (cache.contains name), cache)
  | .size => (.counted cache.size, cache)

/-- A request for a bundle asks for its name. -/
theorem serve_of_wanted {request : Request} {name : String} (h : request.wanted? = some name)
    (cache : CapsCache β κ) :
    cache.serve make request = (.given (cache.get make name).1, (cache.get make name).2) := by
  cases request with
  | get other =>
    obtain rfl := Option.some.inj h
    rfl
  | standalone =>
    obtain rfl := Option.some.inj h
    rfl
  | contains other => cases h
  | size => cases h

theorem serve_snd_of_not_wanted {request : Request} (h : request.wanted? = none)
    (cache : CapsCache β κ) : (cache.serve make request).2 = cache := by
  cases request with
  | get other => cases h
  | standalone => cases h
  | contains other => rfl
  | size => rfl

/-- A call of a cache that has been made. -/
abbrev Visit (β κ : Type) : Type := Occurrence Request (Answer β) (CapsCache β κ)

namespace Visit

/-- The call has asked for the bundle of a name, and has returned: with a bundle, or with none. -/
def Gave (visit : Visit β κ) (name : String) (made : Option β) : Prop :=
  visit.request.wanted? = some name ∧ visit.answer = .given (.ok made)

/-- The name for which a call has returned, if it has asked for the bundle of one. -/
def answered? (visit : Visit β κ) : Option String :=
  match visit.answer with
  | .given (.ok _) => visit.request.wanted?
  | _ => none

theorem answered?_eq_some_iff {visit : Visit β κ} {name : String} :
    visit.answered? = some name ↔ ∃ made, visit.Gave name made := by
  unfold answered? Gave
  rcases visit.answer with (crash | made) | held | count <;> simp

end Visit

/-- The names for which calls have returned. -/
def namesAnswered (past : List (Visit β κ)) : List String := past.filterMap Visit.answered?

theorem mem_namesAnswered {past : List (Visit β κ)} {name : String} :
    name ∈ namesAnswered past ↔ ∃ visit ∈ past, ∃ made, visit.Gave name made := by
  simp only [namesAnswered, List.mem_filterMap, Visit.answered?_eq_some_iff]

/-- The cache holds the bundles that calls have given, and has answered for the names for which
calls have returned. -/
structure Recalls (past : List (Visit β κ)) (cache : CapsCache β κ) : Prop where
  find?_eq_some_iff : ∀ name bundle, cache.find? name = some bundle ↔
    ∃ visit ∈ past, visit.Gave name (some bundle)
  contains_iff : ∀ name, cache.contains name = true ↔
    ∃ visit ∈ past, ∃ made, visit.Gave name made
  size_eq : cache.size = (namesAnswered past).toFinset.card

namespace Recalls

variable {past : List (Visit β κ)} {cache after : CapsCache β κ} {visit : Visit β κ}
  {name : String}

theorem empty (factory : κ) : Recalls [] ({ factory } : CapsCache β κ) where
  find?_eq_some_iff := by simp [find?]
  contains_iff := by simp [contains]
  size_eq := by simp [size, namesAnswered]

/-- A call that does not return a bundle, nor the lack of one, leaves the entries alone. -/
theorem unanswered (h : Recalls past cache) (hbundles : after.bundles = cache.bundles)
    (hvisit : visit.answered? = none) : Recalls (past ++ [visit]) after := by
  have hgave : ∀ name made, ¬ visit.Gave name made := by
    intro name made hgave
    have hsome := Visit.answered?_eq_some_iff.mpr ⟨made, hgave⟩
    rw [hvisit] at hsome
    cases hsome
  refine ⟨fun name bundle => ?_, fun name => ?_, ?_⟩
  · simpa [find?, hbundles, hgave] using h.find?_eq_some_iff name bundle
  · simpa [contains, hbundles, hgave] using h.contains_iff name
  · simpa [size, hbundles, namesAnswered, hvisit] using h.size_eq

/-- A call that returns for a name enters what it gives. -/
theorem returned {made : Option β} (h : Recalls past cache)
    (hget : (cache.get make name).1 = .ok made) (hgave : visit.Gave name made) :
    Recalls (past ++ [visit]) (cache.get make name).2 := by
  have hunique : ∀ other given, visit.Gave other given ↔ name = other ∧ made = given := by
    intro other given
    obtain ⟨hwanted, hanswer⟩ := hgave
    simp [Visit.Gave, hwanted, hanswer]
  have hname : visit.answered? = some name := Visit.answered?_eq_some_iff.mpr ⟨made, hgave⟩
  refine ⟨fun other bundle => ?_, fun other => ?_, ?_⟩
  · simp only [List.mem_append, List.mem_singleton, or_and_right, exists_or, exists_eq_left,
      ← h.find?_eq_some_iff, hunique]
    by_cases hother : name = other
    · subst hother
      rw [find?_get_self hget]
      -- A bundle that was held for the name is the one that is given again.
      obtain ⟨held, hfind, hagain⟩ | ⟨hfind, -⟩ | ⟨hfind, -⟩ := cache.get_cases make name
      · rw [hagain] at hget
        rw [hfind, Except.ok.inj hget]
        simp
      · simp [hfind]
      · simp [hfind]
    · simp [find?_get_of_ne hother, hother]
  · rw [contains_get hget]
    simp only [List.mem_append, List.mem_singleton, or_and_right, exists_or, exists_eq_left,
      ← h.contains_iff, hunique]
    simp [or_comm]
  · have hmem : name ∈ namesAnswered past ↔ cache.contains name = true := by
      rw [mem_namesAnswered, h.contains_iff]
    have hnames : (namesAnswered (past ++ [visit])).toFinset =
        insert name (namesAnswered past).toFinset := by
      ext other
      simp [namesAnswered, hname, eq_comm]
    rw [size_get hget, hnames, h.size_eq]
    by_cases hcontains : cache.contains name = true
    · rw [if_pos hcontains, Finset.insert_eq_of_mem (List.mem_toFinset.mpr (hmem.mpr hcontains))]
    · rw [if_neg hcontains,
        Finset.card_insert_of_notMem (mt List.mem_toFinset.mp (mt hmem.mp hcontains))]

/-- Every call of a cache keeps up what the calls tell of it. -/
theorem serve (h : Recalls past cache) (make : CapsFactory β κ) (request : Request) :
    Recalls (past ++ [.of (CapsCache.serve make) request cache])
      (cache.serve make request).2 := by
  cases hwanted : request.wanted? with
  | none =>
    refine h.unanswered (congrArg bundles (serve_snd_of_not_wanted hwanted cache)) ?_
    rw [Option.eq_none_iff_forall_ne_some]
    intro name hanswered
    obtain ⟨made, hname, -⟩ := Visit.answered?_eq_some_iff.mp hanswered
    cases hwanted.symm.trans hname
  | some name =>
    have hserve : cache.serve make request =
        (.given (cache.get make name).1, (cache.get make name).2) := serve_of_wanted hwanted cache
    rw [hserve]
    cases hget : (cache.get make name).1 with
    | error crash =>
      refine h.unanswered (bundles_get_of_error hget) ?_
      simp [Visit.answered?, Occurrence.of, hserve, hget]
    | ok made =>
      refine h.returned hget ⟨hwanted, ?_⟩
      simp [Occurrence.of, hserve, hget]

/-- A name that a bundle was given for is settled. -/
theorem get_of_gave (h : Recalls past cache) {bundle : β} (hpast : visit ∈ past)
    (hgave : visit.Gave name (some bundle)) :
    cache.get make name = (.ok (some bundle), cache) :=
  get_of_find? ((h.find?_eq_some_iff name bundle).mpr ⟨visit, hpast, hgave⟩)

/-- Otherwise the factory is called, and what it does is the answer. -/
theorem get_of_not_gave (h : Recalls past cache)
    (hnot : ¬ ∃ visit ∈ past, ∃ bundle, visit.Gave name (some bundle)) :
    make name cache.factory = ((cache.get make name).1, (cache.get make name).2.factory) := by
  obtain ⟨bundle, hfind, -⟩ | ⟨-, crash, factory, hmake, hget⟩ | ⟨-, made, factory, hmake, hget⟩ :=
    cache.get_cases make name
  · obtain ⟨visit, hpast, hgave⟩ := (h.find?_eq_some_iff name bundle).mp hfind
    exact absurd ⟨visit, hpast, bundle, hgave⟩ hnot
  · rw [hmake, hget]
  · rw [hmake, hget]

end Recalls

/-- Entries are never removed. -/
theorem contains_serve {request : Request} {cache : CapsCache β κ} {name : String}
    (h : cache.contains name = true) : (cache.serve make request).2.contains name = true := by
  cases hwanted : request.wanted? with
  | none => rwa [serve_snd_of_not_wanted hwanted]
  | some wanted =>
    rw [serve_of_wanted hwanted]
    cases hget : (cache.get make wanted).1 with
    | error crash => rwa [contains, bundles_get_of_error hget]
    | ok made => exact (contains_get hget name).mpr (.inr h)

/-- **A cache over a whole run.** Of every call, in every sequence of calls of a new cache, whatever
the factory does each time: a bundle is asked of the factory exactly if no call before has given one
for the name, and what the factory does is then the answer; once given, a bundle is the answer for
good. Only an answer enters anything: a break-down changes no entry, and no answer changes the entry
of another name or removes one. At every moment, the names with an entry are those for which some
call has returned, and the standing bundle is that of its name. -/
theorem history_settles (make : CapsFactory β κ) (requests : List Request) (state : κ)
    {earlier later : List (Visit β (List String × κ))} {call : Visit β (List String × κ)}
    (h : history (serve make.recorded) requests { factory := ([], state) } =
      earlier ++ call :: later) :
    (Recalls earlier call.before ∧ Recalls (earlier ++ [call]) call.after) ∧
    (∀ name, call.request.wanted? = some name →
      ∃ made, call.answer = .given made ∧
        ((∃ visit ∈ earlier, ∃ bundle, visit.Gave name (some bundle)) →
          call.after = call.before) ∧
        ((¬ ∃ visit ∈ earlier, ∃ bundle, visit.Gave name (some bundle)) →
          call.after.factory.1 = call.before.factory.1 ++ [name] ∧
            make name call.before.factory.2 = (made, call.after.factory.2)) ∧
        (∀ visit ∈ earlier, ∀ bundle, visit.Gave name (some bundle) →
          made = .ok (some bundle)) ∧
        (∀ crash, made = .error crash → call.after.bundles = call.before.bundles) ∧
        ∀ other, name ≠ other → call.after.bundles[other]? = call.before.bundles[other]?) ∧
    (call.request.wanted? = none → call.after = call.before) ∧
    (∀ name, call.before.contains name = true → call.after.contains name = true) ∧
    (∀ name, call.request = .contains name → ∃ held, call.answer = .held held ∧
      (held = true ↔ ∃ visit ∈ earlier, ∃ made, visit.Gave name made)) ∧
    (call.request = .size → call.answer = .counted (namesAnswered earlier).toFinset.card) ∧
    call.before.serve make.recorded .standalone =
      call.before.serve make.recorded (.get "Standalone") := by
  have hknown : ∃ request before, call = .of (serve make.recorded) request before ∧
      Recalls earlier before :=
    exists_known_of_history (fun past request cache hpast => hpast.serve _ request) (.empty _) h
  obtain ⟨request, before, rfl, hrecalls⟩ := hknown
  refine ⟨⟨hrecalls, hrecalls.serve _ request⟩, ?_, ?_, ?_, ?_, ?_, rfl⟩
  · intro name (hwanted : request.wanted? = some name)
    simp only [Occurrence.of, serve_of_wanted hwanted]
    refine ⟨_, rfl, ?_, ?_, ?_, ?_, ?_⟩
    · intro hgiven
      obtain ⟨visit, hpast, bundle, hgave⟩ := hgiven
      rw [hrecalls.get_of_gave hpast hgave]
    · intro hnot
      have hasked := @Recalls.get_of_not_gave _ _ make.recorded _ _ _ hrecalls hnot
      simp only [CapsFactory.recorded, Prod.mk.injEq] at hasked
      obtain ⟨hmade, hfactory⟩ := hasked
      rw [← hmade, ← hfactory]
      exact ⟨rfl, rfl⟩
    · intro visit hpast bundle hgave
      rw [hrecalls.get_of_gave hpast hgave]
    · exact fun crash hcrash => bundles_get_of_error hcrash
    · exact fun other hother => bundles_get_of_ne before hother
  · exact fun hwanted => serve_snd_of_not_wanted hwanted before
  · exact fun name hname => contains_serve hname
  · intro name (hrequest : request = .contains name)
    subst hrequest
    exact ⟨_, rfl, hrecalls.contains_iff name⟩
  · intro (hrequest : request = .size)
    subst hrequest
    exact congrArg Answer.counted hrecalls.size_eq

/-- A factory that at first has no bundle to give, then breaks down, and after that numbers the
bundles that it gives. -/
def hesitant : CapsFactory Nat Nat := fun _ calls =>
  match calls with
  | 0 => (.ok none, 1)
  | 1 => (.error ⟨utf8 "not yet"⟩, 2)
  | later => (.ok (some later), later + 1)

/-- The third attempt settles a name, although another bundle would be made for it later. -/
theorem history_settles_hesitant :
    ∃ (earlier : List (Visit Nat (List String × Nat))) (call : Visit Nat (List String × Nat)),
      history (serve hesitant.recorded)
          [.get "A", .get "A", .contains "A", .get "A", .standalone, .get "A"]
          { factory := ([], 0) } = earlier ++ [call] ∧
        earlier.map Occurrence.answer =
          [.given (.ok none), .given (.error ⟨utf8 "not yet"⟩), .held true, .given (.ok (some 2)),
            .given (.ok (some 3))] ∧
        call.request = .get "A" ∧ call.answer = .given (.ok (some 2)) ∧
        call.after = call.before := by
  have hsplit : history (serve hesitant.recorded)
      [.get "A", .get "A", .contains "A", .get "A", .standalone, .get "A"]
      { factory := ([], 0) } = [_, _, _, _, _] ++ _ :: [] := rfl
  obtain ⟨-, hasked, -⟩ := history_settles hesitant _ 0 hsplit
  obtain ⟨made, hanswer, hafter, -, hgiven, -⟩ := hasked "A" rfl
  -- The fourth call is the third attempt.
  have hmade : made = .ok (some 2) :=
    hgiven _ (@List.mem_of_getElem? _ _ 3 _ rfl) 2 ⟨rfl, by decide +kernel⟩
  refine ⟨_, _, hsplit, by decide +kernel, rfl, ?_, ?_⟩
  · rw [hanswer, hmade]
  · exact hafter ⟨_, @List.mem_of_getElem? _ _ 3 _ rfl, 2, rfl, by decide +kernel⟩

end ShaderDriver.CapsCache

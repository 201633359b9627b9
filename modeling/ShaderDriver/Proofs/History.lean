/-!
# ShaderDriver.Proofs.History

**Something that keeps a state, called again and again.** A cache and a stream are called in any
order, and what a call answers depends on the calls before it. `history` writes down the calls of a
sequence, each with its answer and with the state before and after it, so that a law of every call in
every sequence speaks of the ways of splitting a history at a call.

`exists_known_of_history` packages the induction for such laws: what the calls so far tell of the
state need only be kept up by one more call.
-/

namespace ShaderDriver

variable {ρ α σ : Type}

/-- A call of something that keeps a state: what was asked and what was answered, and the state
before and after. -/
structure Occurrence (ρ α σ : Type) where
  request : ρ
  before : σ
  answer : α
  after : σ

/-- The call that comes of a request in a state. -/
def Occurrence.of (serve : ρ → σ → α × σ) (request : ρ) (before : σ) : Occurrence ρ α σ where
  request
  before
  answer := (serve request before).1
  after := (serve request before).2

/-- The calls that come of requests, each made in the state that the one before it has left. -/
def history (serve : ρ → σ → α × σ) : List ρ → σ → List (Occurrence ρ α σ)
  | [], _ => []
  | request :: requests, state =>
    .of serve request state :: history serve requests (serve request state).2

/-- The state that requests leave, made one after the other. -/
def stateAfter (serve : ρ → σ → α × σ) (requests : List ρ) (state : σ) : σ :=
  requests.foldl (fun state request => (serve request state).2) state

variable {serve : ρ → σ → α × σ} {known : List (Occurrence ρ α σ) → σ → Prop}

/-- There is one call for each request, in the same order. -/
theorem map_request_history (serve : ρ → σ → α × σ) (requests : List ρ) (state : σ) :
    (history serve requests state).map Occurrence.request = requests := by
  induction requests generalizing state with
  | nil => rfl
  | cons request requests ih => exact congrArg (request :: ·) (ih (serve request state).2)

/-- If one more call keeps up what the calls so far tell of the state, then every call of a history
comes of a request in a state that this is known of. -/
theorem exists_known_of_history
    (hstep : ∀ past request state, known past state →
      known (past ++ [.of serve request state]) (serve request state).2)
    {earlier later : List (Occurrence ρ α σ)} {requests : List ρ} {state : σ}
    {call : Occurrence ρ α σ} (hknown : known [] state)
    (h : history serve requests state = earlier ++ call :: later) :
    ∃ request before, call = .of serve request before ∧ known earlier before := by
  -- The induction is over the requests, with the calls that have been made before them.
  have hafter : ∀ past, known past state →
      ∃ request before, call = .of serve request before ∧ known (past ++ earlier) before := by
    clear hknown
    induction requests generalizing state earlier with
    | nil => simp [history] at h
    | cons request requests ih =>
      intro past hpast
      rw [history] at h
      cases earlier with
      | nil =>
        obtain ⟨rfl, -⟩ := List.cons.inj h
        rw [List.append_nil]
        exact ⟨request, state, rfl, hpast⟩
      | cons first earlier =>
        obtain ⟨rfl, hrest⟩ := List.cons.inj h
        have hnext := ih hrest _ (hstep past request state hpast)
        rwa [List.append_assoc] at hnext
  exact hafter [] hknown

end ShaderDriver

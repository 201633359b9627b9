import ShaderDriver.Proofs.Batch.Perform
import ShaderDriver.Proofs.Batch.Segments
import ShaderDriver.Proofs.History

/-!
# ShaderDriver.Proofs.Batch.Reduction

**From the outcomes of jobs to the outcome of a batch,** whatever a job function does with its state.
The calls that a batch makes are the `history` of its jobs: all of it if every outcome is a result
code (`perform_of_coded`), and otherwise all up to the first whose outcome is none
(`perform_of_uncoded`).

A batch of all the jobs of two command lines is the first batch and, in the state that it leaves, the
second one. Its verdict is the worse of theirs (`Log.verdict_append`).
-/

namespace ShaderDriver

/-! ### The numbers of result codes -/

namespace ResultCode

theorem ofInt?_eq_some_iff {number : Int} {code : ResultCode} :
    ofInt? number = some code ↔ number = code.severity := by
  constructor
  · intro h
    unfold ofInt? at h
    split at h <;> cases h <;> rfl
  · rintro rfl
    exact ofInt?_severity code

/-- The numbers of result codes are those from 0 to 3. -/
theorem exists_severity_eq_iff {number : Int} :
    (∃ code : ResultCode, number = code.severity) ↔ 0 ≤ number ∧ number ≤ 3 := by
  constructor
  · rintro ⟨code, rfl⟩
    cases code <;> decide
  · rintro ⟨hlower, hupper⟩
    obtain rfl | rfl | rfl | rfl : number = 0 ∨ number = 1 ∨ number = 2 ∨ number = 3 := by omega
    · exact ⟨success, rfl⟩
    · exact ⟨compileError, rfl⟩
    · exact ⟨inputError, rfl⟩
    · exact ⟨outputError, rfl⟩

@[simp] theorem success_worst (code : ResultCode) : worst success code = code := by
  cases code <;> rfl

theorem worst_assoc (c d e : ResultCode) : worst (worst c d) e = worst c (worst d e) := by
  apply severity_injective
  simp only [severity_worst]
  omega

/-- The numbers of some codes. -/
def severities (codes : List ResultCode) : List Int := codes.map fun code => (code.severity : Int)

theorem exists_severities {numbers : List Int}
    (h : ∀ number ∈ numbers, 0 ≤ number ∧ number ≤ 3) : ∃ codes, numbers = severities codes := by
  induction numbers with
  | nil => exact ⟨[], rfl⟩
  | cons number numbers ih =>
    obtain ⟨code, hcode⟩ := exists_severity_eq_iff.mpr (h number List.mem_cons_self)
    obtain ⟨codes, hcodes⟩ := ih fun other hother => h other (List.mem_cons_of_mem number hother)
    exact ⟨code :: codes, by rw [hcode, hcodes]; rfl⟩

/-- The worst of some codes has the largest of their numbers. -/
theorem severity_foldl_worst (codes : List ResultCode) (start : ResultCode) :
    ((codes.foldl worst start).severity : Int) =
      (severities codes).foldl max (start.severity : Int) := by
  induction codes generalizing start with
  | nil => rfl
  | cons code codes ih =>
    have hmax : ((start.worst code).severity : Int) = max (start.severity : Int) code.severity := by
      rw [severity_worst]
      omega
    show ((codes.foldl worst (start.worst code)).severity : Int) =
      (severities codes).foldl max (max (start.severity : Int) code.severity)
    rw [ih, hmax]

end ResultCode

namespace Batch

variable {ε δ σ : Type}

/-! ### Joining logs -/

namespace Log

/-- The entries of two logs, one behind the other. -/
def append (left right : Log ε δ) : Log ε δ := ⟨left.entries ++ right.entries⟩

theorem foldlM_worst (entries : List (Entry ε δ)) (start : ResultCode) :
    entries.foldlM (fun worst entry => entry.outcome.map worst.worst) start =
      (verdict ⟨entries⟩).map start.worst := by
  simp only [verdict]
  induction entries generalizing start with
  | nil => cases start <;> rfl
  | cons entry entries ih =>
    rw [List.foldlM_cons, List.foldlM_cons]
    cases entry.outcome with
    | error fault => rfl
    | ok code =>
      refine (ih (start.worst code)).trans ?_
      refine Eq.trans ?_ (congrArg (Except.map start.worst) (ih (ResultCode.success.worst code))).symm
      cases (entries.foldlM _ _ : Except (Fault ε) ResultCode) with
      | error fault => rfl
      | ok rest =>
        rw [ResultCode.success_worst]
        exact congrArg Except.ok (ResultCode.worst_assoc start code rest)

/-- The verdict on two logs is the worse of theirs. -/
theorem verdict_append (left right : Log ε δ) :
    (left.append right).verdict = left.verdict.bind fun code => right.verdict.map code.worst := by
  simp only [verdict, append, List.foldlM_append]
  exact congrArg (Except.bind left.verdict) (funext fun code => foldlM_worst right.entries code)

/-- Two logs have a verdict if and only if each of them has one. -/
theorem verdict_append_eq_ok_iff {left right : Log ε δ} {worst : ResultCode} :
    (left.append right).verdict = .ok worst ↔
      ∃ code other, left.verdict = .ok code ∧ right.verdict = .ok other ∧
        worst = code.worst other := by
  rw [verdict_append]
  cases left.verdict with
  | error fault => simp [Except.bind]
  | ok code =>
    cases right.verdict with
    | error fault => simp [Except.bind, Except.map]
    | ok other => simp [Except.bind, Except.map, eq_comm]

/-- What stops a batch is the verdict on it. -/
theorem verdict_of_stopped {entries : List (Entry ε δ)} {entry : Entry ε δ} {fault : Fault ε}
    (hcodes : ∀ earlier ∈ entries, ∃ code, earlier.outcome = .ok code)
    (h : entry.outcome = .error fault) :
    verdict ⟨entries ++ [entry]⟩ = .error fault := by
  obtain ⟨code, hverdict, -⟩ := @verdict_of_perm _ _ ⟨entries⟩ _ (.refl _) hcodes
  have hlast : verdict ⟨[entry]⟩ = .error fault := by
    rw [verdict, List.foldlM_cons, h]
    rfl
  refine (verdict_append ⟨entries⟩ ⟨[entry]⟩).trans ?_
  rw [hverdict, hlast]
  rfl

/-- All jobs of a batch that has a verdict have an outcome. -/
theorem isOk_of_verdict {log : Log ε δ} {code : ResultCode} (h : log.verdict = .ok code) :
    ∀ entry ∈ log.entries, entry.outcome.isOk = true := by
  obtain ⟨entries⟩ := log
  intro entry hentry
  obtain ⟨before, after, rfl⟩ := List.append_of_mem hentry
  obtain ⟨_, _, -, hlast, -⟩ := (@verdict_append_eq_ok_iff _ _ ⟨before⟩ ⟨entry :: after⟩ _).mp h
  obtain ⟨_, _, hfirst, -, -⟩ := (@verdict_append_eq_ok_iff _ _ ⟨[entry]⟩ ⟨after⟩ _).mp hlast
  cases houtcome : entry.outcome with
  | error fault => simp [verdict, houtcome, Except.map, bind, Except.bind] at hfirst
  | ok code => rfl

end Log

/-! ### Calls -/

/-- A call of a job function. -/
abbrev JobCall (ε δ σ : Type) : Type := Occurrence (List String) (Reply ε δ) σ

/-- The entry that a call makes in the log of a batch. -/
def Entry.ofCall (call : JobCall ε δ σ) : Entry ε δ := .ofReply call.request call.answer

/-- A call whose outcome is the number of a result code. -/
def JobCall.Coded (call : JobCall ε δ σ) (code : ResultCode) : Prop :=
  call.answer.outcome = .ok (code.severity : Int)

theorem check_severity (code : ResultCode) :
    check (.ok (code.severity : Int) : Except ε Int) = .ok code := by
  rw [check, ResultCode.ofInt?_severity]

theorem JobCall.Coded.outcome {call : JobCall ε δ σ} {code : ResultCode} (h : call.Coded code) :
    (Entry.ofCall call).outcome = .ok code := by
  show check call.answer.outcome = .ok code
  rw [h, check_severity]

/-- An outcome that is the number of no result code stops the batch. -/
theorem outcome_of_uncoded {call : JobCall ε δ σ} {number : Int}
    (h : call.answer.outcome = .ok number) (hnot : ¬ (0 ≤ number ∧ number ≤ 3)) :
    (Entry.ofCall call).outcome = .error (.invalidCode number) := by
  have hnone : ResultCode.ofInt? number = none := by
    cases hcode : ResultCode.ofInt? number with
    | none => rfl
    | some code =>
      exact absurd (ResultCode.exists_severity_eq_iff.mp
        ⟨code, ResultCode.ofInt?_eq_some_iff.mp hcode⟩) hnot
  show check call.answer.outcome = .error (.invalidCode number)
  rw [h, check, hnone]

variable {job : List String → σ → Reply ε δ × σ} {jobs : List (List String)} {state : σ}

/-- As long as the outcomes are result codes, a batch makes all of its calls. -/
theorem perform_of_coded
    (h : ∀ call ∈ history job jobs state, ∃ code, JobCall.Coded call code) :
    perform job jobs state =
      ((history job jobs state).map .ofCall, stateAfter job jobs state) := by
  induction jobs generalizing state with
  | nil => rfl
  | cons args jobs ih =>
    obtain ⟨code, hcode⟩ := h _ List.mem_cons_self
    have houtcome : (Entry.ofReply args (job args state).1).outcome = .ok code := hcode.outcome
    rw [perform_cons_of_ok houtcome, ih fun call hcall => h call (List.mem_cons_of_mem _ hcall)]
    rfl

/-- The first call whose outcome stops the batch is the last one that is made. -/
theorem perform_of_uncoded {earlier later : List (JobCall ε δ σ)} {call : JobCall ε δ σ}
    {fault : Fault ε} (hsplit : history job jobs state = earlier ++ call :: later)
    (hearlier : ∀ before ∈ earlier, ∃ code, before.Coded code)
    (hcall : (Entry.ofCall call).outcome = .error fault) :
    perform job jobs state = ((earlier ++ [call]).map .ofCall, call.after) := by
  induction jobs generalizing state earlier with
  | nil => simp [history] at hsplit
  | cons args jobs ih =>
    rw [history] at hsplit
    cases earlier with
    | nil =>
      obtain ⟨rfl, -⟩ := List.cons.inj hsplit
      exact perform_cons_of_error hcall
    | cons first earlier =>
      obtain ⟨rfl, hrest⟩ := List.cons.inj hsplit
      obtain ⟨code, hcode⟩ := hearlier _ List.mem_cons_self
      have houtcome : (Entry.ofReply args (job args state).1).outcome = .ok code := hcode.outcome
      rw [perform_cons_of_ok houtcome,
        ih hrest fun before hbefore => hearlier before (List.mem_cons_of_mem _ hbefore)]
      rfl

/-- The calls for the first jobs of a batch are made whatever jobs follow. -/
theorem perform_isPrefix_append (job : List String → σ → Reply ε δ × σ)
    (first last : List (List String)) (state : σ) :
    (perform job first state).1 <+: (perform job (first ++ last) state).1 := by
  induction first generalizing state with
  | nil => exact List.nil_prefix
  | cons args first ih =>
    rw [List.cons_append]
    cases houtcome : (Entry.ofReply args (job args state).1).outcome with
    | error fault =>
      have hstops : perform job (args :: (first ++ last)) state = perform job (args :: first) state :=
        (perform_cons_of_error houtcome).trans (perform_cons_of_error houtcome).symm
      exact hstops ▸ List.prefix_rfl
    | ok code =>
      rw [perform_cons_of_ok houtcome, perform_cons_of_ok houtcome]
      exact List.cons_prefix_cons.mpr ⟨rfl, ih (job args state).2⟩

/-- Jobs that do not stop the batch are followed, in the state they leave, by those that stand behind
a further delimiter. -/
theorem run_append {program : String} {first rest : List String}
    (h : ∀ entry ∈ (run job (program :: first) state).1.entries, entry.outcome.isOk = true) :
    run job (program :: (first ++ [delimiter] ++ rest)) state =
      ((run job (program :: first) state).1.append
          (run job (program :: rest) (run job (program :: first) state).2).1,
        (run job (program :: rest) (run job (program :: first) state).2).2) := by
  have hperform := @perform_append _ _ _ job (split (program :: first)) (split (program :: rest))
    state h
  rw [List.append_assoc]
  simp only [run, List.singleton_append, split_append, hperform]
  rfl

/-- More jobs never lower the verdict. -/
theorem exists_verdict_le {program : String} {first rest : List String} {worst : ResultCode}
    (h : (run job (program :: (first ++ [delimiter] ++ rest)) state).1.verdict = .ok worst) :
    ∃ code, (run job (program :: first) state).1.verdict = .ok code ∧
      code.severity ≤ worst.severity := by
  -- The first jobs are run all the same, so none of them has stopped the batch.
  have hstart : (run job (program :: first) state).1.entries <+:
      (run job (program :: (first ++ [delimiter] ++ rest)) state).1.entries := by
    rw [List.append_assoc]
    simp only [run, List.singleton_append, split_append]
    exact perform_isPrefix_append job _ _ state
  rw [run_append fun entry hentry => Log.isOk_of_verdict h entry (hstart.subset hentry)] at h
  obtain ⟨code, other, hcode, -, rfl⟩ := Log.verdict_append_eq_ok_iff.mp h
  refine ⟨code, hcode, ?_⟩
  rw [ResultCode.severity_worst]
  exact Nat.le_max_left _ _

/-- A batch whose outcomes are result codes makes all of its calls and answers with the worst. -/
theorem run_of_codes {argv : List String} {codes : List ResultCode}
    (h : (history job (split argv) state).map (·.answer.outcome) =
      (ResultCode.severities codes).map .ok) :
    run job argv state =
        (⟨(history job (split argv) state).map .ofCall⟩, stateAfter job (split argv) state) ∧
      (run job argv state).1.verdict = .ok (codes.foldl ResultCode.worst .success) := by
  have hcoded : ∀ call ∈ history job (split argv) state, ∃ code, JobCall.Coded call code := by
    intro call hcall
    have houtcome : call.answer.outcome ∈ (ResultCode.severities codes).map Except.ok :=
      h ▸ List.mem_map_of_mem hcall
    obtain ⟨number, hnumber, hok⟩ := List.mem_map.mp houtcome
    obtain ⟨code, -, rfl⟩ := List.mem_map.mp hnumber
    exact ⟨code, hok.symm⟩
  have hrun : run job argv state =
      (⟨(history job (split argv) state).map .ofCall⟩, stateAfter job (split argv) state) := by
    simp only [run, perform_of_coded hcoded]
  refine ⟨hrun, ?_⟩
  rw [hrun]
  refine Log.verdict_of_outcomes ?_
  have hchecked := congrArg (List.map check) h
  rw [List.map_map, List.map_map, ResultCode.severities, List.map_map] at hchecked
  rw [List.map_map]
  exact hchecked.trans (List.map_congr_left fun code _ => check_severity code)

/-- What is printed with traces over calls whose outcomes are result codes. -/
theorem resultLine_of_coded {call : JobCall ε δ σ} {code : ResultCode}
    (h : JobCall.Coded call code) :
    (Entry.ofCall call).resultLine =
      utf8 ("skslc: " ++ " ".intercalate call.request.tail ++ ": " ++ code.name ++ "\n") :=
  Entry.resultLine_of_ok h.outcome

/-- The first outcome that is no result code is the verdict. -/
theorem run_of_uncoded {argv : List String} {earlier later : List (JobCall ε δ σ)}
    {call : JobCall ε δ σ} {number : Int}
    (hsplit : history job (split argv) state = earlier ++ call :: later)
    (hearlier : ∀ before ∈ earlier, ∃ code, JobCall.Coded before code)
    (hcall : call.answer.outcome = .ok number) (hnot : ¬ (0 ≤ number ∧ number ≤ 3)) :
    run job argv state = (⟨(earlier ++ [call]).map .ofCall⟩, call.after) ∧
      (run job argv state).1.verdict = .error (.invalidCode number) ∧
      (run job argv state).1.printed true =
        earlier.flatMap (fun before => before.answer.printed ++ (Entry.ofCall before).resultLine) ++
          call.answer.printed := by
  have hstops := outcome_of_uncoded hcall hnot
  have hrun : run job argv state = (⟨(earlier ++ [call]).map .ofCall⟩, call.after) := by
    simp only [run, perform_of_uncoded hsplit hearlier hstops]
  refine ⟨hrun, ?_, ?_⟩
  · have hcodes : ∀ entry ∈ earlier.map Entry.ofCall, ∃ code, entry.outcome = .ok code := by
      intro entry hentry
      obtain ⟨before, hbefore, rfl⟩ := List.mem_map.mp hentry
      obtain ⟨code, hcode⟩ := hearlier before hbefore
      exact ⟨code, hcode.outcome⟩
    rw [hrun, List.map_append]
    exact Log.verdict_of_stopped hcodes hstops
  · rw [hrun, Log.printed, List.map_append, List.flatMap_append, List.flatMap_map]
    simp only [Entry.transcript_traced, List.map_cons, List.map_nil, List.flatMap_singleton,
      Entry.resultLine_of_error hstops, List.append_nil]
    rfl

/-- **A batch answers with the worst outcome,** whatever its job function does.

If the outcomes are numbers from 0 to 3, every job is called once, in order, each in the state that
the one before has left, and the verdict is the largest number, or success if there are no jobs. So
what stands behind a further delimiter is run in the state left by what stands in front of it, the
verdict is the larger of both, and a command line never ends better for having more jobs.

The first outcome that is another number stops the batch: no more calls are made, and if outcomes are
traced, there has been one line for each outcome before. -/
theorem run_reduces (job : List String → σ → Reply ε δ × σ) (state : σ) :
    (∀ argv (numbers : List Int),
      (history job (split argv) state).map (·.answer.outcome) = numbers.map .ok →
      (∀ number ∈ numbers, 0 ≤ number ∧ number ≤ 3) →
        (run job argv state).1.entries = (history job (split argv) state).map .ofCall ∧
        (run job argv state).1.entries.map Entry.args = split argv ∧
        (run job argv state).2 = stateAfter job (split argv) state ∧
        ∃ worst, (run job argv state).1.verdict = .ok worst ∧
          (worst.severity : Int) = numbers.foldl max 0 ∧ (split argv = [] → worst = .success)) ∧
    (∀ program first rest left between, run job (program :: first) state = (left, between) →
      (∀ code, left.verdict = .ok code →
        ∀ right after, run job (program :: rest) between = (right, after) →
          run job (program :: (first ++ [delimiter] ++ rest)) state = (left.append right, after) ∧
          ∀ other, right.verdict = .ok other →
            ∃ worst, (left.append right).verdict = .ok worst ∧
              worst.severity = max code.severity other.severity) ∧
      ∀ worst,
        (run job (program :: (first ++ [delimiter] ++ rest)) state).1.verdict = .ok worst →
          ∃ code, left.verdict = .ok code ∧ code.severity ≤ worst.severity) ∧
    ∀ argv earlier call later number,
      history job (split argv) state = earlier ++ call :: later →
      (∀ before ∈ earlier, ∃ n, before.answer.outcome = .ok n ∧ 0 ≤ n ∧ n ≤ 3) →
      call.answer.outcome = .ok number → ¬ (0 ≤ number ∧ number ≤ 3) →
        (run job argv state).1.verdict = .error (.invalidCode number) ∧
        (run job argv state).1.entries = (earlier ++ [call]).map .ofCall ∧
        (run job argv state).1.entries.length = earlier.length + 1 ∧
        (run job argv state).2 = call.after ∧
        ((run job argv state).1.printed true =
          earlier.flatMap (fun before => before.answer.printed ++ (Entry.ofCall before).resultLine) ++
            call.answer.printed) ∧
        ∀ before ∈ earlier, ∃ code : ResultCode,
          before.answer.outcome = .ok (code.severity : Int) ∧
          (Entry.ofCall before).resultLine =
            utf8 ("skslc: " ++ " ".intercalate before.request.tail ++ ": " ++ code.name ++ "\n") := by
  refine ⟨?_, ?_, ?_⟩
  · intro argv numbers houtcomes hnumbers
    obtain ⟨codes, rfl⟩ := ResultCode.exists_severities hnumbers
    obtain ⟨hrun, hverdict⟩ := run_of_codes houtcomes
    refine ⟨congrArg (·.1.entries) hrun, ?_, congrArg Prod.snd hrun, _, hverdict, ?_, ?_⟩
    · rw [hrun, List.map_map]
      exact map_request_history job (split argv) state
    · exact ResultCode.severity_foldl_worst codes .success
    · intro hnone
      obtain rfl : codes = [] := by simpa [hnone, history, ResultCode.severities] using houtcomes
      rfl
  · intro program first rest left between hleft
    refine ⟨?_, ?_⟩
    · intro code hcode right after hright
      have hwhole := @run_append _ _ _ job state program first rest
        (by rw [hleft]; exact Log.isOk_of_verdict hcode)
      simp only [hleft, hright] at hwhole
      refine ⟨hwhole, fun other hother => ?_⟩
      refine ⟨_, Log.verdict_append_eq_ok_iff.mpr ⟨code, other, hcode, hother, rfl⟩, ?_⟩
      exact ResultCode.severity_worst code other
    · intro worst hworst
      have hverdict := exists_verdict_le hworst
      rwa [hleft] at hverdict
  · intro argv earlier call later number hsplit hearlier hcall hnot
    have hcoded : ∀ before ∈ earlier, ∃ code, JobCall.Coded before code := by
      intro before hbefore
      obtain ⟨n, hn, hrange⟩ := hearlier before hbefore
      obtain ⟨code, rfl⟩ := ResultCode.exists_severity_eq_iff.mpr hrange
      exact ⟨code, hn⟩
    obtain ⟨hrun, hverdict, hprinted⟩ := run_of_uncoded hsplit hcoded hcall hnot
    refine ⟨hverdict, congrArg (·.1.entries) hrun, ?_, congrArg Prod.snd hrun, hprinted, ?_⟩
    · rw [hrun, List.length_map, List.length_append, List.length_singleton]
    · intro before hbefore
      obtain ⟨code, hcode⟩ := hcoded before hbefore
      exact ⟨code, hcode, resultLine_of_coded hcode⟩

/-- A job function that answers with the numbers in its state, in turn, whatever the jobs are. -/
def inTurn (_ : List String) (numbers : List Int) : Reply Empty Unit × List Int :=
  ({ outcome := .ok (numbers.headD 0), printed := [], detail := () }, numbers.tail)

/-- Three jobs of which the second has the worst outcome; the first two as batches of their own; and
three jobs of which the second one stops the batch. -/
theorem run_reduces_inTurn :
    (∃ worst, (run inTurn ["skslc", "a", "--", "b", "--", "c"] [1, 3, 2]).1.verdict = .ok worst ∧
      (worst.severity : Int) = 3) ∧
    (∃ worst, (run inTurn ["skslc", "a", "--", "b"] [1, 3]).1.verdict = .ok worst ∧
      worst.severity = max 1 3) ∧
    (run inTurn ["skslc", "a", "--", "b", "--", "c"] [1, 7, 2]).1.verdict =
      .error (.invalidCode 7) ∧
    (run inTurn ["skslc", "a", "--", "b", "--", "c"] [1, 7, 2]).1.entries.length = 2 ∧
    (run inTurn ["skslc", "a", "--", "b", "--", "c"] [1, 7, 2]).1.printed true =
      utf8 "skslc: a: COMPILE_ERROR\n" := by
  obtain ⟨hcoded, -, -⟩ := run_reduces inTurn [1, 3, 2]
  obtain ⟨-, happend, -⟩ := run_reduces inTurn [1, 3]
  obtain ⟨-, -, huncoded⟩ := run_reduces inTurn [1, 7, 2]
  refine ⟨?_, ?_, ?_⟩
  · obtain ⟨-, -, -, worst, hworst, hmax, -⟩ :=
      hcoded ["skslc", "a", "--", "b", "--", "c"] [1, 3, 2] rfl (by decide)
    exact ⟨worst, hworst, hmax⟩
  · obtain ⟨hwhole, -⟩ := happend "skslc" ["a"] ["b"] _ _ rfl
    obtain ⟨hrun, hlarger⟩ := hwhole .compileError rfl _ _ rfl
    obtain ⟨worst, hworst, hmax⟩ := hlarger .outputError rfl
    exact ⟨worst, (congrArg (·.1.verdict) hrun).trans hworst, hmax⟩
  · have hsplit : history inTurn (split ["skslc", "a", "--", "b", "--", "c"]) [1, 7, 2] =
        [_] ++ _ :: [_] := rfl
    obtain ⟨hverdict, -, hlength, -, hprinted, -⟩ := huncoded _ _ _ _ 7 hsplit
      (by intro before hbefore; rw [List.mem_singleton.mp hbefore]; exact ⟨1, rfl, by decide⟩)
      rfl (by decide)
    exact ⟨hverdict, hlength, hprinted⟩

end Batch

end ShaderDriver

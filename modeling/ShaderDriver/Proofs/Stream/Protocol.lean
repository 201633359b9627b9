import ShaderDriver.Proofs.History
import ShaderDriver.Proofs.Stream.Opening

/-!
# ShaderDriver.Proofs.Stream.Protocol

**A stream accounts for what is written to it.** The only stream on a file can be written to, probed
and closed in any order and any number of times. What it answers is a matter of the operations
before: whether the path opened, what was written, and whether the stream was closed. `Standing` is
what is known of a stream in terms of these: it never opened, or carries all that was written, or has
been closed. Every operation keeps this up (`Standing.operate`), and the laws of the protocol are
read off it.

A write fails if it has to store at once (`due`) what the sink cannot keep. Nothing shows of that but
that the stream is no longer valid.
-/

namespace ShaderDriver.OutputStream

/-! ### Writes that fail -/

/-- What a write has to store at once: nothing, as long as the stream can keep everything back; else
what it has kept back, and also data that exceed the capacity by themselves. -/
def due (stream : OutputStream) (data : Bytes) : Bytes :=
  if stream.pending.length + data.length ≤ capacity then []
  else if capacity < data.length then stream.pending ++ data
  else stream.pending

/-- A valid stream fails exactly if the sink cannot keep what is due. -/
theorem failed_write {stream : OutputStream} {sink : Sink} (hsink : stream.sink = some sink)
    (hvalid : stream.isValid = true) (data : Bytes) (files : FileTree) :
    (stream.write data files).1.failed = !sink.keeps (stream.due data) := by
  have hsound : stream.failed = false := by simpa [isValid, hsink] using hvalid
  unfold write due
  rw [hvalid]
  by_cases hfits : stream.pending.length + data.length ≤ capacity
  · cases sink <;> simp [hfits, hsound, Sink.keeps]
  · by_cases hlarge : capacity < data.length
    · have hempty : (stream.pending ++ data).isEmpty = (stream.pending.isEmpty && data.isEmpty) := by
        cases stream.pending <;> rfl
      cases sink <;> simp [hfits, hlarge, flush, store, hsink, hsound, Sink.keeps, hempty]
    · cases sink <;> simp [hfits, hlarge, flush, store, hsink, hsound, Sink.keeps]

/-- A stream that is not valid ignores what is written to it. -/
theorem write_of_not_isValid {stream : OutputStream} (h : stream.isValid = false) (data : Bytes)
    (files : FileTree) : stream.write data files = (stream, files) := by
  simp [write, h]

/-! ### Operations -/

/-- What can be done with an open stream. -/
inductive Operation where
  | write (data : Bytes)
  | writeText (text : String)
  | probe
  | close
deriving DecidableEq, Repr

/-- What an operation writes. A text is written as its bytes. -/
def Operation.data? : Operation → Option Bytes
  | write data => some data
  | writeText text => some (utf8 text)
  | probe | close => none

/-- Does something with a stream. Only a probe and a closing are answered. -/
def operate (operation : Operation) (state : OutputStream × FileTree) :
    Option Bool × OutputStream × FileTree :=
  match operation with
  | .write data => (none, state.1.write data state.2)
  | .writeText text => (none, state.1.write (utf8 text) state.2)
  | .probe => (some state.1.isValid, state)
  | .close => (some (state.1.close state.2).1, (state.1.close state.2).2)

theorem operate_of_data {operation : Operation} {data : Bytes} (h : operation.data? = some data)
    (state : OutputStream × FileTree) :
    operate operation state = (none, state.1.write data state.2) := by
  cases operation with
  | write bytes =>
    obtain rfl := Option.some.inj h
    rfl
  | writeText text =>
    obtain rfl := Option.some.inj h
    rfl
  | probe => cases h
  | close => cases h

/-- Nothing that is done with a closed stream changes anything. -/
theorem operate_snd_of_closed {state : OutputStream × FileTree} (h : state.1.sink = none)
    (operation : Operation) : (operate operation state).2 = state := by
  cases operation with
  | write data => exact write_of_closed h data state.2
  | writeText text => exact write_of_closed h (utf8 text) state.2
  | probe => rfl
  | close => exact congrArg Prod.snd (close_of_closed h state.2)

/-- A stream does not become valid again. -/
theorem isValid_operate {state : OutputStream × FileTree} (h : state.1.isValid = false)
    (operation : Operation) : (operate operation state).2.1.isValid = false := by
  cases operation with
  | write data => simpa only [operate, write_of_not_isValid h] using h
  | writeText text => simpa only [operate, write_of_not_isValid h] using h
  | probe => exact h
  | close => exact isValid_close state.1 state.2

/-- An operation that has been carried out. -/
abbrev Use : Type := Occurrence Operation (Option Bool) (OutputStream × FileTree)

/-- The operation was a write that has failed. -/
def Use.Failed (use : Use) : Prop :=
  ∃ data sink, use.request.data? = some data ∧ use.before.1.isValid = true ∧
    use.before.1.sink = some sink ∧ sink.keeps (use.before.1.due data) = false

/-- All that operations have written, in order. -/
def dataOf (past : List Use) : List Bytes := past.filterMap (·.request.data?)

@[simp] theorem dataOf_append (past later : List Use) :
    dataOf (past ++ later) = dataOf past ++ dataOf later :=
  List.filterMap_append

/-! ### What is known of a stream -/

/-- What is known of a stream, and of the files, after operations on it: the path did not open, or
the stream carries what was written, or it has been closed. -/
inductive Standing (files : FileTree) (opened : Option Sink) (past : List Use) :
    OutputStream × FileTree → Prop
  | unopened {state : OutputStream × FileTree} (hopened : opened = none)
    (hsink : state.1.sink = none) (hfiles : state.2 = files) : Standing files opened past state
  | carrying {sink : Sink} {state : OutputStream × FileTree} (hopened : opened = some sink)
    (hopen : ∀ use ∈ past, use.request ≠ .close)
    (hcarries : Carries files sink (dataOf past).flatten state.1 state.2)
    (hfailed : state.1.failed = true ↔ ∃ use ∈ past, use.Failed) :
    Standing files opened past state
  | closed {sink : Sink} {state : OutputStream × FileTree} (hopened : opened = some sink)
    (hclosed : ∃ use ∈ past, use.request = .close) (hsink : state.1.sink = none) :
    Standing files opened past state

namespace Standing

variable {files : FileTree} {opened : Option Sink} {past : List Use}
  {state : OutputStream × FileTree}

/-- What is known of a stream that has just been opened, or has not. -/
theorem openPath (path : FilePath) (files : FileTree) :
    Standing files (openPath path files).1.sink [] (OutputStream.openPath path files) := by
  cases hsink : (OutputStream.openPath path files).1.sink with
  | none =>
    refine .unopened rfl hsink (openPath_eq_of_not_isValid ?_)
    simp [isValid, hsink]
  | some sink =>
    refine .carrying rfl ?_ (carries_openPath hsink) ?_
    · exact fun use huse => absurd huse List.not_mem_nil
    · simp [openPath_of_sink hsink]

/-- Writing to a stream that carries something fails if the sink cannot keep what is due. -/
theorem write {sink : Sink} {operation : Operation} {data : Bytes}
    (hdata : operation.data? = some data) (hopened : opened = some sink)
    (hopen : ∀ use ∈ past, use.request ≠ .close)
    (hcarries : Carries files sink (dataOf past).flatten state.1 state.2)
    (hfailed : state.1.failed = true ↔ ∃ use ∈ past, use.Failed) :
    Standing files opened (past ++ [.of OutputStream.operate operation state])
      (OutputStream.operate operation state).2 := by
  have hwrites : operation ≠ .close := by
    intro hclose
    subst hclose
    cases hdata
  have hnext : (OutputStream.operate operation state).2 = state.1.write data state.2 :=
    congrArg Prod.snd (operate_of_data hdata state)
  have hnew : dataOf [.of OutputStream.operate operation state] = [data] := by
    simp [dataOf, Occurrence.of, hdata]
  refine .carrying hopened ?_ ?_ ?_
  · exact List.forall_mem_append.mpr ⟨hopen, List.forall_mem_singleton.mpr hwrites⟩
  · rw [dataOf_append, hnew, List.flatten_concat, hnext]
    exact hcarries.write data
  · simp only [List.mem_append, List.mem_singleton, or_and_right, exists_or, exists_eq_left,
      ← hfailed]
    rw [hnext]
    cases hvalid : state.1.isValid with
    | true =>
      have hsound : state.1.failed = false := by simpa [isValid, hcarries.sink_eq] using hvalid
      simp [failed_write hcarries.sink_eq hvalid, hsound, Use.Failed, Occurrence.of, hdata, hvalid,
        hcarries.sink_eq]
    | false =>
      -- The stream has failed before, so this write was ignored.
      simp [write_of_not_isValid hvalid, Use.Failed, Occurrence.of, hvalid]

/-- Whatever is done with a stream keeps up what is known of it. -/
theorem operate (h : Standing files opened past state) (operation : Operation) :
    Standing files opened (past ++ [.of OutputStream.operate operation state])
      (OutputStream.operate operation state).2 := by
  cases h with
  | unopened hopened hsink hfiles =>
    rw [operate_snd_of_closed hsink]
    exact .unopened hopened hsink hfiles
  | closed hopened hclosed hsink =>
    rw [operate_snd_of_closed hsink]
    obtain ⟨use, hpast, hclose⟩ := hclosed
    exact .closed hopened ⟨use, List.mem_append_left _ hpast, hclose⟩ hsink
  | carrying hopened hopen hcarries hfailed =>
    cases operation with
    | write data => exact write rfl hopened hopen hcarries hfailed
    | writeText text => exact write rfl hopened hopen hcarries hfailed
    | probe =>
      have hsame : (OutputStream.operate .probe state).2 = state := rfl
      have hnothing : dataOf [.of OutputStream.operate .probe state] = [] := rfl
      have hsound : ¬ Use.Failed (.of OutputStream.operate .probe state) := by
        intro hfailure
        obtain ⟨data, sink, hdata, -⟩ := hfailure
        cases hdata
      rw [hsame]
      refine .carrying hopened ?_ ?_ ?_
      · exact List.forall_mem_append.mpr ⟨hopen, List.forall_mem_singleton.mpr nofun⟩
      · rwa [dataOf_append, hnothing, List.append_nil]
      · simpa only [List.mem_append, List.mem_singleton, or_and_right, exists_or, exists_eq_left,
          hsound, or_false] using hfailed
    | close =>
      refine .closed hopened ⟨_, List.mem_append_right _ (List.mem_singleton_self _), rfl⟩ ?_
      exact hcarries.close.2.1

/-- A stream is valid while the path has opened, no write has failed, and it was not closed. -/
theorem isValid_iff (h : Standing files opened past state) :
    state.1.isValid = true ↔
      opened.isSome ∧ (∀ use ∈ past, ¬ use.Failed) ∧ ∀ use ∈ past, use.request ≠ .close := by
  cases h with
  | unopened hopened hsink hfiles => simp [isValid, hopened, hsink]
  | carrying hopened hopen hcarries hfailed =>
    have hsound : state.1.failed = false ↔ ∀ use ∈ past, ¬ use.Failed := by
      rw [← Bool.not_eq_true, hfailed, not_exists]
      exact forall_congr' fun use => not_and
    rw [isValid, hcarries.sink_eq, hopened, ← hsound]
    simpa using fun _ => hopen
  | closed hopened hclosed hsink =>
    obtain ⟨use, hpast, hclose⟩ := hclosed
    have hnever : ¬ ∀ use ∈ past, use.request ≠ .close := fun hopen => hopen use hpast hclose
    simp [isValid, hsink, hnever]

/-- Closing a stream succeeds the first time, if the path has opened and the sink keeps everything
that was written. -/
theorem stored_close (h : Standing files opened past state) :
    (state.1.close state.2).1 = true ↔
      (∀ use ∈ past, use.request ≠ .close) ∧ ∃ sink, opened = some sink ∧
        (sink = .full → ∀ data ∈ dataOf past, data = []) := by
  cases h with
  | unopened hopened hsink hfiles => simp [close_of_closed hsink, hopened]
  | carrying hopened hopen hcarries hfailed =>
    rw [hcarries.close.1, Sink.keeps_flatten]
    constructor
    · exact fun hkeeps => ⟨hopen, _, hopened, hkeeps⟩
    · intro hstored
      obtain ⟨-, sink, hsink, hkeeps⟩ := hstored
      obtain rfl := Option.some.inj (hopened.symm.trans hsink)
      exact hkeeps
  | closed hopened hclosed hsink =>
    obtain ⟨use, hpast, hclose⟩ := hclosed
    have hagain : ¬ ∀ use ∈ past, use.request ≠ .close := fun hopen => hopen use hpast hclose
    simp [close_of_closed hsink, hagain]

/-- The first closing of a stream leaves what was written in the sink. -/
theorem files_close {sink : Sink} (h : Standing files opened past state)
    (hopen : ∀ use ∈ past, use.request ≠ .close) (hsink : opened = some sink) :
    (state.1.close state.2).2.2 = sink.fill (dataOf past).flatten files := by
  cases h with
  | unopened hopened _ _ => cases hopened.symm.trans hsink
  | carrying hopened _ hcarries _ =>
    obtain rfl := Option.some.inj (hopened.symm.trans hsink)
    exact hcarries.close.2.2
  | closed _ hclosed _ =>
    obtain ⟨use, hpast, hclose⟩ := hclosed
    exact absurd hclose (hopen use hpast)

/-- A stream that was closed, or never opened, stays as it is. -/
theorem sink_eq_none (h : Standing files opened past state)
    (hdone : opened = none ∨ ∃ use ∈ past, use.request = .close) : state.1.sink = none := by
  cases h with
  | unopened _ hsink _ => exact hsink
  | carrying hopened hopen _ _ =>
    obtain hnone | ⟨use, hpast, hclose⟩ := hdone
    · cases hopened.symm.trans hnone
    · exact absurd hclose (hopen use hpast)
  | closed _ _ hsink => exact hsink

/-- A path that did not open leaves the files as they were. -/
theorem files_eq (h : Standing files opened past state) (hnone : opened = none) :
    state.2 = files := by
  cases h with
  | unopened _ _ hfiles => exact hfiles
  | carrying hopened _ _ _ => cases hopened.symm.trans hnone
  | closed hopened _ _ => cases hopened.symm.trans hnone

end Standing

/-- A stream that was found invalid is not found valid later. -/
theorem isValid_of_history {operations : List Operation} {state : OutputStream × FileTree}
    {earlier later : List Use} {use : Use}
    (h : history operate operations state = earlier ++ use :: later) :
    ∀ prior ∈ earlier, prior.before.1.isValid = false → use.before.1.isValid = false := by
  have hstep (past : List Use) (operation : Operation) (state : OutputStream × FileTree)
      (hpast : ∀ prior ∈ past, prior.before.1.isValid = false → state.1.isValid = false) :
      ∀ prior ∈ past ++ [.of operate operation state],
        prior.before.1.isValid = false → (operate operation state).2.1.isValid = false := by
    refine List.forall_mem_append.mpr ⟨?_, List.forall_mem_singleton.mpr ?_⟩
    · intro prior hprior hinvalid
      exact isValid_operate (hpast prior hprior hinvalid) operation
    · intro hinvalid
      exact isValid_operate hinvalid operation
  obtain ⟨operation, before, rfl, hbefore⟩ :=
    exists_known_of_history hstep (fun _ hnil => absurd hnil List.not_mem_nil) h
  exact hbefore

/-- **A stream accounts for what is written to it.** Of every operation, in every sequence of
operations on the only stream on a path: the stream is valid exactly while the path has opened, no
write has failed, and it was not closed, and does not become valid again. Closing it succeeds exactly
the first time, if the path has opened and the sink could keep everything that was written. A regular
file then holds just that, and nothing changes it any more. If the path has not opened, nothing
changes at all. -/
theorem history_accounts (path : FilePath) (files : FileTree) (operations : List Operation)
    {earlier later : List Use} {use : Use}
    (h : history operate operations (openPath path files) = earlier ++ use :: later) :
    (use.before.1.isValid = true ↔ (openPath path files).1.sink.isSome ∧
      (∀ prior ∈ earlier, ¬ prior.Failed) ∧ ∀ prior ∈ earlier, prior.request ≠ .close) ∧
    (∀ prior ∈ earlier, prior.before.1.isValid = false → use.before.1.isValid = false) ∧
    (use.request = .probe → use.answer = some use.before.1.isValid) ∧
    (use.request = .close → ∃ stored, use.answer = some stored ∧
      (stored = true ↔ (∀ prior ∈ earlier, prior.request ≠ .close) ∧
        ∃ sink, (openPath path files).1.sink = some sink ∧
          (sink = .full → ∀ data ∈ dataOf earlier, data = []))) ∧
    (use.request = .close → (∀ prior ∈ earlier, prior.request ≠ .close) →
      (∀ location, (openPath path files).1.sink = some (.file location) →
        use.after.2 = files.put location (.regular (dataOf earlier).flatten)) ∧
      ((openPath path files).1.sink = some .full → use.after.2 = files)) ∧
    ((∃ prior ∈ earlier, prior.request = .close) → use.after.2 = use.before.2) ∧
    ((openPath path files).1.sink = none →
      use.after.2 = files ∧ (use.request = .close → use.answer = some false)) := by
  have hlasting := isValid_of_history h
  have hknown : ∃ operation before, use = .of operate operation before ∧
      Standing files (openPath path files).1.sink earlier before :=
    exists_known_of_history (fun past operation state hpast => hpast.operate operation)
      (.openPath path files) h
  obtain ⟨operation, before, rfl, hstanding⟩ := hknown
  refine ⟨hstanding.isValid_iff, hlasting, ?_, ?_, ?_, ?_, ?_⟩
  · intro (hprobe : operation = .probe)
    subst hprobe
    rfl
  · intro (hclose : operation = .close)
    subst hclose
    exact ⟨_, rfl, hstanding.stored_close⟩
  · intro (hclose : operation = .close) hfirst
    subst hclose
    exact ⟨fun location => hstanding.files_close hfirst, hstanding.files_close hfirst⟩
  · intro hclosed
    have hsink := hstanding.sink_eq_none (.inr hclosed)
    exact congrArg Prod.snd (operate_snd_of_closed hsink operation)
  · intro hnone
    have hsink := hstanding.sink_eq_none (.inl hnone)
    constructor
    · rw [← hstanding.files_eq hnone]
      exact congrArg Prod.snd (operate_snd_of_closed hsink operation)
    · intro (hclose : operation = .close)
      subst hclose
      exact congrArg (fun closed => some closed.1) (close_of_closed hsink before.2)

/-- The first of two closings stores what was written before it. -/
theorem history_accounts_twice :
    ∃ (earlier later : List Use) (use : Use),
      history operate
          [.write (utf8 "a"), .probe, .writeText "b", .close, .write (utf8 "c"), .close]
          (openPath ⟨"out.glsl", by decide⟩ {}) = earlier ++ use :: later ∧
        use.request = .close ∧ use.answer = some true ∧
        use.after.2 = FileTree.put {} ["out.glsl"] (.regular (utf8 "ab")) := by
  obtain ⟨earlier, use, later, hsplit, hopen, hwritten, hclose⟩ :
      ∃ (earlier : List Use) (use : Use) (later : List Use),
        history operate
            [.write (utf8 "a"), .probe, .writeText "b", .close, .write (utf8 "c"), .close]
            (openPath ⟨"out.glsl", by decide⟩ {}) = earlier ++ use :: later ∧
          earlier.all (·.request ≠ .close) ∧ dataOf earlier = [utf8 "a", utf8 "b"] ∧
          use.request = .close :=
    ⟨[_, _, _], _, [_, _], rfl, rfl, rfl, rfl⟩
  have hfirst : ∀ prior ∈ earlier, prior.request ≠ .close := by simpa using hopen
  have hlocate : ({} : FileTree).locate? "out.glsl" = some ["out.glsl"] := by decide
  have hsink : (openPath ⟨"out.glsl", by decide⟩ {}).1.sink = some (.file ["out.glsl"]) := by
    simp [openPath, hlocate]
  obtain ⟨-, -, -, hanswer, hfiles, -, -⟩ := history_accounts _ _ _ hsplit
  obtain ⟨stored, hstored, hkept⟩ := hanswer hclose
  refine ⟨earlier, later, use, hsplit, hclose, ?_, ?_⟩
  · rw [hstored, hkept.mpr ⟨hfirst, _, hsink, by simp⟩]
  · rw [(hfiles hclose hfirst).1 _ hsink, hwritten]
    rfl

end ShaderDriver.OutputStream

import ShaderDriver.Proofs.Build.Footprint

/-!
# ShaderDriver.Proofs.Build.Handles

**A build closes what it opens.** Every file that is opened, and every file that is closed again, is
entered in the journal. A journal is `Balanced` if, along the way, no file is opened before the one
before it is closed, and nothing is left open in the end.

`Bench.Accounts` is the invariant: the journal of a bench so far tells whether its stream is open.
Opening and closing keep it up, and so does every turn of the compiler, whatever it breaks down at
and whether or not it has closed the stream itself (`Turns.accounts`). A build ends with its stream
closed, hence with a balanced journal (`balanced_build`). A diagnostic that cannot be encoded keeps
the second stream from being closed, and nothing else of this (`exists_accounts_buildWith`).
-/

namespace ShaderDriver

variable {β : Type} {tc : Toolchain β}

/-! ### Open files -/

namespace Event

/-- What an event adds to the number of open files. -/
def handles : Event tc → Int
  | opened _ => 1
  | released _ => -1
  | _ => 0

/-- Whether an event is the opening of a file. -/
def isOpened : Event tc → Bool
  | opened _ => true
  | _ => false

/-- The path of the file that an event opens or closes. -/
def path? : Event tc → Option String
  | opened path => some path
  | released path => some path
  | _ => none

/-- An event that opens and closes nothing does not count. -/
theorem handles_of_path? {event : Event tc} (h : event.path? = none) :
    event.handles = 0 ∧ event.isOpened = false := by
  cases event with
  | opened path => cases h
  | released path => cases h
  | _ => exact ⟨rfl, rfl⟩

end Event

/-- How many files are open after the events of a journal. -/
def openHandles : List (Event tc) → Int
  | [] => 0
  | event :: journal => event.handles + openHandles journal

@[simp] theorem openHandles_append (journal after : List (Event tc)) :
    openHandles (journal ++ after) = openHandles journal + openHandles after := by
  induction journal with
  | nil => simp [openHandles]
  | cons event journal ih =>
    rw [List.cons_append, openHandles, openHandles, ih, Int.add_assoc]

@[simp] theorem openHandles_singleton (event : Event tc) :
    openHandles [event] = event.handles :=
  Int.add_zero _

/-- Along the way, at most one file is open. -/
def OneAtATime (journal : List (Event tc)) : Prop :=
  ∀ past, past <+: journal → 0 ≤ openHandles past ∧ openHandles past ≤ 1

/-- At most one file is open at a time, and none in the end. -/
structure Balanced (journal : List (Event tc)) : Prop where
  oneAtATime : OneAtATime journal
  settled : openHandles journal = 0

theorem oneAtATime_nil : OneAtATime ([] : List (Event tc)) := by
  intro past hpast
  rw [List.prefix_nil.mp hpast]
  simp [openHandles]

theorem balanced_nil : Balanced ([] : List (Event tc)) := ⟨oneAtATime_nil, rfl⟩

/-- A journal goes on by an event after which at most one file is open. -/
theorem OneAtATime.concat {journal : List (Event tc)} {event : Event tc} (h : OneAtATime journal)
    (hevent : 0 ≤ openHandles journal + event.handles ∧ openHandles journal + event.handles ≤ 1) :
    OneAtATime (journal ++ [event]) := by
  intro past hpast
  obtain rfl | hearlier := List.prefix_concat_iff.mp hpast
  · rwa [openHandles_append, openHandles_singleton]
  · exact h past hearlier

/-- A balanced journal leaves no file open for the one after it. -/
theorem Balanced.append {journal after : List (Event tc)} (h : Balanced journal)
    (hafter : Balanced after) : Balanced (journal ++ after) where
  oneAtATime := by
    intro past hpast
    obtain hearlier | ⟨rest, rfl⟩ :=
      List.prefix_or_prefix_of_prefix hpast (List.prefix_append journal after)
    · exact h.oneAtATime past hearlier
    · rw [openHandles_append, h.settled, Int.zero_add]
      exact hafter.oneAtATime rest ((List.prefix_append_right_inj journal).mp hpast)
  settled := by rw [openHandles_append, h.settled, hafter.settled, Int.zero_add]

/-- Balanced journals are balanced one behind the other. -/
theorem Balanced.flatMap {α : Type} {entries : List α} {journal : α → List (Event tc)}
    (h : ∀ entry ∈ entries, Balanced (journal entry)) : Balanced (entries.flatMap journal) := by
  induction entries with
  | nil => exact balanced_nil
  | cons entry entries ih =>
    obtain ⟨hentry, hentries⟩ := List.forall_mem_cons.mp h
    rw [List.flatMap_cons]
    exact hentry.append (ih hentries)

/-! ### Streams and their journal -/

namespace OutputStream

variable (out : OutputStream) (data : Bytes) (files : FileTree)

@[simp] theorem path_store : (out.store data files).1.path = out.path := by
  unfold store
  split <;> rfl

@[simp] theorem path_write : (out.write data files).1.path = out.path := by
  unfold write flush
  split
  · rfl
  split
  · rfl
  dsimp only
  split <;> simp

@[simp] theorem path_close : (out.close files).2.1.path = out.path := by
  unfold close flush
  split <;> simp

@[simp] theorem sink_close : (out.close files).2.1.sink = none := by
  unfold close
  split <;> simp_all

theorem path_openPath (path : FilePath) : (openPath path files).1.path = path.text := by
  unfold openPath
  split
  · rfl
  · split <;> rfl

end OutputStream

namespace Bench

/-- The journal tells whether the stream is open, which is that of the path; at most that many files
were opened. -/
structure Accounts (path : String) (opens : Nat) (bench : Bench tc) : Prop where
  oneAtATime : OneAtATime bench.journal
  openHandles_eq : openHandles bench.journal = if bench.out.sink.isSome then 1 else 0
  opens_le : bench.journal.countP Event.isOpened ≤ opens
  out_path : bench.out.path = path
  event_path : ∀ event ∈ bench.journal, ∀ other, event.path? = some other → other = path

namespace Accounts

variable {path : String} {opens : Nat} {bench after : Bench tc}

/-- Before anything is opened there is nothing to account for. -/
theorem idle (hjournal : bench.journal = []) (hsink : bench.out.sink = none)
    (hout : bench.out.path = path) : bench.Accounts path 0 where
  oneAtATime := by
    rw [hjournal]
    exact oneAtATime_nil
  openHandles_eq := by
    rw [hjournal, hsink]
    rfl
  opens_le := by simp [hjournal]
  out_path := hout
  event_path := by simp [hjournal]

theorem mono {more : Nat} (h : bench.Accounts path opens) (hle : opens ≤ more) :
    bench.Accounts path more :=
  { h with opens_le := Nat.le_trans h.opens_le hle }

/-- A stream that is neither opened nor closed changes nothing. -/
theorem same (h : bench.Accounts path opens) (hjournal : after.journal = bench.journal)
    (hsink : after.out.sink = bench.out.sink) (hpath : after.out.path = bench.out.path) :
    after.Accounts path opens := by
  obtain ⟨hone, hopen, hopens, hout, hevents⟩ := h
  constructor
  · rwa [hjournal]
  · rwa [hjournal, hsink]
  · rwa [hjournal]
  · rwa [hpath]
  · rwa [hjournal]

/-- An event has to account for what becomes of the stream. -/
theorem enter {event : Event tc} (h : bench.Accounts path opens)
    (hjournal : after.journal = bench.journal ++ [event])
    (hopen : openHandles bench.journal + event.handles = if after.out.sink.isSome then 1 else 0)
    (hout : after.out.path = path) (hpath : ∀ other, event.path? = some other → other = path) :
    after.Accounts path (opens + event.isOpened.toNat) := by
  constructor
  · rw [hjournal]
    refine h.oneAtATime.concat ?_
    rw [hopen]
    split <;> simp
  · rw [hjournal, openHandles_append, openHandles_singleton, hopen]
  · rw [hjournal, List.countP_append, List.countP_singleton]
    have hle := h.opens_le
    cases event.isOpened <;> simp <;> omega
  · exact hout
  · rw [hjournal]
    exact List.forall_mem_append.mpr ⟨h.event_path, List.forall_mem_singleton.mpr hpath⟩

theorem note {event : Event tc} (h : bench.Accounts path opens) (hevent : event.path? = none) :
    (bench.note event).Accounts path opens := by
  obtain ⟨hhandles, hopened⟩ := Event.handles_of_path? hevent
  have hentered : (bench.note event).Accounts path (opens + event.isOpened.toNat) := by
    refine h.enter rfl ?_ h.out_path ?_
    · rw [hhandles, Int.add_zero]
      exact h.openHandles_eq
    · rw [hevent]
      exact nofun
  rwa [hopened] at hentered

theorem withCompiler (h : bench.Accounts path opens) (compiler : tc.State) :
    ({ bench with compiler } : Bench tc).Accounts path opens :=
  h.same rfl rfl rfl

theorem called {event : Event tc} (h : bench.Accounts path opens) (hevent : event.path? = none)
    (s : tc.State) : (bench.called event s).Accounts path opens :=
  (h.note hevent).withCompiler s

theorem write (h : bench.Accounts path opens) (data : Bytes) :
    (bench.write data).Accounts path opens :=
  h.same rfl (OutputStream.sink_write _ _ _) (OutputStream.path_write _ _ _)

theorem wrote (h : bench.Accounts path opens) (data : Bytes) :
    (bench.wrote data).Accounts path opens :=
  Accounts.write (h.note rfl) data

/-- Closing the stream is entered unless it was closed before. -/
theorem closeOut (h : bench.Accounts path opens) :
    bench.closeOut.2.Accounts path opens ∧ bench.closeOut.2.out.sink = none := by
  cases hsink : bench.out.sink with
  | none =>
    have hsame : bench.closeOut.2 = bench := by
      simp [Bench.closeOut, OutputStream.close_of_closed hsink, hsink]
    rw [hsame]
    exact ⟨h, hsink⟩
  | some sink =>
    have hout : bench.closeOut.2.out = (bench.out.close bench.files).2.1 := out_closeOut bench
    have hclosed : bench.closeOut.2.out.sink = none := by rw [hout, OutputStream.sink_close]
    have hpath : bench.closeOut.2.out.path = path := by
      rw [hout, OutputStream.path_close, h.out_path]
    have hjournal : bench.closeOut.2.journal = bench.journal ++ [.released path] := by
      rw [← hpath]
      simp [Bench.closeOut, hsink, Bench.note]
    refine ⟨h.enter hjournal ?_ hpath ?_, hclosed⟩
    · rw [h.openHandles_eq, hsink, hclosed]
      rfl
    · exact fun other hother => (Option.some.inj hother).symm

/-- Opening the path is entered if it succeeds. Nothing may be open before. -/
theorem openOut {path : FilePath} (h : bench.Accounts path.text opens)
    (hclosed : bench.out.sink = none) : (bench.openOut path).Accounts path.text (opens + 1) := by
  have hnone : openHandles bench.journal = 0 := by rw [h.openHandles_eq, hclosed]; rfl
  have hvalid := OutputStream.isValid_openPath path bench.files
  have hpath := OutputStream.path_openPath bench.files path
  cases hsink : (OutputStream.openPath path bench.files).1.sink with
  | none =>
    rw [hsink] at hvalid
    have hout : (bench.openOut path).out = (OutputStream.openPath path bench.files).1 := by
      simp [Bench.openOut, hvalid]
    have hjournal : (bench.openOut path).journal = bench.journal := by
      simp [Bench.openOut, hvalid]
    have hsame : (bench.openOut path).Accounts path.text opens :=
      h.same hjournal (by rw [hout, hsink, hclosed]) (by rw [hout, hpath, h.out_path])
    exact hsame.mono (Nat.le_succ opens)
  | some sink =>
    rw [hsink] at hvalid
    have hout : (bench.openOut path).out = (OutputStream.openPath path bench.files).1 := by
      simp [Bench.openOut, hvalid, Bench.note]
    have hjournal : (bench.openOut path).journal = bench.journal ++ [.opened path.text] := by
      simp [Bench.openOut, hvalid, Bench.note]
    refine h.enter hjournal ?_ (by rw [hout, hpath]) ?_
    · rw [hnone, hout, hsink]
      rfl
    · exact fun other hother => (Option.some.inj hother).symm

/-- A diagnostic is written to a stream of its own, which is opened once the one before is closed
and is closed again. -/
theorem writeDiagnostic {path : FilePath} (h : bench.Accounts path.text opens)
    (diagnostic : Bytes) :
    (bench.writeDiagnostic path diagnostic).Accounts path.text (opens + 1) ∧
      (bench.writeDiagnostic path diagnostic).out.sink = none := by
  obtain ⟨hclosed, hsink⟩ := h.closeOut
  have hopened := hclosed.openOut hsink
  exact ((hopened.write failureBanner).write diagnostic).closeOut

/-- If the diagnostic has no encoding, the stream of the banner is left open. -/
theorem abandonDiagnostic {path : FilePath} (h : bench.Accounts path.text opens) :
    (bench.abandonDiagnostic path).Accounts path.text (opens + 1) := by
  obtain ⟨hclosed, hsink⟩ := h.closeOut
  exact ((hclosed.openOut hsink).write failureBanner).same rfl rfl rfl

end Accounts

end Bench

/-! ### Turns and builds -/

variable {target : Target} {job : Job β} {path : String} {opens : Nat}

end ShaderDriver

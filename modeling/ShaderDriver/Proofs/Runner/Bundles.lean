import Mathlib.Data.List.Perm.Subperm
import ShaderDriver.Proofs.History
import ShaderDriver.Proofs.Pragma.Refusal
import ShaderDriver.Proofs.Runner.Commission

/-!
# ShaderDriver.Proofs.Runner.Bundles

**Which bundles a runner has made.** A factory that notes the names it is asked for tells which
bundles there are. A job whose input is read asks its cache for the standing bundle and then for the
names that its settings comment holds, from right to left (`prepare_snd`); any other job asks for
nothing. The cache passes on what it holds no bundle for. So the names noted so far are those for
which a bundle is held (`CapsCache.Notes`), and a job adds to them exactly what it is short of.

Whether the comment is accepted makes no difference: the tokens behind an unrecognized word have
acted before the comment is refused.
-/

namespace ShaderDriver

variable {β κ : Type} {tc : Toolchain β} {make : CapsFactory β κ}

/-! ### Names that are noted once -/

namespace CapsCache

/-- Each name was noted once, and a bundle is held for just these names. -/
structure Notes (cache : CapsCache β (List String × κ)) : Prop where
  nodup : cache.noted.Nodup
  mem_iff : ∀ name, name ∈ cache.noted ↔ (cache.find? name).isSome

theorem notes_empty (state : κ) : Notes ({ factory := ([], state) } : CapsCache β (List String × κ))
    where
  nodup := List.nodup_nil
  mem_iff name := by simp [noted, find?]

/-- Asking for a name keeps this up: a name is noted only if no bundle is held for it. -/
theorem keeps_notes (hmake : make.GivesBundles) : make.recorded.Keeps Notes := by
  intro name cache h
  cases hfind : cache.find? name with
  | some bundle => rwa [get_of_find? hfind]
  | none =>
    have hfresh : name ∉ cache.noted := by simp [h.mem_iff, hfind]
    rw [get_snd_of_find?_eq_none hfind]
    constructor
    · rw [noted_build, List.nodup_append]
      refine ⟨h.nodup, by simp, ?_⟩
      intro other hother last hlast hsame
      rw [hsame, List.mem_singleton.mp hlast] at hother
      exact hfresh hother
    · intro other
      have hheld := isSome_find?_buildAll hmake.recorded cache [name] other
      rw [noted_build, List.mem_append, h.mem_iff]
      exact hheld.symm

/-- What a cache is short of are the names that have not been noted. -/
theorem Notes.missing_eq {cache : CapsCache β (List String × κ)} (h : cache.Notes)
    (names : List String) :
    cache.missing names = names.eraseDups.filter (· ∉ cache.noted) := by
  refine List.filter_congr fun name _ => ?_
  cases hfind : cache.find? name <;> simp [h.mem_iff, hfind]

/-- A name that does not occur again is missing unless a bundle is held for it. -/
theorem missing_cons_of_notMem {name : String} {names : List String} (h : name ∉ names)
    (cache : CapsCache β κ) :
    cache.missing (name :: names) =
      (if (cache.find? name).isSome then [] else [name]) ++ cache.missing names := by
  have hothers : names.filter (fun other => !other == name) = names := by
    refine List.filter_eq_self.mpr fun other hother => ?_
    have hne : other ≠ name := ne_of_mem_of_not_mem hother h
    simp [hne]
  simp only [missing, List.eraseDups_cons, hothers, List.filter_cons]
  cases cache.find? name <;> rfl

end CapsCache

/-! ### What a job asks for -/

/-- The tokens that take effect for a command: those at the end of the settings comment of its
source, whatever is in front of them, and none if the command ignores the comment. -/
def Command.Takes (command : Command) (source : Bytes) (tokens : List Pragma.Token) : Prop :=
  if command.honorsPragma then
    match Pragma.body? source with
    | none => tokens = []
    | some body => ∃ rest, Pragma.Reads Pragma.Token.all body rest tokens
  else tokens = []

namespace Command.Takes

variable {command : Command} {source : Bytes} {tokens : List Pragma.Token}

theorem exists_unique (command : Command) (source : Bytes) :
    ∃ tokens, command.Takes source tokens ∧
      ∀ others, command.Takes source others → others = tokens := by
  unfold Takes
  cases command.honorsPragma with
  | false => exact ⟨[], rfl, fun others hothers => hothers⟩
  | true =>
    cases Pragma.body? source with
    | none => exact ⟨[], rfl, fun others hothers => hothers⟩
    | some body =>
      refine ⟨_, ⟨_, Pragma.reads_peel Pragma.Token.all body⟩, ?_⟩
      intro others hothers
      obtain ⟨rest, hreads⟩ := hothers
      rw [hreads.peel_eq Pragma.unambiguous_all]

theorem mem_all (h : command.Takes source tokens) : ∀ token ∈ tokens, token ∈ Pragma.Token.all := by
  unfold Takes at h
  split at h
  · split at h
    · simp [h]
    · obtain ⟨rest, hreads⟩ := h
      exact hreads.mem_table
  · simp [h]

/-- The names that are asked for can all be selected by a comment. -/
theorem mem_capsNames (h : command.Takes source tokens) {name : String}
    (hname : name ∈ Pragma.capsNamesMet tokens) : name ∈ Pragma.capsNames := by
  have hall := h.mem_all _ (Pragma.mem_capsNamesMet.mp hname)
  simpa [Pragma.Token.all] using hall

end Command.Takes

section GivesBundles

variable (hmake : make.GivesBundles)

include hmake

/-- Configuring a job asks for the names among the tokens that take effect, whether the comment is
accepted or not. -/
theorem cache_configure {command : Command} {source : Bytes} {tokens : List Pragma.Token}
    (htakes : command.Takes source tokens) (selection : Pragma.Selection β κ) :
    (configure make command.honorsPragma source selection).2.cache =
      selection.cache.getAll make (Pragma.capsNamesMet tokens) := by
  unfold configure
  unfold Command.Takes at htakes
  cases hhonors : command.honorsPragma with
  | false =>
    obtain rfl : tokens = [] := by simpa [hhonors] using htakes
    rfl
  | true =>
    rw [if_pos hhonors] at htakes
    rw [if_pos rfl]
    cases hbody : Pragma.body? source with
    | none =>
      obtain rfl : tokens = [] := by simpa [hbody] using htakes
      rw [Pragma.detect, Pragma.detectWith, hbody]
      rfl
    | some body =>
      rw [hbody] at htakes
      obtain ⟨rest, hreads⟩ := htakes
      rw [Pragma.detect_eq hmake hbody, hreads.peel_eq Pragma.unambiguous_all,
        CapsCache.getAll_eq_buildAll hmake]
      rfl

/-- A job whose input is read asks for the standing bundle, and then for the names among the tokens
that take effect. -/
theorem prepare_snd {command : Command} {files : FileTree} {source : Bytes}
    {tokens : List Pragma.Token} (hread : readSource files command.input = .ok source)
    (htakes : command.Takes source tokens) (kind : ProgramKind) (cache : CapsCache β κ) :
    (prepare make command kind files cache).2 =
      cache.getAll make (CapsCache.standaloneName :: Pragma.capsNamesMet tokens) := by
  have hstanding : ∃ caps, cache.standalone make =
      (.ok caps, (cache.get make CapsCache.standaloneName).2) :=
    ⟨_, Prod.ext (CapsCache.get_fst hmake cache CapsCache.standaloneName) rfl⟩
  obtain ⟨caps, hstanding⟩ := hstanding
  rw [CapsCache.getAll_cons]
  have hcache := cache_configure hmake htakes
    { settings := {}, caps, cache := (cache.get make CapsCache.standaloneName).2 }
  unfold prepare
  simp only [hread, hstanding]
  rcases hconfigure : configure make command.honorsPragma source
    { settings := {}, caps, cache := (cache.get make CapsCache.standaloneName).2 }
    with ⟨stop | _, selection⟩
  · simpa [hconfigure] using hcache
  · simpa [hconfigure] using hcache

end GivesBundles

theorem prepare_snd_of_error {command : Command} {files : FileTree} {stop : Stop}
    (hread : readSource files command.input = .error stop) (kind : ProgramKind)
    (cache : CapsCache β κ) : (prepare make command kind files cache).2 = cache := by
  simp [prepare, hread]

/-! ### Single jobs -/

/-- The command in an argument list has the right shape and known endings, and the source in its
input can be read. -/
structure ReadsInput (files : FileTree) (args : List String) (command : Command)
    (source : Bytes) : Prop where
  ofArgs : Command.ofArgs args = .ok command
  plan : ∃ kind target, command.plan = .ok (kind, target)
  readSource : readSource files command.input = .ok source

namespace Runner

variable {runner : Runner β κ} {args : List String} {workspace after : Workspace tc κ}
  {report : JobReport tc}

/-- A job whose input is read asks its cache for what it needs. -/
theorem Course.cache_of_reads (h : runner.Course args workspace report after)
    (hmake : runner.makeCaps.GivesBundles) {command : Command} {source : Bytes}
    {tokens : List Pragma.Token} (hreads : ReadsInput workspace.files args command source)
    (htakes : command.Takes source tokens) :
    after.cache = workspace.cache.getAll runner.makeCaps
      (CapsCache.standaloneName :: Pragma.capsNamesMet tokens) := by
  obtain ⟨hshape, ⟨kind, target, hplan⟩, hread⟩ := hreads
  cases h with
  | refused hargs => cases hshape.symm.trans hargs
  | unplanned hargs hunplanned =>
    obtain rfl := Except.ok.inj (hshape.symm.trans hargs)
    cases hplan.symm.trans hunplanned
  | @unprepared other kind _ _ _ hargs _ hprepare =>
    obtain rfl := Except.ok.inj (hshape.symm.trans hargs)
    rw [← prepare_snd hmake hread htakes kind, hprepare]
  | @built other kind _ _ _ hargs _ hprepare =>
    obtain rfl := Except.ok.inj (hshape.symm.trans hargs)
    rw [← prepare_snd hmake hread htakes kind, hprepare]

/-- A job whose input is not read leaves its cache alone. -/
theorem Course.cache_of_not_reads (h : runner.Course args workspace report after)
    (hreads : ¬ ∃ command source, ReadsInput workspace.files args command source) :
    after.cache = workspace.cache := by
  have hunread {command : Command} {kind : ProgramKind} {target : Target}
      (hargs : Command.ofArgs args = .ok command) (hplan : command.plan = .ok (kind, target)) :
      (prepare runner.makeCaps command kind workspace.files workspace.cache).2 =
        workspace.cache := by
    cases hread : readSource workspace.files command.input with
    | error stop => exact prepare_snd_of_error hread kind workspace.cache
    | ok source => exact absurd ⟨command, source, hargs, ⟨kind, target, hplan⟩, hread⟩ hreads
  cases h with
  | refused => rfl
  | unplanned => rfl
  | unprepared hargs hplan hprepare => rw [← hunread hargs hplan, hprepare]
  | built hargs hplan hprepare => rw [← hunread hargs hplan, hprepare]

end Runner

/-! ### Sequences of jobs -/

/-- The same runner with a factory that notes names. -/
def Runner.recorded (runner : Runner β κ) : Runner β (List String × κ) where
  makeCaps := runner.makeCaps.recorded
  debug := runner.debug

/-- A job that a runner has run. -/
abbrev JobRun (tc : Toolchain β) (κ : Type) : Type :=
  Occurrence (List String) (JobReport tc) (Workspace tc κ)

/-- The job had the right shape and known endings, and its input could be read. -/
def JobRun.HasRead (job : JobRun tc κ) : Prop :=
  ∃ command source, ReadsInput job.before.files job.request command source

namespace CapsCache

variable {cache : CapsCache β (List String × κ)}

/-- The standing bundle was the first to be made, if any were, and a comment can select all the
others. -/
def LedByStanding (cache : CapsCache β (List String × κ)) : Prop :=
  cache.noted = [] ∨
    ∃ names, cache.noted = standaloneName :: names ∧ ∀ name ∈ names, name ∈ Pragma.capsNames

/-- At most one bundle was made for each name that a comment can select, and the standing one. -/
theorem LedByStanding.length_le (h : cache.LedByStanding) (hnodup : cache.noted.Nodup) :
    cache.noted.length ≤ 24 := by
  have hsubset : cache.noted ⊆ standaloneName :: Pragma.capsNames := by
    obtain hnil | ⟨names, hnoted, hnames⟩ := h
    · simp [hnil]
    · rw [hnoted]
      exact List.cons_subset_cons _ hnames
  exact (List.subperm_of_subset hnodup hsubset).length_le

variable {command : Command} {source : Bytes} {tokens : List Pragma.Token}

/-- What a job asks for makes the standing bundle if there are none, and those among the names in
its comment that have not been made. -/
theorem noted_getAll (hmake : make.GivesBundles) (hnotes : cache.Notes)
    (hled : cache.LedByStanding) (htakes : command.Takes source tokens) :
    (cache.getAll make.recorded (standaloneName :: Pragma.capsNamesMet tokens)).noted =
      cache.noted ++ ((if cache.noted = [] then [standaloneName] else []) ++
        (Pragma.capsNamesMet tokens).eraseDups.filter (· ∉ cache.noted)) := by
  have hother : standaloneName ∉ Pragma.capsNamesMet tokens := by
    intro hmet
    exact absurd (htakes.mem_capsNames hmet) (by decide)
  have hstanding : (cache.find? standaloneName).isSome ↔ cache.noted ≠ [] := by
    rw [← hnotes.mem_iff]
    obtain hnil | ⟨names, hnoted, -⟩ := hled
    · simp [hnil]
    · simp [hnoted]
  rw [getAll_eq_buildAll hmake.recorded, noted_buildAll, missing_cons_of_notMem hother,
    hnotes.missing_eq]
  simp only [hstanding, ite_not]

end CapsCache

/-- What is known of a workspace after jobs that started without any bundles. -/
structure Supplied (past : List (JobRun tc (List String × κ)))
    (workspace : Workspace tc (List String × κ)) : Prop where
  notes : workspace.cache.Notes
  led : workspace.cache.LedByStanding
  noted_eq_nil_iff : workspace.cache.noted = [] ↔ ∀ job ∈ past, ¬ job.HasRead

namespace Supplied

variable {runner : Runner β κ} {past : List (JobRun tc (List String × κ))}
  {workspace : Workspace tc (List String × κ)} {args : List String}

theorem fresh (files : FileTree) (state : κ) (compiler : tc.State) :
    Supplied [] { files, cache := { factory := ([], state) }, compiler } where
  notes := CapsCache.notes_empty state
  led := .inl rfl
  noted_eq_nil_iff := by simp [CapsCache.noted]

/-- A job whose input is not read has no bundles made. -/
theorem noted_of_not_reads
    (hread : ¬ ∃ command source, ReadsInput workspace.files args command source) :
    (runner.recorded.run args workspace).2.cache.noted = workspace.cache.noted := by
  rw [(runner.recorded.run_course args workspace).cache_of_not_reads hread]

/-- A job whose input is read has those bundles made that it needs and that were not made before. -/
theorem noted_of_reads (hmake : runner.makeCaps.GivesBundles) (h : Supplied past workspace)
    {command : Command} {source : Bytes} {tokens : List Pragma.Token}
    (hreads : ReadsInput workspace.files args command source)
    (htakes : command.Takes source tokens) :
    (runner.recorded.run args workspace).2.cache.noted = workspace.cache.noted ++
      ((if workspace.cache.noted = [] then [CapsCache.standaloneName] else []) ++
        (Pragma.capsNamesMet tokens).eraseDups.filter (· ∉ workspace.cache.noted)) := by
  rw [(runner.recorded.run_course args workspace).cache_of_reads hmake.recorded hreads htakes]
  exact CapsCache.noted_getAll hmake h.notes h.led htakes

/-- After such a job there are bundles, led by the standing one. -/
theorem led_of_reads (hmake : runner.makeCaps.GivesBundles) (h : Supplied past workspace)
    {command : Command} {source : Bytes} (hreads : ReadsInput workspace.files args command source) :
    ∃ names,
      (runner.recorded.run args workspace).2.cache.noted = CapsCache.standaloneName :: names ∧
        ∀ name ∈ names, name ∈ Pragma.capsNames := by
  obtain ⟨tokens, htakes, -⟩ := Command.Takes.exists_unique command source
  have hmade : ∀ name ∈
      (Pragma.capsNamesMet tokens).eraseDups.filter (· ∉ workspace.cache.noted),
      name ∈ Pragma.capsNames := by
    intro name hname
    exact htakes.mem_capsNames (List.mem_eraseDups.mp (List.mem_filter.mp hname).1)
  rw [h.noted_of_reads hmake hreads htakes]
  generalize (Pragma.capsNamesMet tokens).eraseDups.filter (· ∉ workspace.cache.noted) = made
    at hmade ⊢
  obtain hnil | ⟨names, hnoted, hnames⟩ := h.led
  · exact ⟨made, by simp [hnil], hmade⟩
  · exact ⟨names ++ made, by simp [hnoted], List.forall_mem_append.mpr ⟨hnames, hmade⟩⟩

/-- Running one more job keeps up what is known. -/
theorem run (hmake : runner.makeCaps.GivesBundles) (h : Supplied past workspace)
    (args : List String) :
    Supplied (past ++ [.of runner.recorded.run args workspace])
      (runner.recorded.run args workspace).2 := by
  have hkeeps : runner.recorded.makeCaps.Keeps CapsCache.Notes := CapsCache.keeps_notes hmake
  have hnotes := Runner.run_keeps hkeeps args h.notes
  by_cases hread : ∃ command source, ReadsInput workspace.files args command source
  · obtain ⟨command, source, hreads⟩ := hread
    obtain ⟨names, hnoted, hnames⟩ := h.led_of_reads hmake hreads
    refine ⟨hnotes, .inr ⟨names, hnoted, hnames⟩, ?_⟩
    rw [hnoted, List.forall_mem_append, List.forall_mem_singleton]
    exact iff_of_false (List.cons_ne_nil _ _) fun hnever => hnever.2 ⟨command, source, hreads⟩
  · have hnoted := @noted_of_not_reads _ _ _ runner _ _ hread
    refine ⟨hnotes, ?_, ?_⟩
    · rw [CapsCache.LedByStanding, hnoted]
      exact h.led
    · rw [hnoted, h.noted_eq_nil_iff, List.forall_mem_append, List.forall_mem_singleton]
      exact (and_iff_left hread).symm

end Supplied

/-- **Which bundles a runner has made.** Of every job, in every sequence of jobs of one runner that
starts without bundles: the names of the bundles that were made only grow, and hold no name twice.
There are none until an input has been read, and from then on the standing one stands first and all
the others are names that a comment can select. Besides the standing bundle, a job whose input is
read makes those for the names among the tokens that take effect, each where it is met first from
the right, unless it was made before. That the comment is refused makes no difference, and a job
that ignores its comment makes none of these. -/
theorem Runner.history_supplies (runner : Runner β κ) (hmake : runner.makeCaps.GivesBundles)
    (commands : List (List String)) (files : FileTree) (state : κ) (compiler : tc.State)
    {earlier later : List (JobRun tc (List String × κ))} {job : JobRun tc (List String × κ)}
    (h : history runner.recorded.run commands
        { files, cache := { factory := ([], state) }, compiler } = earlier ++ job :: later) :
    (job.before.cache.noted <+: job.after.cache.noted ∧ job.after.cache.noted.Nodup) ∧
    (¬ job.HasRead → job.after.cache.noted = job.before.cache.noted) ∧
    (∀ command source, ReadsInput job.before.files job.request command source →
      ∃ tokens, command.Takes source tokens ∧
        (∀ others, command.Takes source others → others = tokens) ∧
        (job.request[3]? = some "--nosettings" → tokens = []) ∧
        job.after.cache.noted = job.before.cache.noted ++
          ((if job.before.cache.noted = [] then ["Standalone"] else []) ++
            (Pragma.capsNamesMet tokens).eraseDups.filter (· ∉ job.before.cache.noted))) ∧
    (job.after.cache.noted = [] ↔ ∀ prior ∈ earlier ++ [job], ¬ prior.HasRead) ∧
    (job.after.cache.noted ≠ [] → ∃ names, job.after.cache.noted = "Standalone" :: names ∧
      ∀ name ∈ names, name ∈ Pragma.capsNames) ∧
    job.after.cache.noted.length ≤ 24 := by
  have hknown : ∃ args before, job = .of runner.recorded.run args before ∧
      Supplied earlier before :=
    exists_known_of_history (fun past args workspace hpast => hpast.run hmake args)
      (.fresh files state compiler) h
  obtain ⟨args, before, rfl, hbefore⟩ := hknown
  have hafter := hbefore.run hmake args
  refine ⟨⟨?_, hafter.notes.nodup⟩, Supplied.noted_of_not_reads, ?_, hafter.noted_eq_nil_iff,
    hafter.led.resolve_left, hafter.led.length_le hafter.notes.nodup⟩
  · by_cases hread : ∃ command source, ReadsInput before.files args command source
    · obtain ⟨command, source, hreads⟩ := hread
      obtain ⟨tokens, htakes, -⟩ := Command.Takes.exists_unique command source
      exact ⟨_, (hbefore.noted_of_reads hmake hreads htakes).symm⟩
    · exact ⟨[], (List.append_nil _).trans (Supplied.noted_of_not_reads hread).symm⟩
  · intro command source hreads
    obtain ⟨tokens, htakes, hunique⟩ := Command.Takes.exists_unique command source
    refine ⟨tokens, htakes, hunique, ?_, hbefore.noted_of_reads hmake hreads htakes⟩
    intro hflag
    have hignores := (Command.ofArgs_eq_ok hreads.ofArgs).2.2.mpr hflag
    simpa [Command.Takes, hignores] using htakes

/-- A job whose comment is refused has bundles made for what is behind the unrecognized word. -/
theorem Runner.history_supplies_refused :
    CapsFactory.named.GivesBundles ∧
      ∃ refused plain : JobRun (.unavailable Caps) (List String × Unit),
        history (@Runner.run Caps _ (.unavailable Caps) (Runner.recorded { makeCaps := .named }))
            [["skslc", "refused.frag", "a.glsl"], ["skslc", "plain.frag", "b.glsl"]]
            { files := refusedAndPlain, cache := { factory := ([], ()) }, compiler := none } =
          [refused, plain] ∧
        refused.answer.outcome = .ok .inputError ∧
        refused.after.cache.noted = ["Standalone", "Default"] := by
  refine ⟨CapsFactory.givesBundles_named, _, _, rfl, by decide +kernel, ?_⟩
  obtain ⟨-, -, hmade, -⟩ := @history_supplies Caps Unit (.unavailable Caps)
    { makeCaps := .named } CapsFactory.givesBundles_named
    [["skslc", "refused.frag", "a.glsl"], ["skslc", "plain.frag", "b.glsl"]]
    refusedAndPlain () none [] [_] _ rfl
  have hreads : ReadsInput refusedAndPlain ["skslc", "refused.frag", "a.glsl"]
      { input := "refused.frag", output := "a.glsl", honorsPragma := true }
      (utf8 "/*#pragma settings Nonsense Default*/") :=
    ⟨rfl, ⟨_, _, rfl⟩, by decide +kernel⟩
  obtain ⟨tokens, -, hunique, -, hnoted⟩ := hmade _ _ hreads
  have hbody : Pragma.body? (utf8 "/*#pragma settings Nonsense Default*/") =
      some (utf8 " Nonsense Default") := by decide +kernel
  have htakes : Command.Takes { input := "refused.frag", output := "a.glsl", honorsPragma := true }
      (utf8 "/*#pragma settings Nonsense Default*/") [.caps "Default"] := by
    simp only [Command.Takes, hbody]
    exact ⟨utf8 " Nonsense", by decide, by decide, by decide⟩
  rw [hnoted, ← hunique _ htakes]
  rfl

end ShaderDriver

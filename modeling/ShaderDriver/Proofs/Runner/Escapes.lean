import ShaderDriver.Proofs.Runner.Commission
import ShaderDriver.Proofs.Runner.Texts

/-!
# ShaderDriver.Proofs.Runner.Escapes

**When a job ends without a result code.** With a factory that does not break down, there are two
ways to end without a result code (`Runner.outcome_runWith_eq_error_iff`).

* A path with U+0000 in it is to be opened. The input of a recognized command always is; its output
  is if the command prepares (`Command.Prepares`), which its source alone decides.
* A text that is put out is not taken by the codec. That a compiler breaks down is turned into a
  result code, but what it says of it is not looked at before it is written.

So a batch without U+0000 in its arguments runs to its end if its texts are taken, and up to the job
with the first text that is not otherwise.
-/

namespace ShaderDriver

variable {β κ : Type} {tc : Toolchain β} {make : CapsFactory β κ}

/-- The source of a command can be read, and its settings comment is accepted or ignored. -/
def Command.Prepares (command : Command) (files : FileTree) : Prop :=
  ∃ path source tokens, FilePath.ofString? command.input = some path ∧
    files.read? path = some source ∧ command.Honors source tokens

section Answers

variable (hmake : make.Answers)

include hmake

/-- A settings comment is accepted exactly if it can be read as tokens. -/
theorem Pragma.detect_eq_ok_iff {source : Bytes} {selection : Selection β κ} :
    (detect make source selection).1 = .ok () ↔ ∃ tokens, Holds source tokens := by
  rw [detect_fst hmake]
  cases hbody : body? source with
  | none => simp [Holds, hbody]
  | some body =>
    simp only [Holds, hbody]
    rw [← peel_eq_nil_iff_of_body? hbody]
    split <;> simp [*]

theorem configure_eq_ok_iff {command : Command} {source : Bytes}
    {selection : Pragma.Selection β κ} :
    (configure make command.honorsPragma source selection).1 = .ok () ↔
      ∃ tokens, command.Honors source tokens := by
  unfold configure Command.Honors
  cases command.honorsPragma with
  | true => exact Pragma.detect_eq_ok_iff hmake
  | false => simp

/-- What is prepared is decided by the files, and not by what the cache holds. -/
theorem prepare_eq_ok_iff {command : Command} {kind : ProgramKind} {files : FileTree}
    {cache : CapsCache β κ} :
    (∃ job, (prepare make command kind files cache).1 = .ok job) ↔ command.Prepares files := by
  constructor
  · rintro ⟨job, hjob⟩
    obtain ⟨path, caps, standing, selection, hpath, hread, -, hconfigure, -⟩ :=
      prepare_eq_ok (Prod.ext hjob rfl)
    obtain ⟨tokens, htokens⟩ := (configure_eq_ok_iff hmake).mp (congrArg Prod.fst hconfigure)
    exact ⟨path, job.text, tokens, hpath, hread, htokens⟩
  · rintro ⟨path, source, tokens, hpath, hread, htokens⟩
    obtain ⟨caps, standing, hstanding⟩ :=
      CapsCache.get_answers hmake cache CapsCache.standaloneName
    have hconfigured : (configure make command.honorsPragma source
        { settings := {}, caps, cache := standing }).1 = .ok () :=
      (configure_eq_ok_iff hmake).mpr ⟨tokens, htokens⟩
    simp only [prepare, readSource, hpath, hread, CapsCache.standalone, hstanding]
    generalize configure make command.honorsPragma source _ = result at hconfigured ⊢
    obtain ⟨answer, selection⟩ := result
    subst hconfigured
    exact ⟨_, rfl⟩

end Answers

/-- Of a recognized argument list, it is enough to look at the command in it. -/
theorem Command.exists_recognizes_iff {args : List String} {command : Command} {kind : ProgramKind}
    {target : Target} (hargs : ofArgs args = .ok command) (hplan : command.plan = .ok (kind, target))
    {property : Command → Prop} :
    (∃ command kind target, Recognizes args command kind target ∧ property command) ↔
      property command := by
  constructor
  · rintro ⟨other, otherKind, otherTarget, hother, hproperty⟩
    obtain ⟨hother, -⟩ := recognizes_iff.mp hother
    rwa [← Except.ok.inj (hother.symm.trans hargs)]
  · intro hproperty
    exact ⟨command, kind, target, recognizes_iff.mpr ⟨hargs, hplan⟩, hproperty⟩

namespace Runner

variable {runner : Runner β κ} {args : List String} {workspace after : Workspace tc κ}
  {report : JobReport tc}

/-- A job ends without a result code exactly if it comes to a path that holds U+0000. -/
theorem Course.escapes_iff (h : runner.Course args workspace report after)
    (hmake : runner.makeCaps.Answers) {escape : Escape} :
    report.outcome = .error escape ↔
      escape = .nullInPath ∧ ∃ command kind target, Command.Recognizes args command kind target ∧
        ('\x00' ∈ command.input.toList ∨
          '\x00' ∈ command.output.toList ∧ command.Prepares workspace.files) := by
  cases h with
  | @refused refusal hargs =>
    refine ⟨nofun, ?_⟩
    rintro ⟨-, command, kind, target, hrecognizes, -⟩
    exact absurd hrecognizes (Command.not_recognizes_of_refusal hargs)
  | @unplanned command failure hargs hplan =>
    refine ⟨nofun, ?_⟩
    rintro ⟨-, other, kind, target, hrecognizes, -⟩
    exact absurd hrecognizes (Command.not_recognizes_of_plan hargs hplan)
  | @unprepared command kind target stop cache hargs hplan hprepare =>
    have hunprepared : ¬ command.Prepares workspace.files := by
      rw [← prepare_eq_ok_iff hmake, hprepare]
      simp
    have hescapes := @prepare_escapes_iff _ _ _ hmake command kind workspace.files workspace.cache
      escape
    rw [hprepare, Except.error.injEq] at hescapes
    rw [outcome_ofOutcome_eq_error_iff, Except.error.injEq, hescapes,
      Command.exists_recognizes_iff hargs hplan]
    simp only [hunprepared, and_false, or_false]
  | @built command kind target job cache hargs hplan hprepare =>
    have hprepared : command.Prepares workspace.files :=
      (prepare_eq_ok_iff hmake).mp ⟨job, congrArg Prod.fst hprepare⟩
    have hinput : '\x00' ∉ command.input.toList := by
      obtain ⟨path, source, tokens, hpath, -⟩ := hprepared
      exact mt FilePath.ofString?_eq_none_iff.mpr (by simp [hpath])
    rw [outcome_ofOutcome_eq_error_iff, build_escapes_iff, outputPath_of_prepare hprepare,
      Command.exists_recognizes_iff hargs hplan]
    simp only [hprepared, hinput, and_true, false_or]

/-- A batch that nothing stops does what its jobs do one after the other. -/
theorem perform_snd_eq_runAll {jobs : List (List String)} {workspace : Workspace tc κ}
    (h : ∀ entry ∈ (Batch.perform runner.batchJob jobs workspace).1,
      ∃ code, entry.outcome = .ok code) :
    (Batch.perform runner.batchJob jobs workspace).2 = (runner.runAll jobs workspace).2 := by
  induction jobs generalizing workspace with
  | nil => rfl
  | cons args jobs ih =>
    cases hentry : (runner.entryIn workspace args).outcome with
    | error fault =>
      rw [Batch.perform_cons_of_error hentry] at h
      obtain ⟨code, hcode⟩ := h _ (List.mem_singleton_self _)
      cases hentry.symm.trans hcode
    | ok code =>
      rw [Batch.perform_cons_of_ok hentry] at h ⊢
      exact ih fun entry hentry => h entry (List.mem_cons_of_mem _ hentry)

/-- A job ends without a result code exactly if one of its texts is not taken, or if all of them are
and it comes to a path that holds U+0000. -/
theorem outcome_runWith_eq_error_iff {codec : Codec tc} (hmake : runner.makeCaps.Answers)
    {escape : Escape} :
    (runner.runWith codec args workspace).1.outcome = .error escape ↔
      (∃ complaint, escape = .unencodable complaint ∧
        (runner.texts args workspace).findSome? codec.complaint? = some complaint) ∨
      (runner.texts args workspace).findSome? codec.complaint? = none ∧ escape = .nullInPath ∧
        ∃ command kind target, Command.Recognizes args command kind target ∧
          ('\x00' ∈ command.input.toList ∨
            '\x00' ∈ command.output.toList ∧ command.Prepares workspace.files) := by
  cases htexts : (runner.texts args workspace).findSome? codec.complaint? with
  | none =>
    rw [runWith_eq_run htexts, (runner.run_course args workspace).escapes_iff hmake]
    simp
  | some complaint =>
    rw [outcome_runWith_of_complaint htexts]
    simp [eq_comm]

/-- A batch whose texts are all taken, and that comes to no path with U+0000, runs to its end. -/
theorem runBatchWith_of_taken {codec : Codec tc} {argv : List String}
    (hmake : runner.makeCaps.Answers)
    (hpaths : ∀ args ∈ Batch.split argv, Command.PathsNonNull args)
    (htexts : (runner.allTexts (Batch.split argv) workspace).findSome? codec.complaint? = none) :
    (runner.runBatchWith codec argv workspace).1.entries.map Batch.Entry.args = Batch.split argv ∧
      (runner.runBatchWith codec argv workspace).2 =
        (runner.runAll (Batch.split argv) workspace).2 ∧
      ∃ code, (runner.runBatchWith codec argv workspace).1.verdict = .ok code := by
  have hrun : runner.runBatchWith codec argv workspace = runner.runBatch argv workspace := by
    rw [runBatch_eq, Batch.run, ← perform_eq_of_taken htexts]
    rfl
  have hcodes := fun entry (hentry : entry ∈ (Batch.perform runner.batchJob
    (Batch.split argv) workspace).1) => exists_code_of_mem hmake hpaths hentry
  rw [hrun]
  exact ⟨Batch.args_perform_of_ok hcodes, perform_snd_eq_runAll hcodes,
    exists_verdict hmake hpaths workspace⟩

/-- A batch that comes to no path with U+0000 is stopped by the first text that is not taken. The
job that the text belongs to is the last one that is run. -/
theorem runBatchWith_of_complaint {codec : Codec tc} {argv : List String} {complaint : Crash}
    (hmake : runner.makeCaps.Answers)
    (hpaths : ∀ args ∈ Batch.split argv, Command.PathsNonNull args)
    (htexts : (runner.allTexts (Batch.split argv) workspace).findSome? codec.complaint? =
      some complaint) :
    (runner.runBatchWith codec argv workspace).1.verdict =
        .error (.escaped (.unencodable complaint)) ∧
      ∃ done args rest, Batch.split argv = done ++ args :: rest ∧
        (runner.runBatchWith codec argv workspace).1.entries.map Batch.Entry.args = done ++ [args] ∧
        (runner.texts args (runner.runAll done workspace).2).findSome? codec.complaint? =
          some complaint := by
  obtain ⟨done, args, rest, entry, hsplit, hcomplaint, rfl, houtcome, hperform⟩ :=
    perform_of_complaint hmake hpaths htexts
  have hentries : (runner.runBatchWith codec argv workspace).1.entries =
      (Batch.perform runner.batchJob done workspace).1 ++ [entry] := hperform
  have hdone : ∀ args ∈ done, Command.PathsNonNull args := by
    intro args hargs
    exact hpaths args (hsplit ▸ List.mem_append_left _ hargs)
  have hcodes := fun entry (hentry : entry ∈ (Batch.perform runner.batchJob done workspace).1) =>
    exists_code_of_mem hmake hdone hentry
  refine ⟨?_, done, entry.args, rest, hsplit, ?_, hcomplaint⟩
  · rw [Batch.Log.verdict, hentries]
    exact Batch.Log.verdict_of_stopped hcodes houtcome
  · rw [hentries, List.map_append, Batch.args_perform_of_ok hcodes]
    rfl

/-- **When a job ends without a result code.** If the factory does not break down, a job ends in a
result code, with the complaint about U+0000 in a path, or with the complaint about a text that is
not taken. The last is the case exactly if there is such a text among those that the job puts out,
and the complaint is about the first. It is U+0000 exactly if there is none, the argument list is
recognized, and its input path holds U+0000, or its output path does and its source can be read and
has a settings comment that is accepted or ignored.

So of a command line without U+0000, every job is run, one after the other, and there is a result
code in the end, if all texts are taken. If not, the first that is not stops the batch with the job
that it belongs to, and the jobs behind that are not run. -/
theorem run_escapes_exactly (runner : Runner β κ) (codec : Codec tc)
    (hmake : runner.makeCaps.Answers) :
    (∀ (args : List String) (workspace : Workspace tc κ),
      ((∃ code, (runner.runWith codec args workspace).1.outcome = .ok code) ∨
        (runner.runWith codec args workspace).1.outcome = .error .nullInPath ∨
        ∃ complaint,
          (runner.runWith codec args workspace).1.outcome = .error (.unencodable complaint)) ∧
      (∀ complaint,
        (runner.runWith codec args workspace).1.outcome = .error (.unencodable complaint) ↔
          (runner.texts args workspace).findSome? codec.complaint? = some complaint) ∧
      ((runner.runWith codec args workspace).1.outcome = .error .nullInPath ↔
        (runner.texts args workspace).findSome? codec.complaint? = none ∧
          ∃ command kind target, Command.Recognizes args command kind target ∧
            ('\x00' ∈ command.input.toList ∨
              '\x00' ∈ command.output.toList ∧ command.Prepares workspace.files))) ∧
    Escape.nullInPath.message = utf8 "embedded null byte" ∧
    ∀ (argv : List String) (workspace : Workspace tc κ), (∀ arg ∈ argv, '\x00' ∉ arg.toList) →
      ((runner.allTexts (Batch.split argv) workspace).findSome? codec.complaint? = none →
        (runner.runBatchWith codec argv workspace).1.entries.map Batch.Entry.args =
            Batch.split argv ∧
          (runner.runBatchWith codec argv workspace).2 =
            (runner.runAll (Batch.split argv) workspace).2 ∧
          ∃ code, (runner.runBatchWith codec argv workspace).1.verdict = .ok code) ∧
      ∀ complaint,
        (runner.allTexts (Batch.split argv) workspace).findSome? codec.complaint? =
            some complaint →
          (runner.runBatchWith codec argv workspace).1.verdict =
              .error (.escaped (.unencodable complaint)) ∧
            ∃ done args rest, Batch.split argv = done ++ args :: rest ∧
              (runner.runBatchWith codec argv workspace).1.entries.map Batch.Entry.args =
                done ++ [args] ∧
              (runner.texts args (runner.runAll done workspace).2).findSome? codec.complaint? =
                some complaint := by
  refine ⟨fun args workspace => ⟨?_, ?_, ?_⟩, rfl, fun argv workspace hargv => ?_⟩
  · cases houtcome : (runner.runWith codec args workspace).1.outcome with
    | ok code => exact .inl ⟨code, rfl⟩
    | error escape =>
      obtain ⟨complaint, rfl, -⟩ | ⟨-, rfl, -⟩ := (outcome_runWith_eq_error_iff hmake).mp houtcome
      · exact .inr (.inr ⟨complaint, rfl⟩)
      · exact .inr (.inl rfl)
  · intro complaint
    simp [outcome_runWith_eq_error_iff hmake]
  · simp [outcome_runWith_eq_error_iff hmake]
  · have hpaths : ∀ args ∈ Batch.split argv, Command.PathsNonNull args :=
      fun args hargs => Command.pathsNonNull_of_mem_split hargv hargs
    exact ⟨runBatchWith_of_taken hmake hpaths, fun _ => runBatchWith_of_complaint hmake hpaths⟩

/-- The same output path is come to by one of two jobs only, as the comment of the other one is
refused. -/
theorem run_escapes_exactly_plain :
    CapsFactory.named.Answers ∧
      (@Runner.run Caps Unit (.unavailable Caps) { makeCaps := .named }
          ["skslc", "plain.frag", "a\x00.glsl"]
          { files := refusedAndPlain, cache := { factory := () }, compiler := none }).1.outcome =
        .error .nullInPath ∧
      (@Runner.run Caps Unit (.unavailable Caps) { makeCaps := .named }
          ["skslc", "refused.frag", "a\x00.glsl"]
          { files := refusedAndPlain, cache := { factory := () }, compiler := none }).1.outcome =
        .ok .inputError ∧
      (@Runner.runBatch Caps Unit (.unavailable Caps) { makeCaps := .named }
          ["skslc", "refused.frag", "a.glsl", "--", "plain.frag", "a.glsl"]
          { files := refusedAndPlain, cache := { factory := () },
            compiler := none }).1.entries.map Batch.Entry.args =
        [["skslc", "refused.frag", "a.glsl"], ["skslc", "plain.frag", "a.glsl"]] := by
  obtain ⟨hrun, -, hbatch⟩ := @run_escapes_exactly Caps Unit (.unavailable Caps)
    { makeCaps := .named } .total CapsFactory.answers_named
  have hplain : Command.Recognizes ["skslc", "plain.frag", "a\x00.glsl"]
      ⟨"plain.frag", "a\x00.glsl", true⟩ .fragment (.code .glsl) :=
    ⟨.plain _ _ _, ⟨".frag", by decide, by decide⟩, by decide⟩
  have hprepares : Command.Prepares ⟨"plain.frag", "a\x00.glsl", true⟩ refusedAndPlain :=
    ⟨⟨"plain.frag", by decide⟩, utf8 "void main() {}", [], dif_neg (by decide), by decide, rfl⟩
  refine ⟨CapsFactory.answers_named, ?_, by decide +kernel, ?_⟩
  · exact (hrun _ _).2.2.mpr ⟨Codec.findSome?_complaint?_total _, _, _, _, hplain,
      .inr ⟨by decide, hprepares⟩⟩
  · exact ((hbatch _ _ (by decide)).1 (Codec.findSome?_complaint?_total _)).1

/-- A compiler that cannot be created; what it says of it ends in an unpaired surrogate. -/
def unpaired : Toolchain Caps :=
  { Toolchain.verbatim Caps with create := fun _ _ => throw ⟨utf8 "bad " ++ [0xed, 0xa0, 0x80]⟩ }

/-- What is said of the diagnostic of this compiler when it is to be encoded. -/
def unpairedComplaint : Crash :=
  ⟨utf8 "'utf-8' codec can't encode character '\\ud800' in position 4: surrogates not allowed"⟩

/-- The codec that refuses the diagnostic of this compiler. -/
def unpairedCodec : Codec unpaired := .ofDiagnostics fun _ _ => some unpairedComplaint

/-- A compiler that breaks down can stop a batch: no path holds U+0000 here, the factory of bundles
does not break down, and the second job is not run. -/
theorem run_escapes_unpaired :
    CapsFactory.named.Answers ∧
      (∀ arg ∈ ["skslc", "plain.frag", "a.glsl", "--", "plain.frag", "b.glsl"],
        '\x00' ∉ arg.toList) ∧
      (@Runner.runWith Caps Unit unpaired unpairedCodec { makeCaps := .named }
          ["skslc", "plain.frag", "a.glsl"]
          { files := refusedAndPlain, cache := { factory := () }, compiler := () }).1.outcome =
        .error (.unencodable unpairedComplaint) ∧
      Batch.split ["skslc", "plain.frag", "a.glsl", "--", "plain.frag", "b.glsl"] =
        [["skslc", "plain.frag", "a.glsl"], ["skslc", "plain.frag", "b.glsl"]] ∧
      (@Runner.runBatchWith Caps Unit unpaired unpairedCodec { makeCaps := .named }
          ["skslc", "plain.frag", "a.glsl", "--", "plain.frag", "b.glsl"]
          { files := refusedAndPlain, cache := { factory := () },
            compiler := () }).1.entries.map Batch.Entry.args =
        [["skslc", "plain.frag", "a.glsl"]] :=
  ⟨CapsFactory.answers_named, by decide, by decide +kernel, by decide, by decide +kernel⟩

end Runner

end ShaderDriver

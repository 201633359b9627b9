import ShaderDriver.Proofs.Build.Journal
import ShaderDriver.Proofs.Path.Endings
import ShaderDriver.Proofs.Pragma.Meaning
import ShaderDriver.Proofs.Runner.Caches
import ShaderDriver.Proofs.Runner.Footprint

/-!
# ShaderDriver.Proofs.Runner.Commission

**What the compiler is given.** The settings comment of a source is read as a list of tokens, and a
job is commissioned with what the tokens mean: their settings, and the bundle of the leftmost name,
or the standing one (`prepare_commissions`). The target then overrides one setting and says whether
invalid static tests are permitted, both by the ending of the output path.

Jobs that ran before can be seen in the shared cache only, which stays genuine; so the bundle is one
that the factory has made for the name, whatever those jobs were.
-/

namespace ShaderDriver

variable {β κ : Type} {tc : Toolchain β} {make : CapsFactory β κ}

/-! ### Sources read as tokens -/

namespace Pragma

/-- The tokens that a source holds: those of its settings comment, none if it has no comment. -/
def Holds (source : Bytes) (tokens : List Token) : Prop :=
  match body? source with
  | none => tokens = []
  | some body => tokens ≠ [] ∧ (∀ token ∈ tokens, token ∈ Token.all) ∧ body = render tokens

/-- The name of the bundle that tokens select: the leftmost one, or the standing one if there is
none. -/
def bundleName (tokens : List Token) : String :=
  (tokens.findSome? Token.capsName?).getD CapsCache.standaloneName

@[simp] theorem Selection.withTokens_nil (make : CapsFactory β κ) (selection : Selection β κ) :
    selection.withTokens make [] = selection := by
  simp [withTokens, Settings.withTokens, CapsCache.missing]

theorem capsNamesMet_eq_nil {tokens : List Token}
    (h : tokens.findSome? Token.capsName? = none) : capsNamesMet tokens = [] := by
  rw [List.findSome?_eq_none_iff] at h
  rw [capsNamesMet, List.filterMap_eq_nil_iff]
  intro token htoken
  exact h token (List.mem_reverse.mp htoken)

/-- A comment that is accepted is one of tokens, and the selection becomes what they mean. -/
theorem exists_tokens_of_detect (hmake : make.GivesBundles) {source : Bytes}
    {selection after : Selection β κ} (h : detect make source selection = (.ok (), after)) :
    ∃ tokens, Holds source tokens ∧ after = selection.withTokens make tokens := by
  cases hbody : body? source with
  | none =>
    rw [detect, detectWith, hbody] at h
    obtain rfl : selection = after := by simpa using h
    exact ⟨[], by simp [Holds, hbody], by simp⟩
  | some body =>
    rw [detect_eq hmake hbody] at h
    split at h
    · rename_i hnil
      obtain ⟨tokens, htokens⟩ := (peel_eq_nil_iff_of_body? hbody).mp hnil
      obtain rfl := (Prod.mk.inj h).2
      refine ⟨tokens, by simpa only [Holds, hbody] using htokens, ?_⟩
      rw [htokens.2.2, peel_render unambiguous_all htokens.2.1]
    · cases h

/-- With a factory that gives bundles, tokens select the one that the cache then holds for the name
that they mean. -/
theorem Selection.exists_bundle_withTokens (hmake : make.GivesBundles)
    {selection : Selection β κ}
    (hcaps : selection.caps = selection.cache.find? CapsCache.standaloneName)
    (hstanding : (selection.cache.find? CapsCache.standaloneName).isSome) (tokens : List Token) :
    ∃ bundle, (selection.withTokens make tokens).caps = some bundle ∧
      (selection.withTokens make tokens).cache.find? (bundleName tokens) = some bundle := by
  obtain ⟨standing, hstanding⟩ := Option.isSome_iff_exists.mp hstanding
  cases hname : tokens.findSome? Token.capsName? with
  | none =>
    -- Nothing is asked of the cache.
    have hmissing : selection.cache.missing (capsNamesMet tokens) = [] := by
      simp [capsNamesMet_eq_nil hname, CapsCache.missing]
    refine ⟨standing, ?_, ?_⟩
    · simp only [withTokens, hname]
      rw [hcaps, hstanding]
    · simp only [withTokens, hmissing, CapsCache.buildAll_nil, bundleName, hname, Option.getD_none]
      exact hstanding
  | some name =>
    obtain ⟨token, htoken, hcapsName⟩ := List.exists_of_findSome?_eq_some hname
    have hmet : name ∈ capsNamesMet tokens := by
      rw [capsNamesMet, List.mem_filterMap]
      exact ⟨token, List.mem_reverse.mpr htoken, hcapsName⟩
    have hsome := (CapsCache.isSome_find?_buildAll_missing hmake selection.cache
      (capsNamesMet tokens) name).mpr (.inr hmet)
    obtain ⟨bundle, hbundle⟩ := Option.isSome_iff_exists.mp hsome
    refine ⟨bundle, ?_, ?_⟩
    · simp only [withTokens, hname]
      exact hbundle
    · simp only [withTokens, bundleName, hname, Option.getD_some]
      exact hbundle

end Pragma

/-! ### Jobs that are prepared -/

/-- With a factory that gives bundles, asking for a name always leaves one for it. -/
theorem CapsCache.isSome_find?_get (hmake : make.GivesBundles) (cache : CapsCache β κ)
    (name : String) : ((cache.get make name).2.find? name).isSome := by
  rw [← getAll_singleton, getAll_eq_buildAll hmake, isSome_find?_buildAll_missing hmake]
  exact .inr (List.mem_singleton_self name)

/-- The tokens that count for a command: those of its source, unless it ignores them. -/
def Command.Honors (command : Command) (source : Bytes) (tokens : List Pragma.Token) : Prop :=
  if command.honorsPragma then Pragma.Holds source tokens else tokens = []

/-- A job is commissioned with the source, and with what the tokens that count mean. -/
theorem prepare_commissions (hmake : make.GivesBundles) {command : Command} {kind : ProgramKind}
    {files : FileTree} {cache kept : CapsCache β κ} {job : Job β}
    (h : prepare make command kind files cache = (.ok job, kept)) :
    job.kind = kind ∧
      (∃ path, FilePath.ofString? command.input = some path ∧ files.read? path = some job.text) ∧
      ∃ tokens bundle, command.Honors job.text tokens ∧
        job.settings = Settings.withTokens {} tokens ∧ job.caps = some bundle ∧
        kept.find? (Pragma.bundleName tokens) = some bundle := by
  obtain ⟨path, caps, standing, selection, hpath, hread, hstanding, hconfigure, hjob, rfl⟩ :=
    prepare_eq_ok h
  have hkept : (standing.find? CapsCache.standaloneName).isSome ∧
      caps = standing.find? CapsCache.standaloneName := by
    have hsome := CapsCache.isSome_find?_get hmake cache CapsCache.standaloneName
    have hanswer := CapsCache.get_fst hmake cache CapsCache.standaloneName
    rw [CapsCache.standalone] at hstanding
    rw [hstanding] at hsome hanswer
    exact ⟨hsome, Except.ok.inj hanswer⟩
  have htokens : ∃ tokens, command.Honors job.text tokens ∧
      selection = Pragma.Selection.withTokens make
        { settings := {}, caps, cache := standing } tokens := by
    unfold configure at hconfigure
    unfold Command.Honors
    cases hhonors : command.honorsPragma with
    | true =>
      rw [hhonors] at hconfigure
      obtain ⟨tokens, hholds, hselection⟩ := Pragma.exists_tokens_of_detect hmake hconfigure
      exact ⟨tokens, hholds, hselection⟩
    | false =>
      rw [hhonors] at hconfigure
      obtain rfl := (Prod.mk.inj hconfigure).2
      exact ⟨[], rfl, (Pragma.Selection.withTokens_nil make _).symm⟩
  obtain ⟨tokens, hhonors, rfl⟩ := htokens
  obtain ⟨bundle, hcaps, hheld⟩ := @Pragma.Selection.exists_bundle_withTokens β κ make hmake
    { settings := {}, caps, cache := standing } hkept.2 hkept.1 tokens
  rw [hjob]
  exact ⟨rfl, ⟨path, hpath, hread⟩, tokens, bundle, hhonors, rfl, hcaps, hheld⟩

/-! ### What a job asks of the compiler -/

namespace Command

/-- Whether a command asks for C++, by the ending of its output path. -/
def wantsCpp (command : Command) : Bool :=
  endsWith command.output ".h" || endsWith command.output ".cpp"

/-- The settings that a command compiles with: the defaults with what tokens mean. References to
settings are left in place for C++. -/
def settingsWith (command : Command) (tokens : List Pragma.Token) : Settings :=
  { Settings.withTokens {} tokens with replaceSettings := !command.wantsCpp }

/-- The endings of the paths of a command that is planned. -/
theorem endings_of_plan {command : Command} {kind : ProgramKind} {target : Target}
    (h : command.plan = .ok (kind, target)) :
    ProgramKind.ofPath command.input = .ok kind ∧ Target.ofPath command.output = .ok target :=
  plan_eq_ok_iff.mp h

end Command

/-- A target that overrides the setting for replacing settings turns it off. -/
theorem Target.adjust_of_replaceSettings {settings : Settings}
    (h : settings.replaceSettings = true) (target : Target) :
    target.adjust settings =
      { settings with replaceSettings := !target.permitsInvalidStaticTests } := by
  cases settings
  subst h
  rcases target with ⟨_ | _ | _ | _ | _⟩ | _ <;> rfl

namespace Runner

/-- **What the compiler is given.** Whatever jobs have run before, a compiler is created for the
bundle of the leftmost name in the settings comment of the input, or the standing one; a program is
compiled as the kind that the input path says, from exactly the bytes of the input, with the
defaults changed by the tokens of the comment. What the comment says does not count if the command
ignores it, and an explicit `--settings` makes no difference. All this is so of the journal, and of
what the compiler is asked and answers. -/
theorem run_commissions (runner : Runner β κ) (hmake : runner.makeCaps.GivesBundles)
    (earlier : List (List String)) (files : FileTree) (factory : κ) (compiler : tc.State)
    (workspace : Workspace tc κ)
    (hearlier : (runner.runAll earlier { files, cache := { factory }, compiler }).2 = workspace)
    (args : List String) :
    ((∃ event ∈ (runner.run args workspace).1.journal, event.isCreate = true) →
      ∃ (command : Command) (kind : ProgramKind) (target : Target) (path : FilePath)
        (source : Bytes) (tokens : List Pragma.Token) (bundle : β),
        (args[1]? = some command.input ∧ args[2]? = some command.output ∧
          (command.honorsPragma = false ↔ args[3]? = some "--nosettings")) ∧
        (∃ extension, (extension, kind) ∈ ProgramKind.extensions ∧
          endsWith command.input extension = true) ∧
        endsWith command.output target.ending = true ∧
        (FilePath.ofString? command.input = some path ∧
          workspace.files.read? path = some source) ∧
        command.Honors source tokens ∧
        (runner.makeCaps.Makes (Pragma.bundleName tokens) bundle ∧
          (runner.run args workspace).2.cache.find? (Pragma.bundleName tokens) = some bundle) ∧
        (∀ caps permit, .create caps permit ∈ (runner.run args workspace).1.journal →
          caps = some bundle ∧ permit = command.wantsCpp) ∧
        (∀ other text settings,
          .compile other text settings ∈ (runner.run args workspace).1.journal →
          other = kind ∧ text = source ∧ settings = command.settingsWith tokens) ∧
        (target ≠ .dehydrated →
          ((tc.create (some bundle) command.wantsCpp).answerIn workspace.compiler).1 = .ok () →
          .compile kind source (command.settingsWith tokens) ∈
            (runner.run args workspace).1.journal) ∧
        ∃ job exchanges ending,
          Engages runner args workspace (runner.run args workspace).1.journal target job exchanges
            ending ∧
          (∀ caps permit answer, .create caps permit answer ∈ exchanges →
            caps = some bundle ∧ permit = command.wantsCpp) ∧
          ∀ other text settings answer, .compile other text settings answer ∈ exchanges →
            other = kind ∧ text = source ∧ settings = command.settingsWith tokens) ∧
    ∀ program input output (other : Workspace tc κ),
      runner.run [program, input, output, "--settings"] other =
        runner.run [program, input, output] other := by
  refine ⟨?_, fun _ _ _ _ => rfl⟩
  rintro ⟨event, hevent, -⟩
  obtain ⟨command, kind, target, job, path, sink, hargs, hplan, hprepare, hopens, hreport⟩ :=
    (runner.run_course args workspace).built_of_mem hevent
  have hjournal : (runner.run args workspace).1.journal =
      (build target job workspace.files workspace.compiler).journal := by
    rw [hreport, journal_ofOutcome]
  obtain ⟨hkind, htarget⟩ := Command.endings_of_plan hplan
  obtain ⟨hjobKind, ⟨inputPath, hpath, hread⟩, tokens, bundle, hhonors, hsettings, hcaps, hheld⟩ :=
    prepare_commissions hmake hprepare
  have hpermit : target.permitsInvalidStaticTests = command.wantsCpp :=
    Target.permitsInvalidStaticTests_of_ofPath htarget
  have hadjusted : target.adjust job.settings = command.settingsWith tokens := by
    rw [hsettings, Target.adjust_of_replaceSettings rfl, hpermit]
    rfl
  -- What earlier jobs have left in the cache was made for the names it is held for.
  have hgenuine : (runner.run args workspace).2.cache.Genuine runner.makeCaps := by
    subst hearlier
    exact run_keeps CapsCache.keeps_genuine args
      (runAll_keeps CapsCache.keeps_genuine earlier (CapsCache.genuine_empty factory))
  obtain ⟨-, hsuits⟩ := journal_build target workspace.compiler hopens
  have hcreated : ∀ caps permit, .create caps permit ∈ (runner.run args workspace).1.journal →
      caps = some bundle ∧ permit = command.wantsCpp := by
    intro caps permit hcreate
    rw [hjournal] at hcreate
    obtain ⟨rfl, rfl⟩ := hsuits _ hcreate
    exact ⟨hcaps, hpermit⟩
  have hcompiled : ∀ other text settings,
      .compile other text settings ∈ (runner.run args workspace).1.journal →
      other = kind ∧ text = job.text ∧ settings = command.settingsWith tokens := by
    intro other text settings hcompile
    rw [hjournal] at hcompile
    obtain ⟨rfl, rfl, rfl⟩ := hsuits _ hcompile
    exact ⟨hjobKind, rfl, hadjusted⟩
  refine ⟨command, kind, target, inputPath, job.text, tokens, bundle, Command.ofArgs_eq_ok hargs,
    ProgramKind.ofPath_eq_ok_iff.mp hkind, Target.ofPath_eq_ok_iff.mp htarget, ⟨hpath, hread⟩,
    hhonors, ⟨hgenuine _ _ hheld, hheld⟩, hcreated, hcompiled, ?_, ?_⟩
  · intro hcode hcreate
    cases target with
    | dehydrated => exact absurd rfl hcode
    | code language =>
      have hlanguage : language.isCpp = command.wantsCpp := hpermit
      rw [← hcaps, ← hlanguage] at hcreate
      rw [hjournal, ← hjobKind, ← hadjusted]
      exact compile_mem_journal_build hopens hcreate
  · obtain ⟨other, prepared, exchanges, ending, hengages, -⟩ :=
      (runner.run_course args workspace).engages hevent
    obtain ⟨command', kind', kept, hargs', hplan', -⟩ := hengages.prepared
    obtain rfl : command = command' := Except.ok.inj (hargs.symm.trans hargs')
    obtain ⟨-, rfl⟩ := Prod.mk.inj (Except.ok.inj (hplan.symm.trans hplan'))
    exact ⟨prepared, exchanges, ending, hengages,
      fun caps permit answer hcreate => hcreated caps permit (hengages.mem_journal hcreate),
      fun other text settings answer hcompile =>
        hcompiled other text settings (hengages.mem_journal hcompile)⟩

end Runner

/-- Files with a source whose settings comment selects capabilities and is then refused, and one
whose comment asks for sharpening. -/
def refusedAndSharpened : FileTree :=
  (FileTree.put {} ["refused.frag"] (.regular (utf8 "/*#pragma settings Nonsense Default*/"))).put
    ["sharp.frag"] (.regular (utf8 "/*#pragma settings Sharpen Version110*/ void main() {}"))

/-- The workspace in which the first of these sources has been refused. -/
def afterRefusal : Workspace (.verbatim Caps) Unit :=
  (@Runner.runAll Caps Unit (.verbatim Caps) { makeCaps := .named }
    [["skslc", "refused.frag", "a.cpp"]]
    { files := refusedAndSharpened, cache := { factory := () }, compiler := () }).2

namespace Runner

theorem run_commissions_sharpened :
    CapsFactory.named.GivesBundles ∧
      ∃ event ∈ (@Runner.run Caps Unit (.verbatim Caps) { makeCaps := .named }
          ["skslc", "sharp.frag", "b.cpp"] afterRefusal).1.journal, event.isCreate = true ∧
        ∀ caps permit, event = .create caps permit → permit = true := by
  have hcreates : ∃ event ∈ (@Runner.run Caps Unit (.verbatim Caps) { makeCaps := .named }
      ["skslc", "sharp.frag", "b.cpp"] afterRefusal).1.journal, event.isCreate = true :=
    List.any_eq_true.mp (by decide +kernel)
  obtain ⟨hgiven, -⟩ := @run_commissions Caps Unit (.verbatim Caps) { makeCaps := .named }
    CapsFactory.givesBundles_named [["skslc", "refused.frag", "a.cpp"]] refusedAndSharpened () ()
    afterRefusal rfl ["skslc", "sharp.frag", "b.cpp"]
  obtain ⟨command, _, _, _, _, _, _, ⟨-, houtput, -⟩, -, -, -, -, -, hcreate, -⟩ := hgiven hcreates
  obtain ⟨event, hevent, hcreated⟩ := hcreates
  refine ⟨CapsFactory.givesBundles_named, event, hevent, hcreated, ?_⟩
  rintro caps permit rfl
  have hcpp : command.wantsCpp = true := by
    rw [Command.wantsCpp, ← Option.some.inj houtput]
    decide
  exact (hcreate caps permit hevent).2.trans hcpp

end Runner

end ShaderDriver

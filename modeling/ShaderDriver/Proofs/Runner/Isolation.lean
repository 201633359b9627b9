import ShaderDriver.Proofs.Caps.Faithful
import ShaderDriver.Proofs.Pragma.Passes
import ShaderDriver.Runner
import ShaderDriver.Toolchain.Unavailable

/-!
# ShaderDriver.Proofs.Runner.Isolation

**Jobs do not see each other.** Jobs that share a runner share its cache, and a job leaves bundles
in it even when its settings comment is refused half-way. If the factory gives each name always the
same, that cannot be observed: a cache that holds nothing but what the factory would give is
*faithful*, and faithful caches answer alike (`CapsCache.get_faithful`).

The simulation goes from there upwards. Selections that differ in their faithful caches only stay so
while tokens act on them, hence a source is prepared alike with either, and a job runs alike in
either workspace. By induction, a whole sequence of commands gives step by step what the commands
give one at a time, each with a cache of its own: `runAll_of_faithful`.
-/

namespace ShaderDriver

variable {β κ : Type} {tc : Toolchain β} {make : CapsFactory β κ} {bundle : String → Option β}

/-! ### Settings comments -/

namespace Pragma

variable {selection other : Selection β κ}

/-- The selections differ in their caches only, and both caches are faithful. -/
structure Selection.Alike (bundle : String → Option β) (selection other : Selection β κ) :
    Prop where
  settings : selection.settings = other.settings
  caps : selection.caps = other.caps
  faithful : selection.cache.Faithful bundle
  otherFaithful : other.cache.Faithful bundle

theorem Token.apply_alike (hmake : make.GivesByName bundle) (token : Token)
    (h : selection.Alike bundle other) :
    ∃ after otherAfter, token.apply make selection = (.ok (), after) ∧
      token.apply make other = (.ok (), otherAfter) ∧ after.Alike bundle otherAfter := by
  cases token with
  | tweak change =>
    exact ⟨_, _, rfl, rfl, congrArg change.apply h.settings, h.caps, h.faithful, h.otherFaithful⟩
  | caps name =>
    obtain ⟨kept, hget, hkept⟩ := CapsCache.get_faithful hmake h.faithful name
    obtain ⟨kept', hget', hkept'⟩ := CapsCache.get_faithful hmake h.otherFaithful name
    simp only [Token.apply, hget, hget']
    exact ⟨_, _, rfl, rfl, h.settings, rfl, hkept, hkept'⟩

theorem applyAll_alike (hmake : make.GivesByName bundle) (tokens : List Token)
    (h : selection.Alike bundle other) :
    ∃ after otherAfter, applyAll make tokens selection = (.ok (), after) ∧
      applyAll make tokens other = (.ok (), otherAfter) ∧ after.Alike bundle otherAfter := by
  induction tokens with
  | nil => exact ⟨selection, other, rfl, rfl, h⟩
  | cons token tokens ih =>
    obtain ⟨between, otherBetween, hrest, hotherRest, hbetween⟩ := ih
    obtain ⟨after, otherAfter, hact, hotherAct, hafter⟩ := token.apply_alike hmake hbetween
    refine ⟨after, otherAfter, ?_, ?_, hafter⟩
    · rw [applyAll, hrest]
      exact hact
    · rw [applyAll, hotherRest]
      exact hotherAct

/-- A settings comment is accepted or refused alike, and acts alike even when it is refused. -/
theorem detect_alike (hmake : make.GivesByName bundle) (source : Bytes)
    (h : selection.Alike bundle other) :
    ∃ answer after otherAfter, detect make source selection = (answer, after) ∧
      detect make source other = (answer, otherAfter) ∧ after.Alike bundle otherAfter := by
  simp only [detect, detectWith]
  cases body? source with
  | none => exact ⟨_, selection, other, rfl, rfl, h⟩
  | some body =>
    obtain ⟨after, otherAfter, hact, hotherAct, hafter⟩ :=
      applyAll_alike hmake (peel Token.all body).2 h
    simp only [settle_eq unambiguous_all, hact, hotherAct]
    split
    · exact ⟨_, after, otherAfter, rfl, rfl, hafter⟩
    · exact ⟨_, after, otherAfter, rfl, rfl, hafter⟩

end Pragma

/-! ### Single jobs -/

theorem configure_alike (hmake : make.GivesByName bundle) (honorsPragma : Bool) (source : Bytes)
    {selection other : Pragma.Selection β κ} (h : selection.Alike bundle other) :
    ∃ answer after otherAfter,
      configure make honorsPragma source selection = (answer, after) ∧
      configure make honorsPragma source other = (answer, otherAfter) ∧
      after.Alike bundle otherAfter := by
  cases honorsPragma with
  | true => exact Pragma.detect_alike hmake source h
  | false => exact ⟨.ok (), selection, other, rfl, rfl, h⟩

/-- The same job is prepared with either cache, or the same is wrong with it. -/
theorem prepare_alike (hmake : make.GivesByName bundle) {cache other : CapsCache β κ}
    (h : cache.Faithful bundle) (hother : other.Faithful bundle) (command : Command)
    (kind : ProgramKind) (files : FileTree) :
    ∃ answer kept otherKept, prepare make command kind files cache = (answer, kept) ∧
      prepare make command kind files other = (answer, otherKept) ∧
      kept.Faithful bundle ∧ otherKept.Faithful bundle := by
  simp only [prepare]
  cases readSource files command.input with
  | error stop => exact ⟨_, cache, other, rfl, rfl, h, hother⟩
  | ok text =>
    obtain ⟨kept, hget, hkept⟩ := CapsCache.get_faithful hmake h CapsCache.standaloneName
    obtain ⟨otherKept, hget', hkept'⟩ :=
      CapsCache.get_faithful hmake hother CapsCache.standaloneName
    simp only [CapsCache.standalone, hget, hget']
    have hstart : Pragma.Selection.Alike bundle
        { settings := {}, caps := bundle CapsCache.standaloneName, cache := kept }
        { settings := {}, caps := bundle CapsCache.standaloneName, cache := otherKept } :=
      ⟨rfl, rfl, hkept, hkept'⟩
    obtain ⟨answer, after, otherAfter, hconfigure, hconfigure', hafter⟩ :=
      configure_alike hmake command.honorsPragma text hstart
    rw [hconfigure, hconfigure']
    cases answer with
    | error stop => exact ⟨_, _, _, rfl, rfl, hafter.faithful, hafter.otherFaithful⟩
    | ok =>
      -- The job holds what the selections have in common.
      simp only [hafter.settings, hafter.caps]
      exact ⟨_, _, _, rfl, rfl, hafter.faithful, hafter.otherFaithful⟩

/-- The workspaces differ in their caches only, and both caches are faithful. -/
structure Workspace.Alike (bundle : String → Option β) (workspace other : Workspace tc κ) :
    Prop where
  files : workspace.files = other.files
  compiler : workspace.compiler = other.compiler
  faithful : workspace.cache.Faithful bundle
  otherFaithful : other.cache.Faithful bundle

namespace Runner

variable {runner : Runner β κ}

theorem execute_alike (hmake : runner.makeCaps.GivesByName bundle)
    {workspace other : Workspace tc κ} (h : workspace.Alike bundle other) (command : Command) :
    ∃ report after otherAfter, runner.execute command workspace = (report, after) ∧
      runner.execute command other = (report, otherAfter) ∧ after.Alike bundle otherAfter := by
  simp only [execute_eq]
  cases command.plan with
  | error failure => exact ⟨_, workspace, other, rfl, rfl, h⟩
  | ok plan =>
    obtain ⟨kind, target⟩ := plan
    obtain ⟨answer, kept, otherKept, hprepare, hprepare', hkept, hkept'⟩ :=
      prepare_alike hmake h.faithful h.otherFaithful command kind other.files
    simp only [h.files, h.compiler, hprepare, hprepare']
    cases answer with
    | error stop => exact ⟨_, _, _, rfl, rfl, rfl, rfl, hkept, hkept'⟩
    | ok job => exact ⟨_, _, _, rfl, rfl, rfl, rfl, hkept, hkept'⟩

/-- A command does the same in either workspace, and leaves them alike. -/
theorem run_alike (hmake : runner.makeCaps.GivesByName bundle) {workspace other : Workspace tc κ}
    (h : workspace.Alike bundle other) (args : List String) :
    ∃ report after otherAfter, runner.run args workspace = (report, after) ∧
      runner.run args other = (report, otherAfter) ∧ after.Alike bundle otherAfter := by
  simp only [run_eq]
  cases Command.ofArgs args with
  | error refusal => exact ⟨_, workspace, other, rfl, rfl, h⟩
  | ok command => exact execute_alike hmake h command

end Runner

/-! ### Sequences of jobs -/

/-- Runs the commands in argument lists one after the other, whatever they end in. The answer is
what is seen of each job, and the files it leaves. -/
def Runner.runAll (runner : Runner β κ) :
    List (List String) → Workspace tc κ → List (JobReport tc × FileTree) × Workspace tc κ
  | [], workspace => ([], workspace)
  | args :: commands, workspace =>
    let (report, after) := runner.run args workspace
    let (steps, last) := runner.runAll commands after
    ((report, after.files) :: steps, last)

/-- Processes the commands in argument lists by themselves, each with an empty cache whose factory
starts in the state given for it. Only the files and the compiler go on from one to the next. -/
def processEach (make : CapsFactory β κ) :
    List (List String × κ) → FileTree → tc.State → List (JobReport tc × FileTree)
  | [], _, _ => []
  | (args, factory) :: commands, files, compiler =>
    let (report, after) := processCommand make args { files, cache := { factory }, compiler }
    (report, after.files) :: processEach make commands after.files after.compiler

/-- From a faithful cache, a shared runner takes the steps that separate ones take, and its cache
stays faithful. -/
theorem runAll_of_faithful (hmake : make.GivesByName bundle) (commands : List (List String × κ))
    {workspace : Workspace tc κ} (h : workspace.cache.Faithful bundle) :
    (Runner.runAll { makeCaps := make } (commands.map Prod.fst) workspace).1 =
        processEach make commands workspace.files workspace.compiler ∧
      (Runner.runAll { makeCaps := make } (commands.map Prod.fst)
        workspace).2.cache.Faithful bundle := by
  induction commands generalizing workspace with
  | nil => exact ⟨rfl, h⟩
  | cons command commands ih =>
    obtain ⟨args, factory⟩ := command
    have halike : workspace.Alike bundle
        { files := workspace.files, cache := { factory }, compiler := workspace.compiler } :=
      ⟨rfl, rfl, h, CapsCache.faithful_empty factory⟩
    have hrunner : ({ makeCaps := make } : Runner β κ).makeCaps.GivesByName bundle := hmake
    obtain ⟨report, after, otherAfter, hrun, hrun', hafter⟩ :=
      Runner.run_alike hrunner halike args
    obtain ⟨hsteps, hfaithful⟩ := ih hafter.faithful
    simp only [List.map_cons, Runner.runAll, processEach, processCommand, hrun, hrun']
    rw [hsteps, hafter.files, hafter.compiler]
    exact ⟨rfl, hfaithful⟩

/-- **Jobs are isolated.** If the factory gives each name always the same, then what is seen of the
commands that share a runner and its cache is, step by step, what is seen of them when each is
processed with a cache of its own; and what they have left in the shared cache has no influence on
how any job is prepared. -/
theorem runAll_eq_processEach (hmake : make.GivesByName bundle)
    (commands : List (List String × κ)) (shared : κ) (files : FileTree) (compiler : tc.State) :
    (Runner.runAll { makeCaps := make } (commands.map Prod.fst)
        { files, cache := { factory := shared }, compiler }).1 =
      processEach make commands files compiler ∧
    ∀ command kind elsewhere (fresh : κ),
      (prepare make command kind elsewhere
        (Runner.runAll { makeCaps := make } (commands.map Prod.fst)
          ({ files, cache := { factory := shared }, compiler } : Workspace tc κ)).2.cache).1 =
      (prepare make command kind elsewhere { factory := fresh }).1 := by
  let start : Workspace tc κ := { files, cache := { factory := shared }, compiler }
  have hstart : start.cache.Faithful bundle := CapsCache.faithful_empty shared
  obtain ⟨hsteps, hfaithful⟩ := runAll_of_faithful hmake commands hstart
  refine ⟨hsteps, ?_⟩
  intro command kind elsewhere fresh
  obtain ⟨answer, kept, otherKept, hprepare, hprepare', -⟩ :=
    prepare_alike hmake hfaithful (CapsCache.faithful_empty fresh) command kind elsewhere
  rw [hprepare, hprepare']

/-- Files with a source whose settings comment selects capabilities and is then refused, and one
without a comment. -/
def refusedAndPlain : FileTree :=
  (FileTree.put {} ["refused.frag"] (.regular (utf8 "/*#pragma settings Nonsense Default*/"))).put
    ["plain.frag"] (.regular (utf8 "void main() {}"))

theorem runAll_eq_processEach_named :
    CapsFactory.named.GivesByName (fun name => some ⟨name⟩) ∧
      (@Runner.runAll Caps Unit (.unavailable Caps) { makeCaps := .named }
          [["skslc", "refused.frag", "a.glsl"], ["skslc", "plain.frag", "b.glsl"]]
          { files := refusedAndPlain, cache := { factory := () }, compiler := none }).1 =
        @processEach Caps Unit (.unavailable Caps) .named
          [(["skslc", "refused.frag", "a.glsl"], ()), (["skslc", "plain.frag", "b.glsl"], ())]
          refusedAndPlain none := by
  have hnamed : CapsFactory.named.GivesByName (fun name => some ⟨name⟩) := fun _ _ => rfl
  have hisolated := @runAll_eq_processEach Caps Unit (.unavailable Caps) _ _ hnamed
    [(["skslc", "refused.frag", "a.glsl"], ()), (["skslc", "plain.frag", "b.glsl"], ())]
    () refusedAndPlain none
  exact ⟨hnamed, hisolated.1⟩

end ShaderDriver

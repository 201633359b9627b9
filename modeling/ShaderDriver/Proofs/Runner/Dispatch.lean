import ShaderDriver.Proofs.Runner.Course
import ShaderDriver.Proofs.Runner.Isolation

/-!
# ShaderDriver.Proofs.Runner.Dispatch

**No job mistakes its source for its output.** Opening an output empties it, so a command whose two
paths lead to one file would destroy its source. Such paths have the same endings, and there is just
one ending that is known both of an input and of an output, that of a dehydrated module
(`Command.plan_of_same_endings`). Every other command of this kind is refused by the endings of its
paths alone, before anything is read or opened.
-/

namespace ShaderDriver

variable {β κ : Type} {tc : Toolchain β}

/-- The kind of program in a file depends on the endings of the path only. -/
theorem ProgramKind.ofPath_congr {path other : String}
    (h : ∀ entry ∈ extensions, endsWith path entry.1 = endsWith other entry.1)
    {kind : ProgramKind} : ofPath path = .ok kind ↔ ofPath other = .ok kind := by
  rw [ofPath_eq_ok_iff, ofPath_eq_ok_iff]
  exact exists_congr fun extension => and_congr_right fun hmem => by rw [h _ hmem]

namespace Command

variable {command : Command}

/-- A command whose paths have the same endings is planned exactly if they are those of a dehydrated
module. -/
theorem plan_of_same_endings
    (hends : ∀ ending : String, '/' ∉ ending.toList →
      endsWith command.input ending = endsWith command.output ending)
    {kind : ProgramKind} {target : Target} :
    command.plan = .ok (kind, target) ↔
      endsWith command.output ".dehydrated.sksl" = true ∧ kind = .fragment ∧
        target = .dehydrated := by
  have hslashless : ∀ entry ∈ ProgramKind.extensions, '/' ∉ entry.1.toList := by decide
  rw [plan_eq_ok_iff, ← ofPath_eq_ok_and_iff,
    ProgramKind.ofPath_congr fun entry hentry => hends entry.1 (hslashless entry hentry)]

/-- Two paths that are equal or lead to one file have the same endings. -/
theorem same_endings_of_same_file
    (hsame : command.input = command.output ∨
      ∃ location, Location.ofPath? command.input = some location ∧
        Location.ofPath? command.output = some location)
    (ending : String) (hending : '/' ∉ ending.toList) :
    endsWith command.input ending = endsWith command.output ending := by
  obtain hpath | ⟨location, hinput, houtput⟩ := hsame
  · rw [hpath]
  · exact endsWith_eq_of_ofPath? hinput houtput hending

end Command

namespace Runner

/-- A command that is not planned has done nothing. -/
theorem run_of_unplanned (runner : Runner β κ) {args : List String} {command : Command}
    {failure : Failure} (hargs : Command.ofArgs args = .ok command)
    (hplan : command.plan = .error failure) (workspace : Workspace tc κ) :
    runner.run args workspace =
      ({ outcome := .ok .inputError, printed := closeLine failure.message, journal := [] },
        workspace) := by
  simp only [run_eq, hargs, execute_eq, hplan, JobReport.ofOutcome, Command.resultCode_of_plan hplan,
    Failure.text_report, List.nil_append]

/-- **What a path is for is unambiguous, and sources are safe.** The order in which the tables are
tried makes no difference, since at most one entry of each matches a path; a path is refused by a
table exactly if none does. A path is accepted by both tables exactly if it ends in
`.dehydrated.sksl`. So a command whose input and output are one path, or lead to one file, is planned
in this case only, as the dehydration of a module; in every other case it ends in an input error and
has done nothing. -/
theorem dispatch_unambiguous (path : String) :
    ((∀ table : List (String × ProgramKind), table.Perm ProgramKind.extensions →
        ProgramKind.ofPathWith table path = ProgramKind.ofPath path) ∧
      ∀ table : List Target, table.Perm Target.all →
        Target.ofPathWith table path = Target.ofPath path) ∧
    ((∀ entry ∈ ProgramKind.extensions, ∀ other ∈ ProgramKind.extensions,
        endsWith path entry.1 = true → endsWith path other.1 = true → entry = other) ∧
      ∀ target ∈ Target.all, ∀ other ∈ Target.all,
        endsWith path target.ending = true → endsWith path other.ending = true →
          target = other) ∧
    ((∀ failure, ProgramKind.ofPath path = .error failure ↔
        failure = .unknownKind ∧
          ∀ entry ∈ ProgramKind.extensions, endsWith path entry.1 = false) ∧
      (∀ failure, Target.ofPath path = .error failure ↔
        failure = .unknownTarget ∧ ∀ target : Target, endsWith path target.ending = false) ∧
      Failure.unknownKind.category = .input ∧ Failure.unknownTarget.category = .input) ∧
    ((∃ kind target, ProgramKind.ofPath path = .ok kind ∧ Target.ofPath path = .ok target) ↔
      endsWith path ".dehydrated.sksl" = true) ∧
    ∀ (command : Command), command.output = path →
      (command.input = path ∨
        ∃ location, Location.ofPath? command.input = some location ∧
          Location.ofPath? path = some location) →
      (∀ kind target, command.plan = .ok (kind, target) ↔
        endsWith path ".dehydrated.sksl" = true ∧ kind = .fragment ∧ target = .dehydrated) ∧
      (endsWith path ".dehydrated.sksl" = false →
        ∃ failure, command.plan = .error failure ∧ failure.category = .input ∧
          ∀ (runner : Runner β κ) (args : List String) (workspace : Workspace tc κ),
            Command.ofArgs args = .ok command →
              runner.run args workspace =
                ({ outcome := .ok .inputError, printed := closeLine failure.message
                   journal := [] }, workspace)) := by
  refine ⟨⟨?_, ?_⟩, ⟨?_, ?_⟩, ⟨?_, ?_, rfl, rfl⟩, ?_, ?_⟩
  · exact fun _ hperm => ProgramKind.ofPathWith_of_perm hperm path
  · exact fun _ hperm => Target.ofPathWith_of_perm hperm path
  · exact fun _ hentry _ hother => eq_of_endsWith ProgramKind.extensions_distinct hentry hother
  · exact fun _ htarget _ hother => eq_of_endsWith Target.endings_distinct htarget hother
  · exact fun _ => ProgramKind.ofPath_eq_error_iff
  · exact fun _ => Target.ofPath_eq_error_iff
  · simp only [ofPath_eq_ok_and_iff, exists_eq_right, exists_and_left]
  · rintro command rfl hsame
    have hplanned (kind : ProgramKind) (target : Target) := @Command.plan_of_same_endings command
      (Command.same_endings_of_same_file hsame) kind target
    refine ⟨hplanned, fun hends => ?_⟩
    cases hplan : command.plan with
    | ok plan =>
      obtain ⟨kind, target⟩ := plan
      have hdehydrated := ((hplanned kind target).mp hplan).1
      rw [hends] at hdehydrated
      cases hdehydrated
    | error failure =>
      exact ⟨failure, rfl, Command.category_of_plan hplan,
        fun runner _ workspace hargs => runner.run_of_unplanned hargs hplan workspace⟩

/-- The tables backwards, and a command whose input and output are two paths of one file. -/
theorem dispatch_unambiguous_source :
    ProgramKind.ofPathWith ProgramKind.extensions.reverse "a.dehydrated.sksl" = .ok .fragment ∧
    Target.ofPathWith Target.all.reverse "a.dehydrated.sksl" = .ok .dehydrated ∧
    Location.ofPath? "./plain.frag" = Location.ofPath? "plain.frag" ∧
    (@run Caps Unit (.unavailable Caps) { makeCaps := .named }
        ["skslc", "./plain.frag", "plain.frag"]
        { files := refusedAndPlain, cache := { factory := () }, compiler := none }).2.files =
      refusedAndPlain := by
  obtain ⟨⟨hkind, htarget⟩, -⟩ :=
    @dispatch_unambiguous Caps Unit (.unavailable Caps) "a.dehydrated.sksl"
  obtain ⟨-, -, -, -, hsame⟩ := @dispatch_unambiguous Caps Unit (.unavailable Caps) "plain.frag"
  have hfile : Location.ofPath? "./plain.frag" = Location.ofPath? "plain.frag" := by decide
  obtain ⟨-, hrefused⟩ := hsame ⟨"./plain.frag", "plain.frag", true⟩ rfl
    (.inr ⟨["plain.frag"], by decide, by decide⟩)
  obtain ⟨failure, -, -, hrun⟩ := hrefused (by decide)
  refine ⟨?_, ?_, hfile, ?_⟩
  · rw [hkind _ (List.reverse_perm _)]
    rfl
  · rw [htarget _ (List.reverse_perm _)]
    rfl
  · rw [hrun _ _ _ rfl]

end Runner

end ShaderDriver

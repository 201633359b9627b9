import ShaderDriver.Batch.Split

/-!
# ShaderDriver.Proofs.Batch.Segments

**Splitting a command line neither loses nor invents arguments.** The arguments up to the first
delimiter are a segment unless there are none, and what stands behind it is split on its own. Facts
about segments are proved along this cut (`cut_induction`).

* `segments_append`: any delimiter may be taken for the cut.
* `segments_joined`: segments come back from a command line on which they are separated by
  delimiters, however many.
* `split_eq_gathered`: one pass over the arguments is enough for finding the jobs.
-/

namespace ShaderDriver.Batch

/-! ### Cutting at delimiters -/

/-- A command line either holds no delimiter, or it is cut at its first one. -/
theorem cut_induction {motive : List String → Prop}
    (uncut : ∀ args, delimiter ∉ args → motive args)
    (cut : ∀ first rest, delimiter ∉ first → motive rest → motive (first ++ delimiter :: rest))
    (args : List String) : motive args := by
  induction hlength : args.length using Nat.strongRecOn generalizing args with
  | _ length ih =>
    by_cases h : delimiter ∈ args
    · obtain ⟨first, rest, rfl, hfirst⟩ := List.eq_append_cons_of_mem h
      refine cut first rest hfirst (ih rest.length ?_ rest rfl)
      simp only [List.length_append, List.length_cons] at hlength
      omega
    · exact uncut args h

/-- Arguments without a delimiter are one segment, if there are any. -/
theorem segments_of_notMem {args : List String} (h : delimiter ∉ args) :
    segments args = if args = [] then [] else [args] := by
  rw [segments, List.splitOn_eq_singleton h]
  cases args <;> rfl

theorem segments_of_ne_nil {args : List String} (h : delimiter ∉ args) (hne : args ≠ []) :
    segments args = [args] := by
  rw [segments_of_notMem h, if_neg hne]

/-- A delimiter separates what stands in front of it from what stands behind. -/
theorem segments_append (first rest : List String) :
    segments (first ++ delimiter :: rest) = segments first ++ segments rest := by
  rw [segments, List.splitOn_append_cons_self, List.filter_append]
  rfl

theorem segments_delimiter_cons (args : List String) :
    segments (delimiter :: args) = segments args :=
  segments_append [] args

/-- A segment is not empty and holds no delimiter. -/
theorem ne_nil_and_notMem_of_mem_segments {args segment : List String}
    (h : segment ∈ segments args) : segment ≠ [] ∧ delimiter ∉ segment := by
  have huncut : ∀ args, delimiter ∉ args → segment ∈ segments args →
      segment ≠ [] ∧ delimiter ∉ segment := by
    intro args hargs hsegment
    rw [segments_of_notMem hargs] at hsegment
    split at hsegment
    · cases hsegment
    · rename_i hne
      rw [List.mem_singleton.mp hsegment]
      exact ⟨hne, hargs⟩
  induction args using cut_induction with
  | uncut args hargs => exact huncut args hargs h
  | cut first rest hfirst ih =>
    rw [segments_append, List.mem_append] at h
    exact h.elim (huncut first hfirst) ih

/-- The segments of a command line are its arguments without the delimiters. -/
theorem flatten_segments (args : List String) :
    (segments args).flatten = args.filter (· ≠ delimiter) := by
  have huncut : ∀ args, delimiter ∉ args →
      (segments args).flatten = args.filter (· ≠ delimiter) := by
    intro args hargs
    have hkept : args.filter (· ≠ delimiter) = args := by
      rw [List.filter_eq_self]
      intro arg harg
      have hne : arg ≠ delimiter := fun heq => hargs (heq ▸ harg)
      simpa using hne
    rw [segments_of_notMem hargs, hkept]
    split <;> simp_all
  induction args using cut_induction with
  | uncut args hargs => exact huncut args hargs
  | cut first rest hfirst ih =>
    rw [segments_append, List.flatten_append, huncut first hfirst, ih, List.filter_append,
      List.filter_cons_of_neg (by simp)]

/-- There is a job wherever there is an argument beside the delimiters. -/
theorem split_ne_nil {argv : List String} (h : ∃ arg ∈ argv.tail, arg ≠ delimiter) :
    split argv ≠ [] := by
  obtain ⟨arg, harg, hne⟩ := h
  cases argv with
  | nil => cases harg
  | cons program args =>
    have hkept : arg ∈ (segments args).flatten := by
      rw [flatten_segments]
      exact List.mem_filter.mpr ⟨harg, by simpa using hne⟩
    intro hsplit
    rw [List.map_eq_nil_iff.mp hsplit] at hkept
    cases hkept

/-! ### Joining segments -/

/-- Some delimiters in a row. -/
def delimiters (count : Nat) : List String := List.replicate count delimiter

/-- Segments written one behind the other. With each is given how many delimiters follow it beyond
those that are needed, which is one between a segment and the next. -/
def joined : List (List String × Nat) → List String
  | [] => []
  | [(segment, extra)] => segment ++ delimiters extra
  | (segment, extra) :: next :: rest =>
    segment ++ delimiters (extra + 1) ++ joined (next :: rest)

/-- Without extra delimiters, segments are joined by single ones. -/
theorem joined_exact (segments : List (List String)) :
    joined (segments.map (·, 0)) = [delimiter].intercalate segments := by
  induction segments with
  | nil => rfl
  | cons first rest ih =>
    cases rest with
    | nil => simp [joined, delimiters]
    | cons next rest =>
      rw [List.intercalate_cons_cons, ← ih]
      rfl

theorem segments_delimiters_append (count : Nat) (args : List String) :
    segments (delimiters count ++ args) = segments args := by
  induction count with
  | zero => rfl
  | succ count ih => exact (segments_delimiter_cons _).trans ih

theorem segments_append_delimiters (first : List String) (count : Nat) (rest : List String) :
    segments (first ++ delimiters (count + 1) ++ rest) = segments first ++ segments rest := by
  rw [List.append_assoc]
  refine (segments_append first (delimiters count ++ rest)).trans ?_
  rw [segments_delimiters_append]

/-- Segments come back from a command line on which they are joined by delimiters. -/
theorem segments_joined {spaced : List (List String × Nat)}
    (h : ∀ entry ∈ spaced, entry.1 ≠ [] ∧ delimiter ∉ entry.1) :
    segments (joined spaced) = spaced.map Prod.fst := by
  induction spaced using joined.induct with
  | case1 => rfl
  | case2 segment extra =>
    obtain ⟨hne, hnotMem⟩ := h _ List.mem_cons_self
    rw [joined]
    cases extra with
    | zero => simpa [delimiters] using segments_of_ne_nil hnotMem hne
    | succ extra =>
      have htrailing := segments_append_delimiters segment extra []
      rw [List.append_nil] at htrailing
      rw [htrailing, segments_of_ne_nil hnotMem hne]
      rfl
  | case3 segment extra next rest ih =>
    obtain ⟨hne, hnotMem⟩ := h _ List.mem_cons_self
    rw [joined, segments_append_delimiters, segments_of_ne_nil hnotMem hne,
      ih fun entry hentry => h entry (List.mem_cons_of_mem _ hentry)]
    rfl

/-! ### Jobs -/

theorem split_cons (program : String) (args : List String) :
    split (program :: args) = (segments args).map (program :: ·) := rfl

/-- What stands behind a delimiter makes jobs of its own. -/
theorem split_append (program : String) (first rest : List String) :
    split (program :: (first ++ delimiter :: rest)) =
      split (program :: first) ++ split (program :: rest) := by
  simp only [split_cons, segments_append, List.map_append]

/-- The arguments of a job stand on the command line. -/
theorem subset_of_mem_split {argv args : List String} (h : args ∈ split argv) : args ⊆ argv := by
  cases argv with
  | nil => cases h
  | cons program rest =>
    obtain ⟨segment, hsegment, rfl⟩ := List.mem_map.mp h
    refine List.cons_subset_cons program fun arg harg => ?_
    have hflat : arg ∈ (segments rest).flatten := List.mem_flatten_of_mem hsegment harg
    rw [flatten_segments] at hflat
    exact (List.mem_filter.mp hflat).1

/-- Takes one argument: jobs that are complete, and the one that is being put together, which has
at least the name of the program. -/
def gather (program : String) (jobs : List (List String) × List String) (arg : String) :
    List (List String) × List String :=
  if arg ≠ delimiter then (jobs.1, jobs.2 ++ [arg])
  else if 1 < jobs.2.length then (jobs.1 ++ [jobs.2], [program])
  else jobs

/-- The jobs that have been gathered, with the last one if it is any. -/
def gathered (jobs : List (List String) × List String) : List (List String) :=
  if 1 < jobs.2.length then jobs.1 ++ [jobs.2] else jobs.1

theorem foldl_gather_of_notMem {args : List String} (program : String) (h : delimiter ∉ args)
    (complete : List (List String)) (current : List String) :
    args.foldl (gather program) (complete, current) = (complete, current ++ args) := by
  induction args generalizing current with
  | nil => simp
  | cons arg args ih =>
    obtain ⟨hne, hrest⟩ : delimiter ≠ arg ∧ delimiter ∉ args := by simpa using h
    rw [List.foldl_cons, gather, if_pos (Ne.symm hne), ih hrest]
    simp

/-- One pass over the arguments finds the jobs. -/
theorem split_eq_gathered (program : String) (args : List String) :
    split (program :: args) = gathered (args.foldl (gather program) ([], [program])) := by
  -- The induction needs the jobs that were complete before.
  suffices ∀ complete, complete ++ split (program :: args) =
      gathered (args.foldl (gather program) (complete, [program])) from this []
  induction args using cut_induction with
  | uncut args hargs =>
    intro complete
    rw [foldl_gather_of_notMem program hargs, split_cons, segments_of_notMem hargs, gathered]
    cases args <;> simp
  | cut first rest hfirst ih =>
    intro complete
    rw [List.foldl_append, foldl_gather_of_notMem program hfirst, List.foldl_cons, split_append,
      split_cons program first, segments_of_notMem hfirst, ← List.append_assoc]
    cases first with
    | nil => simpa [gather] using ih complete
    | cons arg first => simpa [gather] using ih (complete ++ [program :: arg :: first])

/-- **Splitting a command line neither loses nor invents arguments.** Without arguments there is no
job, and arguments without a delimiter are one job. A delimiter splits a command line in two, each
with its own jobs. A job is the program with at least one argument and no delimiter; the arguments of
all jobs, in order, are those of the command line but for the delimiters. The other way round, any
segments come back from a command line on which they are joined by delimiters, with any number of
further delimiters in front, between and behind them. -/
theorem split_keeps_arguments (program : String) :
    split [program] = [] ∧
    (∀ args, args ≠ [] → delimiter ∉ args → split (program :: args) = [program :: args]) ∧
    (∀ first rest, split (program :: (first ++ [delimiter] ++ rest)) =
      split (program :: first) ++ split (program :: rest)) ∧
    (∀ args, ∀ job ∈ split (program :: args),
      ∃ arguments, job = program :: arguments ∧ arguments ≠ [] ∧ delimiter ∉ arguments) ∧
    (∀ args, (split (program :: args)).flatMap List.tail = args.filter (· ≠ delimiter)) ∧
    ∀ lead spaced, (∀ entry ∈ spaced, entry.1 ≠ [] ∧ delimiter ∉ entry.1) →
      split (program :: (delimiters lead ++ joined spaced)) =
        (spaced.map Prod.fst).map (program :: ·) := by
  refine ⟨rfl, ?_, ?_, ?_, ?_, ?_⟩
  · intro args hne hnotMem
    rw [split_cons, segments_of_ne_nil hnotMem hne]
    rfl
  · intro first rest
    rw [List.append_assoc]
    exact split_append program first rest
  · intro args job hjob
    obtain ⟨segment, hsegment, rfl⟩ := List.mem_map.mp hjob
    exact ⟨segment, rfl, ne_nil_and_notMem_of_mem_segments hsegment⟩
  · intro args
    rw [split_cons, List.flatMap_map, ← flatten_segments]
    show (segments args).flatMap id = (segments args).flatten
    rw [List.flatMap_id]
  · intro lead spaced hspaced
    rw [split_cons, segments_delimiters_append, segments_joined hspaced]

/-- A program that is itself called like the delimiter, with delimiters all around its jobs. -/
theorem split_keeps_arguments_spaced :
    split ["--", "b.frag", "b.metal"] = [["--", "b.frag", "b.metal"]] ∧
      split ["--", "--", "a.vert", "a.glsl", "--", "--", "b.frag", "b.metal", "--"] =
        [["--", "a.vert", "a.glsl"], ["--", "b.frag", "b.metal"]] := by
  obtain ⟨-, hsingle, -, -, -, hjoined⟩ := split_keeps_arguments "--"
  exact ⟨hsingle ["b.frag", "b.metal"] (by decide) (by decide),
    hjoined 1 [(["a.vert", "a.glsl"], 1), (["b.frag", "b.metal"], 1)] (by decide)⟩

end ShaderDriver.Batch

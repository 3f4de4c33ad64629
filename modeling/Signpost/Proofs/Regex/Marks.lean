import Mathlib.Data.List.Forall2
import Signpost.Regex.Match

/-!
# Marks

The marks of a run are those of groups that its expression can capture, and which groups they are is
all that depends on the number of the first group. Both follow from one fact: the tables of one
expression for two first groups hold the same runs, mark for mark.
-/
namespace Signpost.Regex

theorem Expr.captures_shift (expr : Expr) (next more : Nat) :
    expr.captures (next + more) = (expr.captures next).map fun capture => (capture.1 + more, capture.2) := by
  induction expr generalizing next with
  | empty => rfl
  | chars set => rfl
  | assertion condition => rfl
  | group name body ih =>
    rw [captures, captures, List.map_cons, ← ih (next + 1), Nat.add_right_comm]
  | seq first second ih ih' | either first second ih ih' =>
    rw [captures, captures, List.map_append, ← ih next, ← ih' (next + first.groups),
      Nat.add_right_comm]
  | repeated body low high greedy ih =>
    rw [captures, captures]
    -- a repetition that never happens captures nothing
    split
    · rfl
    · exact ih next

/-- The numbers of the groups of an expression lie next to one another. -/
theorem Expr.captures_bounds {expr : Expr} {next : Nat} :
    ∀ capture ∈ expr.captures next, next ≤ capture.1 ∧ capture.1 < next + expr.groups := by
  induction expr generalizing next with
  | empty | chars _ | assertion _ => simp [captures]
  | group name body ih =>
    intro capture member
    rw [captures] at member
    rw [groups]
    rcases List.mem_cons.mp member with rfl | inner
    -- the group itself has the first number, and those in it have the following ones
    · exact ⟨Nat.le_refl _, by omega⟩
    · have bounds := ih capture inner
      omega
  | seq first second ih ih' | either first second ih ih' =>
    intro capture member
    rw [captures] at member
    rw [groups]
    rcases List.mem_append.mp member with early | late
    · have bounds := ih capture early
      omega
    · have bounds := ih' capture late
      omega
  | repeated body low high greedy ih =>
    intro capture member
    rw [captures] at member
    split at member
    · cases member
    · exact ih capture member

/-- The groups of an expression are among certain groups. -/
def Expr.Sets (allowed : Nat → Prop) (expr : Expr) (next : Nat) : Prop :=
  ∀ capture ∈ expr.captures next, allowed capture.1

/-- Marks of certain groups only. -/
def Marks.Within (allowed : Nat → Prop) (marks : Marks) : Prop := ∀ mark ∈ marks, allowed mark.1

section

variable {allowed : Nat → Prop} {next : Nat}

@[simp]
theorem Expr.sets_group {name : Option String} {body : Expr} :
    (Expr.group name body).Sets allowed next ↔ allowed next ∧ body.Sets allowed (next + 1) :=
  List.forall_mem_cons

@[simp]
theorem Expr.sets_seq {first second : Expr} :
    (Expr.seq first second).Sets allowed next
      ↔ first.Sets allowed next ∧ second.Sets allowed (next + first.groups) :=
  List.forall_mem_append

@[simp]
theorem Expr.sets_either {first second : Expr} :
    (Expr.either first second).Sets allowed next
      ↔ first.Sets allowed next ∧ second.Sets allowed (next + first.groups) :=
  List.forall_mem_append

theorem Expr.sets_repeated {body : Expr} {low : Nat} {high : Option Nat} {greedy : Bool} :
    (Expr.repeated body low high greedy).Sets allowed next
      ↔ high = some 0 ∨ body.Sets allowed next := by
  rw [Sets, captures]
  split
  next never => simp [never]
  next often => simp [often, Sets]

@[simp]
theorem Marks.within_nil : Marks.Within allowed [] := by
  simp [Within]

@[simp]
theorem Marks.within_cons {mark : Nat × Nat × Nat} {marks : Marks} :
    Marks.Within allowed (mark :: marks) ↔ allowed mark.1 ∧ Marks.Within allowed marks :=
  List.forall_mem_cons

end

/-! ### Loops that are searched -/

/-- A task that sets only certain groups. -/
inductive Task.Within (allowed : Nat → Prop) : Task → Prop
  | part {expr : Expr} {group choice : Nat} (own : expr.Sets allowed group) :
    Within allowed (.part expr group choice)
  | close {group : Nat} (own : allowed group) : Within allowed (.close group)
  | again {body : Expr} {group choice : Nat} {greedy first : Bool} {since : Nat}
    (own : body.Sets allowed group) :
    Within allowed (.again body group choice greedy first since)
  | option {choice : Nat} {greedy : Bool} {inner : List Task}
    (own : ∀ task ∈ inner, Within allowed task) : Within allowed (.option choice greedy inner)

namespace Task.Within

variable {allowed : Nat → Prop}

@[simp]
theorem part_iff {expr : Expr} {group choice : Nat} :
    Within allowed (.part expr group choice) ↔ expr.Sets allowed group :=
  ⟨fun | .part own => own, .part⟩

@[simp]
theorem close_iff {group : Nat} : Within allowed (.close group) ↔ allowed group :=
  ⟨fun | .close own => own, .close⟩

@[simp]
theorem again_iff {body : Expr} {group choice : Nat} {greedy first : Bool} {since : Nat} :
    Within allowed (.again body group choice greedy first since) ↔ body.Sets allowed group :=
  ⟨fun | .again own => own, .again⟩

@[simp]
theorem option_iff {choice : Nat} {greedy : Bool} {inner : List Task} :
    Within allowed (.option choice greedy inner) ↔ ∀ task ∈ inner, Within allowed task :=
  ⟨fun | .option own => own, .option⟩

end Task.Within

theorem beginRepetition_within {allowed : Nat → Prop} {position : Nat} {body : Expr} {low : Nat}
    {high : Option Nat} {greedy : Bool} {group choice : Nat}
    (own : (Expr.repeated body low high greedy).Sets allowed group) :
    ∀ task ∈ beginRepetition position body low high greedy group choice, task.Within allowed := by
  rcases Expr.sets_repeated.mp own with never | inner
  · simp [beginRepetition, never]
  · -- Whatever is left of the counts, the groups are those of the body.
    have fewer (low : Nat) (high : Option Nat) :
        (Expr.repeated body low high greedy).Sets allowed group :=
      Expr.sets_repeated.mpr (.inr inner)
    simp only [beginRepetition]
    split
    · simp
    · split
      · split <;> simp [inner]
      · split <;> simp [inner, fewer]

theorem explore_within {allowed : Nat → Prop} {text : Array Char} {position : Nat}
    {tasks : List Task} {opened : List (Nat × Nat)} {marks : Marks} {choices : Choices}
    (within : ∀ task ∈ tasks, task.Within allowed) (held : marks.Within allowed) :
    ∀ run ∈ (explore text position tasks opened marks choices).1, run.2.Within allowed := by
  fun_induction explore text position tasks opened marks choices
  -- every step replaces the first task by parts of it, which may set no other groups
  all_goals simp only [List.forall_mem_cons, List.forall_mem_append] at *
  case case1 => simpa using held
  case case2 ih =>
    exact ih within.2 (Marks.within_cons.mpr ⟨Task.Within.close_iff.mp within.1, held⟩)
  case case3 next ih =>
    have own := Task.Within.again_iff.mp within.1
    exact ih ⟨.option (by simp [next, own]), within.2⟩ held
  case case4 ih | case9 ih | case10 ih | case13 ih => exact ih within.2 held
  case case5 | case6 | case11 | case12 | case14 | case17 => simp
  case case7 first _ _ second later early =>
    have own := Task.Within.option_iff.mp within.1
    rw [first] at early
    rw [second] at later
    exact ⟨early ⟨own, within.2⟩ held, later within.2 held⟩
  case case8 first _ _ second early later =>
    have own := Task.Within.option_iff.mp within.1
    rw [first] at early
    rw [second] at later
    exact ⟨early within.2 held, later ⟨own, within.2⟩ held⟩
  case case15 ih =>
    have own := Expr.sets_group.mp (Task.Within.part_iff.mp within.1)
    exact ih ⟨.part own.2, .close own.1, within.2⟩ held
  case case16 ih =>
    have own := Expr.sets_seq.mp (Task.Within.part_iff.mp within.1)
    exact ih ⟨.part own.1, .part own.2, within.2⟩ held
  case case18 first _ _ second early later =>
    have own := Expr.sets_either.mp (Task.Within.part_iff.mp within.1)
    rw [first] at early
    rw [second] at later
    exact ⟨early ⟨.part own.1, within.2⟩ held, later ⟨.part own.2, within.2⟩ held⟩
  case case19 ih =>
    exact ih ⟨beginRepetition_within (Task.Within.part_iff.mp within.1), within.2⟩ held

/-! ### Runs side by side -/

/-- Lists of runs with the same ends in the same order, and with related marks. -/
def Alike (related : Marks → Marks → Prop) (runs others : List MatchRun) : Prop :=
  List.Forall₂ (fun run other => run.1 = other.1 ∧ related run.2 other.2) runs others

/-- A relation between marks that can be put together. -/
structure Stacks (related : Marks → Marks → Prop) : Prop where
  nothing : related [] []
  append : ∀ {marks others more further : Marks}, related marks others → related more further →
    related (marks ++ more) (others ++ further)

section

variable {related : Marks → Marks → Prop} {runs others more further : List MatchRun}

theorem keepFirst_alike (alike : Alike related runs others) (seen : Nat) :
    Alike related (keepFirst seen runs) (keepFirst seen others) := by
  induction alike generalizing seen with
  | nil => exact .nil
  | @cons run other _ _ here _ ih =>
    obtain ⟨stop, marks⟩ := run
    obtain ⟨_, marks'⟩ := other
    obtain ⟨rfl, same⟩ := here
    rw [keepFirst, keepFirst]
    split
    · exact ih seen
    · exact .cons ⟨rfl, same⟩ (ih _)

theorem append_alike (alike : Alike related runs others) (behind : Alike related more further) :
    Alike related (runs ++ more) (others ++ further) :=
  List.rel_append alike behind

/-- Going on from every run with related continuations. -/
theorem flatMap_alike {next next' : MatchRun → List MatchRun} (alike : Alike related runs others)
    (each : ∀ stop marks marks', related marks marks' →
      Alike related (next (stop, marks)) (next' (stop, marks'))) :
    Alike related (runs.flatMap next) (others.flatMap next') := by
  induction alike with
  | nil => exact .nil
  | @cons run other _ _ here _ ih =>
    obtain ⟨stop, marks⟩ := run
    obtain ⟨_, marks'⟩ := other
    obtain ⟨rfl, same⟩ := here
    rw [List.flatMap_cons, List.flatMap_cons]
    exact append_alike (each stop marks marks' same) ih

theorem extend_alike (stacking : Stacks related) {next next' : Nat → List MatchRun}
    (alike : Alike related runs others) (each : ∀ stop, Alike related (next stop) (next' stop)) :
    Alike related (extend runs next) (extend others next') := by
  refine keepFirst_alike (flatMap_alike alike ?_) 0
  intro stop marks marks' same
  exact List.rel_map (fun _ _ pair => ⟨pair.1, stacking.append pair.2 same⟩) (each stop)

theorem prefer_alike (greedy : Bool) (alike : Alike related runs others)
    (behind : Alike related more further) :
    Alike related (prefer greedy runs more) (prefer greedy others further) := by
  refine keepFirst_alike ?_ 0
  cases greedy with
  | false => exact append_alike behind alike
  | true => exact append_alike alike behind

end

namespace Table

/-- Tables with the same runs but for their marks. -/
def Alike (related : Marks → Marks → Prop) (table other : Table) : Prop :=
  ∀ start, Regex.Alike related (table.runs start) (other.runs start)

theorem runs_build (size : Nat) (entry : Nat → List MatchRun) (start : Nat) :
    (build size entry).runs start = if start ≤ size then entry start else [] := by
  rw [runs, build, Array.getElem?_ofFn]
  by_cases inside : start ≤ size
  · rw [dif_pos (Nat.lt_succ_of_le inside), if_pos inside]
    rfl
  · rw [dif_neg (fun below => inside (Nat.le_of_lt_succ below)), if_neg inside]

/-- The entries of a loop are entries of its table. -/
theorem loopEntry_eq (body : Table) (greedy : Bool) (start : Nat)
    (later : List (Thunk (List MatchRun))) :
    loopEntry body greedy start later = keepFirst 0 ((body.runs start).flatMap fun run =>
      let again := if start < run.1 then
          (runs later.toArray (run.1 - start - 1)).map fun next => (next.1, next.2 ++ run.2)
        else []
      if greedy then again ++ [run] else run :: again) := by
  rw [loopEntry]
  refine congrArg (keepFirst 0) (List.flatMap_congr fun run _ => ?_)
  simp only [runs, List.getElem?_toArray]
  cases later[run.1 - start - 1]? <;> rfl

variable {related : Marks → Marks → Prop} (stacking : Stacks related) (size : Nat)

theorem build_alike {entry entry' : Nat → List MatchRun}
    (each : ∀ start, Regex.Alike related (entry start) (entry' start)) :
    Alike related (build size entry) (build size entry') := by
  intro start
  rw [runs_build, runs_build]
  split
  · exact each start
  · exact .nil

include stacking

theorem nothing_alike : Alike related (nothing size) (nothing size) :=
  build_alike size fun _ => .cons ⟨rfl, stacking.nothing⟩ .nil

variable {first first' second second' : Table}

theorem andThen_alike (early : Alike related first first') (late : Alike related second second') :
    Alike related (andThen size first second) (andThen size first' second') :=
  build_alike size fun start => extend_alike stacking (early start) late

theorem exactly_alike (alike : Alike related first first') (count : Nat) :
    Alike related (exactly size first count) (exactly size first' count) := by
  induction count with
  | zero => exact nothing_alike stacking size
  | succ count ih =>
    cases count with
    | zero => exact alike
    | succ count => exact andThen_alike stacking size alike ih

theorem maybe_alike (alike : Alike related first first') (greedy : Bool) :
    Alike related (maybe size first greedy) (maybe size first' greedy) :=
  build_alike size fun start =>
    prefer_alike greedy (alike start) (.cons ⟨rfl, stacking.nothing⟩ .nil)

theorem atMost_alike (alike : Alike related first first') (greedy : Bool) (count : Nat) :
    Alike related (atMost size first greedy count) (atMost size first' greedy count) := by
  induction count with
  | zero => exact nothing_alike stacking size
  | succ count ih =>
    exact build_alike size fun start =>
      prefer_alike greedy (extend_alike stacking (alike start) ih) (.cons ⟨rfl, stacking.nothing⟩ .nil)

theorem loopTail_alike (alike : Alike related first first') (greedy : Bool) (count : Nat) :
    Alike related (loopTail size first greedy count).toArray
      (loopTail size first' greedy count).toArray := by
  induction count with
  | zero =>
    intro start
    exact .nil
  | succ count ih =>
    rintro (_ | start)
    · change Regex.Alike related (loopEntry first greedy (size - count) _)
        (loopEntry first' greedy (size - count) _)
      rw [loopEntry_eq, loopEntry_eq]
      refine keepFirst_alike (flatMap_alike (alike _) ?_) 0
      intro stop marks marks' same
      have own : Regex.Alike related [(stop, marks)] [(stop, marks')] := .cons ⟨rfl, same⟩ .nil
      -- Another iteration begins where this one has ended, further on in the text.
      have again : Regex.Alike related
          (if size - count < stop then
            (runs (loopTail size first greedy count).toArray (stop - (size - count) - 1)).map
              fun next => (next.1, next.2 ++ marks)
          else [])
          (if size - count < stop then
            (runs (loopTail size first' greedy count).toArray (stop - (size - count) - 1)).map
              fun next => (next.1, next.2 ++ marks')
          else []) := by
        split
        · exact List.rel_map (fun _ _ pair => ⟨pair.1, stacking.append pair.2 same⟩) (ih _)
        · exact .nil
      cases greedy with
      | false => exact append_alike own again
      | true => exact append_alike again own
    · have behind (entry : Thunk (List MatchRun)) (later : List (Thunk (List MatchRun))) :
          runs (entry :: later).toArray (start + 1) = runs later.toArray start := by
        simp [runs]
      rw [loopTail, loopTail, behind, behind]
      exact ih start

theorem loop_alike (alike : Alike related first first') (greedy : Bool) :
    Alike related (loop size first greedy) (loop size first' greedy) :=
  loopTail_alike stacking size alike greedy (size + 1)

theorem repeated_alike {more more' : Table} (alike : Alike related first first')
    (looping : Alike related more more') (low : Nat) (high : Option Nat) (greedy : Bool) :
    Alike related (repeated size first more low high greedy)
      (repeated size first' more' low high greedy) := by
  have exact_ := exactly_alike stacking size alike
  unfold repeated
  split
  · exact maybe_alike stacking size looping greedy
  · exact looping
  · exact andThen_alike stacking size (exact_ _) looping
  · exact andThen_alike stacking size (exact_ _) (atMost_alike stacking size alike greedy _)

end Table

theorem keepFirst_sublist (seen : Nat) (runs : List MatchRun) :
    (keepFirst seen runs).Sublist runs := by
  induction runs generalizing seen with
  | nil => exact .slnil
  | cons run rest ih =>
    rw [keepFirst]
    split
    · exact (ih seen).cons run
    · exact (ih _).cons_cons run

/-! ### Two numberings of one expression -/

namespace Expr

/-- Marks of the groups of an expression can be related, whichever of two numbers the first of them
has. -/
def Relates (related : Marks → Marks → Prop) (expr : Expr) (next next' : Nat) : Prop :=
  expr.Sets (fun number => ∀ span, related [(number + next, span)] [(number + next', span)]) 0

variable {related : Marks → Marks → Prop} {text : Array Char} {next next' : Nat}

theorem sets_shift {allowed : Nat → Prop} {expr : Expr} {more : Nat} :
    expr.Sets allowed (next + more) ↔ expr.Sets (fun number => allowed (number + more)) next := by
  rw [Sets, captures_shift, List.forall_mem_map]
  rfl

/-- Groups that are numbered later in an expression relate as groups of their own part. -/
theorem Relates.part {expr : Expr} {before : Nat}
    (relates : expr.Sets (fun number => ∀ span,
      related [(number + next, span)] [(number + next', span)]) (0 + before)) :
    expr.Relates related (next + before) (next' + before) := by
  have shifted := sets_shift.mp relates
  intro capture member span
  have own := shifted capture member span
  rwa [Nat.add_assoc, Nat.add_assoc, Nat.add_comm before, Nat.add_comm before] at own

theorem loopRuns_within (body : Expr) (greedy : Bool) (start : Nat) {allowed : Nat → Prop}
    (sets : body.Sets allowed 0) :
    ∀ run ∈ loopRuns text body greedy start, run.2.Within allowed := by
  intro run member
  refine explore_within ?_ Marks.within_nil run ((keepFirst_sublist 0 _).subset member)
  simp [sets]

theorem renumber_alike (stacking : Stacks related) {runs : List MatchRun}
    (single : ∀ run ∈ runs, run.2.Within fun number => ∀ span,
      related [(number + next, span)] [(number + next', span)]) :
    Alike related (runs.map (renumber next)) (runs.map (renumber next')) := by
  -- one run after another, mark by mark
  have marks_related {marks : Marks} (single : marks.Within fun number => ∀ span,
      related [(number + next, span)] [(number + next', span)]) (stop : Nat) :
      related (renumber next (stop, marks)).2 (renumber next' (stop, marks)).2 := by
    induction marks with
    | nil => exact stacking.nothing
    | cons mark rest ih =>
      obtain ⟨here, behind⟩ := Marks.within_cons.mp single
      exact stacking.append (here mark.2) (ih behind)
  induction runs with
  | nil => exact .nil
  | cons run rest ih =>
    rw [List.forall_mem_cons] at single
    exact .cons ⟨rfl, marks_related single.1 run.1⟩ (ih single.2)

/-- The tables of an expression for two numbers of its first group differ by the numbers alone. -/
theorem table_alike (text : Array Char) (stacking : Stacks related) {expr : Expr}
    (relates : expr.Relates related next next') :
    (expr.table text next).Alike related (expr.table text next') := by
  induction expr generalizing next next' with
  | empty => exact Table.nothing_alike stacking _
  | chars set | assertion condition =>
    refine Table.build_alike _ fun start => ?_
    split
    · exact .cons ⟨rfl, stacking.nothing⟩ .nil
    · exact .nil
  | group name body ih =>
    obtain ⟨own, inner⟩ := sets_group.mp relates
    refine Table.build_alike _ fun start => ?_
    refine List.rel_map ?_ (ih (Relates.part inner) start)
    rintro ⟨stop, marks⟩ ⟨_, marks'⟩ ⟨rfl, same⟩
    -- the mark of the group itself is put in front of those of its body
    have mark := own (start, stop)
    rw [Nat.zero_add, Nat.zero_add] at mark
    exact ⟨rfl, stacking.append mark same⟩
  | seq first second ih ih' =>
    obtain ⟨early, late⟩ := sets_seq.mp relates
    exact Table.andThen_alike stacking _ (ih early) (ih' (Relates.part late))
  | either first second ih ih' =>
    obtain ⟨early, late⟩ := sets_either.mp relates
    exact Table.build_alike _ fun start =>
      keepFirst_alike (append_alike (ih early start) (ih' (Relates.part late) start)) 0
  | repeated body low high greedy ih =>
    rw [table, table]
    rcases sets_repeated.mp relates with never | inner
    -- a repetition that never happens sets no group in either table
    · rw [if_pos never, if_pos never]
      exact Table.nothing_alike stacking _
    · have alike := ih inner
      split
      · exact Table.nothing_alike stacking _
      · dsimp only
        split
        · split
          · exact Table.maybe_alike stacking _ alike greedy
          · exact alike
        -- a loop keeps marks under the same two numbers as the body that it repeats
        · refine Table.repeated_alike stacking _ alike ?_ low high greedy
          split
          · exact Table.build_alike _ fun start =>
              renumber_alike stacking (loopRuns_within body greedy start inner)
          · exact Table.loop_alike stacking _ alike greedy

/-- Every mark of a run is one of a group that its expression can capture. -/
theorem runs_within {allowed : Nat → Prop} {expr : Expr} (sets : expr.Sets allowed next)
    (start : Nat) : ∀ run ∈ (expr.table text next).runs start, run.2.Within allowed := by
  have stacking : Stacks fun marks _ => Marks.Within allowed marks :=
    ⟨Marks.within_nil, fun early late => List.forall_mem_append.mpr ⟨early, late⟩⟩
  rw [← Nat.zero_add next, sets_shift] at sets
  have relates : expr.Relates (fun marks _ => Marks.Within allowed marks) next next := by
    intro capture member span
    exact Marks.within_cons.mpr ⟨sets capture member, Marks.within_nil⟩
  have left {runs others : List MatchRun}
      (alike : Alike (fun marks _ => Marks.Within allowed marks) runs others) :
      ∀ run ∈ runs, run.2.Within allowed := by
    induction alike with
    | nil => simp
    | cons here _ ih => exact List.forall_mem_cons.mpr ⟨here.2, ih⟩
  exact left (table_alike text stacking relates start)

/-- A greater number of the first group is one more for every group. -/
theorem runs_shift (expr : Expr) (next more start : Nat) :
    (expr.table text (next + more)).runs start
      = ((expr.table text next).runs start).map (renumber more) := by
  -- the relation between the two tables is the change of numbers itself
  have stacking : Stacks fun marks others =>
      others = marks.map fun mark => (mark.1 + more, mark.2) := by
    refine ⟨rfl, ?_⟩
    rintro marks _ others _ rfl rfl
    rw [List.map_append]
  have relates : expr.Relates (fun marks others =>
      others = marks.map fun mark => (mark.1 + more, mark.2)) next (next + more) := by
    intro capture _ span
    simp [Nat.add_assoc]
  have alike := table_alike text stacking relates start
  generalize (expr.table text next).runs start = runs,
    (expr.table text (next + more)).runs start = others at alike ⊢
  induction alike with
  | nil => rfl
  | @cons run other _ _ here _ ih =>
    rw [List.map_cons, ← ih]
    exact congrArg (· :: _) (Prod.ext here.1.symm here.2)

end Expr

end Signpost.Regex

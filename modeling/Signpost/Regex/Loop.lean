import Signpost.Regex.Position
import Signpost.Regex.Run

/-!
# Loops over bodies that may take nothing

A body that may take nothing can be left and entered again at one position, so the order in which a
loop tries things cannot be read off the runs of its body alone. Such a loop is searched depth
first. Each choice inside it is made at most once at a position: what a second visit could lead to
has been tried already, or is about to be tried where the first visit goes on. An iteration that
takes nothing ends the loop if it is the first one, and leads nowhere if it is a later one.

What is left to do forms a list of tasks. The parts of the body carry the number of their first
group and of their first choice; the copies that a counted repetition makes have choices of their
own and groups in common.
-/
namespace Signpost.Regex

namespace Expr

/-- Some match takes no character, conditions on positions apart. -/
def nullable : Expr → Bool
  | .empty | .assertion _ => true
  | .chars _ => false
  | .group _ body => body.nullable
  | .seq first second => first.nullable && second.nullable
  | .either first second => first.nullable || second.nullable
  | .repeated body low _ _ => low == 0 || body.nullable

/-- How many numbers the choices of an expression need. -/
def choices : Expr → Nat
  | .empty | .chars _ | .assertion _ => 0
  | .group _ body => body.choices
  | .seq first second => first.choices + second.choices
  | .either first second => first.choices + second.choices + 1
  | .repeated body low high _ => (body.choices + 2) * max 1 (max low (high.getD 0))

/-- How much work an expression is without taking a character. -/
def load : Expr → Nat
  | .empty | .chars _ | .assertion _ => 1
  | .group _ body => body.load + 2
  | .seq first second | .either first second => first.load + second.load + 1
  | .repeated body low high _ => (body.load + 3) * (max low (high.getD 0) + 1)

end Expr

/-- Something that is left to do. -/
inductive Task
  /-- Match a part whose first group and first choice have the given numbers. -/
  | part (expr : Expr) (group choice : Nat)
  /-- Close a group. -/
  | close (group : Nat)
  /-- End an iteration that began at `since`. -/
  | again (body : Expr) (group choice : Nat) (greedy first : Bool) (since : Nat)
  /-- Do some tasks or none. -/
  | option (choice : Nat) (greedy : Bool) (inner : List Task)

mutual

/-- How much work a task is without taking a character. -/
def Task.load (position : Nat) : Task → Nat
  | .part expr _ _ => expr.load
  | .close _ => 1
  | .again body _ _ _ _ since => if since < position then body.load + 3 else 1
  | .option _ _ inner => loadAll position inner + 1

def loadAll (position : Nat) : List Task → Nat
  | [] => 0
  | task :: rest => task.load position + loadAll position rest

end

theorem loadAll_append (position : Nat) (first second : List Task) :
    loadAll position (first ++ second) = loadAll position first + loadAll position second := by
  induction first with
  | nil => simp [loadAll]
  | cons task rest ih => simp [loadAll, ih, Nat.add_assoc]

/-- The tasks that a repetition begins with. -/
def beginRepetition (position : Nat) (body : Expr) (low : Nat) (high : Option Nat) (greedy : Bool)
    (group choice : Nat) : List Task :=
  let once := Task.part body group (choice + 2)
  let looping := [once, .again body group (choice + 1) greedy true position]
  let fewer (low : Nat) (high : Option Nat) :=
    [once, Task.part (.repeated body low high greedy) group (choice + 2 + body.choices)]
  if high = some 0 then []
  else if body.takesNothing then if low = 0 then [.option choice greedy [once]] else [once]
  else
    match low, high with
    -- Where the body may be empty, this is a loop of one iteration or more that may be left out, by a
    -- choice of its own; otherwise leaving it out and ending it later are one choice.
    | 0, none => [.option (if body.nullable then choice else choice + 1) greedy looping]
    | 1, none => looping
    | low + 2, none => fewer (low + 1) none
    | 0, some high => [.option choice greedy (fewer 0 (some (high - 1)))]
    | low + 1, some high => fewer low (some (high - 1))

theorem loadAll_beginRepetition (position : Nat) (body : Expr) (low : Nat) (high : Option Nat)
    (greedy : Bool) (group choice : Nat) :
    loadAll position (beginRepetition position body low high greedy group choice)
      < (Expr.repeated body low high greedy).load := by
  have least : body.load + 3 ≤ (body.load + 3) * (max low (high.getD 0) + 1) :=
    Nat.le_mul_of_pos_right _ (Nat.succ_pos _)
  by_cases never : high = some 0
  · simp only [beginRepetition, never, if_true, loadAll, Expr.load] at *
    omega
  by_cases still : body.takesNothing
  · simp only [beginRepetition, if_neg never, if_pos still, Expr.load]
    split <;> simp only [loadAll, Task.load] <;> omega
  simp only [beginRepetition, if_neg never, if_neg still, Expr.load]
  split
  · simp only [loadAll, Task.load, Nat.lt_irrefl, if_false]
    omega
  · simp only [loadAll, Task.load, Nat.lt_irrefl, if_false]
    omega
  · simp only [loadAll, Task.load, Expr.load, Option.getD_none, Nat.max_zero, Nat.mul_succ]
    omega
  · rename_i count
    obtain ⟨fewer, rfl⟩ : ∃ fewer, count = fewer + 1 :=
      Nat.exists_eq_succ_of_ne_zero fun zero => never (congrArg some zero)
    simp only [loadAll, Task.load, Expr.load, Option.getD_some, Nat.zero_max, Nat.add_sub_cancel,
      Nat.mul_succ]
    omega
  · rename_i low count
    obtain ⟨fewer, rfl⟩ : ∃ fewer, count = fewer + 1 :=
      Nat.exists_eq_succ_of_ne_zero fun zero => never (congrArg some zero)
    have larger : max (low + 1) (fewer + 1) = max low fewer + 1 := by omega
    simp only [loadAll, Task.load, Expr.load, Option.getD_some, Nat.add_sub_cancel, larger,
      Nat.mul_succ]
    omega

/-- The choices made so far: a bit for every choice, at every position. -/
abbrev Choices := Array Nat

namespace Choices

def fresh (size : Nat) : Choices := Array.replicate (size + 1) 0

def made (choices : Choices) (choice position : Nat) : Bool :=
  (choices.getD position 0).testBit choice

def note (choices : Choices) (choice position : Nat) : Choices :=
  choices.modify position fun bits => bits ||| 1 <<< choice

end Choices

/-- Carries out tasks from a position on, and returns the runs together with the choices made.
`opened` has the starts of groups, the latest first. -/
def explore (text : Array Char) (position : Nat) (tasks : List Task) (opened : List (Nat × Nat))
    (marks : Marks) (choices : Choices) : List MatchRun × Choices :=
  match tasks with
  | [] => ([(position, marks)], choices)
  | .close group :: rest =>
    let start := (opened.lookup group).getD position
    explore text position rest opened ((group, start, position) :: marks) choices
  | .again body group choice greedy first since :: rest =>
    -- only an iteration that has taken something may be followed by another
    if since < position then
      let next := [.part body group (choice + 1), .again body group choice greedy false position]
      explore text position (.option choice greedy next :: rest) opened marks choices
    else if first then explore text position rest opened marks choices
    else ([], choices)
  | .option choice greedy inner :: rest =>
    -- all that this choice leads to from here has been tried, or is being tried
    if choices.made choice position then ([], choices)
    else
      let noted := choices.note choice position
      if greedy then
        let (runs, choices) := explore text position (inner ++ rest) opened marks noted
        let (others, choices) := explore text position rest opened marks choices
        (runs ++ others, choices)
      else
        let (runs, choices) := explore text position rest opened marks noted
        let (others, choices) := explore text position (inner ++ rest) opened marks choices
        (runs ++ others, choices)
  | .part .empty _ _ :: rest => explore text position rest opened marks choices
  | .part (.chars set) _ _ :: rest =>
    if inside : position < text.size then
      if set.contains text[position].toNat then
        explore text (position + 1) rest opened marks choices
      else ([], choices)
    else ([], choices)
  | .part (.assertion condition) _ _ :: rest =>
    if condition.holds text position then explore text position rest opened marks choices
    else ([], choices)
  | .part (.group _ body) group choice :: rest =>
    explore text position (.part body (group + 1) choice :: .close group :: rest)
      ((group, position) :: opened) marks choices
  | .part (.seq first second) group choice :: rest =>
    let later := .part second (group + first.groups) (choice + first.choices)
    explore text position (.part first group choice :: later :: rest) opened marks choices
  | .part (.either first second) group choice :: rest =>
    if choices.made choice position then ([], choices)
    else
      let left := .part first group (choice + 1)
      let right := .part second (group + first.groups) (choice + 1 + first.choices)
      let (runs, choices) :=
        explore text position (left :: rest) opened marks (choices.note choice position)
      let (others, choices) := explore text position (right :: rest) opened marks choices
      (runs ++ others, choices)
  | .part (.repeated body low high greedy) group choice :: rest =>
    have := loadAll_beginRepetition position body low high greedy group choice
    let first := beginRepetition position body low high greedy group choice
    explore text position (first ++ rest) opened marks choices
termination_by (text.size - position, loadAll position tasks)
decreasing_by
  all_goals first
    | exact Prod.Lex.left _ _ (by omega)
    | refine Prod.Lex.right _ ?_
      simp only [loadAll, Task.load, Expr.load, loadAll_append, Nat.lt_irrefl, if_true, if_false,
        *] at *
      omega

/-- The runs of a loop from a position, one iteration or more, with groups numbered from zero. -/
def loopRuns (text : Array Char) (body : Expr) (greedy : Bool) (start : Nat) : List MatchRun :=
  let tasks := [.part body 0 1, .again body 0 0 greedy true start]
  keepFirst 0 (explore text start tasks [] [] (.fresh text.size)).1

end Signpost.Regex

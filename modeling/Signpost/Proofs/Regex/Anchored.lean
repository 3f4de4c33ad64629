import Signpost.Proofs.Regex.Marks
import Signpost.Regex.Reader

/-!
# Whole texts

An expression between the two ends of the text matches the whole of it or nothing. What it matches is
the first run of its inside that begins at the start and reaches the end; which other runs there are
does not matter, nor does the order of those with other ends.
-/
namespace Signpost.Regex

/-! ### The first run to an end -/

/-- The marks of the first run that ends at a position. -/
def firstTo (stop : Nat) (runs : List MatchRun) : Option Marks :=
  (runs.find? (·.1 == stop)).map (·.2)

variable {runs : List MatchRun} {stop : Nat}

theorem firstTo_cons (run : MatchRun) :
    firstTo stop (run :: runs) = if run.1 = stop then some run.2 else firstTo stop runs := by
  by_cases here : run.1 = stop
  · simp [firstTo, here]
  · rw [firstTo, List.find?_cons_of_neg (by simpa using here), if_neg here, firstTo]

theorem firstTo_append (others : List MatchRun) :
    firstTo stop (runs ++ others) = (firstTo stop runs <|> firstTo stop others) := by
  rw [firstTo, List.find?_append, Option.map_or]
  cases h : (runs.find? (·.1 == stop)) <;> simp [firstTo, h]

/-- Dropping runs to ends that have been met drops no first run. -/
theorem firstTo_keepFirst {seen : Nat} (unseen : seen.testBit stop = false) :
    firstTo stop (keepFirst seen runs) = firstTo stop runs := by
  induction runs generalizing seen with
  | nil => rfl
  | cons run rest ih =>
    obtain ⟨last, marks⟩ := run
    rw [keepFirst]
    split
    next met =>
      -- a run that is dropped ends elsewhere, since the end that is looked for has not been met
      have apart : last ≠ stop := by
        rintro rfl
        rw [unseen] at met
        cases met
      rw [ih unseen, firstTo_cons, if_neg apart]
    next =>
      rw [firstTo_cons, firstTo_cons]
      by_cases here : last = stop
      · rw [if_pos here, if_pos here]
      -- the end of this run is met now, which is still not the one that is looked for
      · rw [if_neg here, if_neg here, ih]
        rw [Nat.testBit_or, unseen, Nat.one_shiftLeft, Nat.testBit_two_pow_of_ne here]
        rfl

theorem firstTo_map (change : Nat → Marks → Marks) (runs : List MatchRun) :
    firstTo stop (runs.map fun run => (run.1, change run.1 run.2))
      = (firstTo stop runs).map (change stop) := by
  induction runs with
  | nil => rfl
  | cons run rest ih =>
    rw [List.map_cons, firstTo_cons, firstTo_cons, ih]
    by_cases here : run.1 = stop
    · simp [here]
    · simp [here]

/-- Going on from a single run without marks. -/
theorem extend_single (start : Nat) (next : Nat → List MatchRun) :
    extend [(start, [])] next = keepFirst 0 (next start) := by
  simp [extend]

namespace Expr

/-- How an expression matches a whole text when its first group has the given number. -/
def matchTo (text : Array Char) (expr : Expr) (next : Nat) : Option Marks :=
  firstTo text.size ((expr.table text next).runs 0)

variable {text : Array Char}

theorem runs_seq (first second : Expr) (next start : Nat) :
    ((Expr.seq first second).table text next).runs start
      = if start ≤ text.size then
          extend ((first.table text next).runs start) (second.table text (next + first.groups)).runs
        else [] := by
  rw [table, Table.andThen, Table.runs_build]

theorem matchTo_either (first second : Expr) (next : Nat) :
    (Expr.either first second).matchTo text next
      = (first.matchTo text next <|> second.matchTo text (next + first.groups)) := by
  rw [matchTo, table, Table.runs_build, if_pos (Nat.zero_le _), firstTo_keepFirst (Nat.zero_testBit _),
    firstTo_append]
  rfl

theorem matchTo_group (name : Option String) (body : Expr) (next : Nat) :
    (Expr.group name body).matchTo text next
      = (body.matchTo text (next + 1)).map ((next, 0, text.size) :: ·) := by
  rw [matchTo, table]
  dsimp only
  rw [Table.runs_build, if_pos (Nat.zero_le _)]
  exact firstTo_map (fun stop marks => (next, 0, stop) :: marks) _

/-- Matching from the start on, behind something that takes nothing there. -/
theorem matchTo_seq {first second : Expr} {next : Nat}
    (nothing : (first.table text next).runs 0 = [(0, [])]) :
    (Expr.seq first second).matchTo text next = second.matchTo text (next + first.groups) := by
  rw [matchTo, runs_seq, if_pos (Nat.zero_le _), nothing, extend_single,
    firstTo_keepFirst (Nat.zero_testBit _), matchTo]

theorem matchTo_shift (expr : Expr) (next more : Nat) :
    expr.matchTo text (next + more)
      = (expr.matchTo text next).map fun marks => marks.map fun mark => (mark.1 + more, mark.2) := by
  rw [matchTo, runs_shift]
  exact firstTo_map (fun _ marks => marks.map fun mark => (mark.1 + more, mark.2)) _

theorem matchTo_within {allowed : Nat → Prop} {expr : Expr} {next : Nat} {marks : Marks}
    (sets : expr.Sets allowed next) (matched : expr.matchTo text next = some marks) :
    marks.Within allowed := by
  obtain ⟨run, found, rfl⟩ := Option.map_eq_some_iff.mp matched
  exact runs_within sets 0 run (List.mem_of_find?_eq_some found)

/-! ### Between the ends of the text -/

theorem runs_textStart (next start : Nat) :
    ((Expr.assertion .textStart).table text next).runs start
      = if start = 0 then [(0, [])] else [] := by
  rw [table, Table.runs_build]
  by_cases first : start = 0
  · simp [first, Assertion.holds]
  · simp [first, Assertion.holds]

theorem runs_textEnd (next start : Nat) :
    ((Expr.assertion .textEnd).table text next).runs start
      = if start = text.size then [(start, [])] else [] := by
  rw [table, Table.runs_build]
  by_cases last : start = text.size
  · simp [last, Assertion.holds]
  · simp [last, Assertion.holds]

theorem head?_keepFirst (runs : List MatchRun) : (keepFirst 0 runs).head? = runs.head? := by
  cases runs with
  | nil => rfl
  | cons run rest => simp [keepFirst]

/-- What begins only at the start and must reach the end is searched for as a whole. -/
theorem search_whole {expr : Expr}
    (bound : ∀ start, 0 < start → (expr.table text 1).runs start = []) :
    search text (.seq expr (.assertion .textEnd))
      = (expr.matchTo text 1).map fun marks => (0, text.size, marks) := by
  -- of all runs from the start, the first that reaches the end of the text
  have ends (runs : List MatchRun) : (extend runs
      ((Expr.assertion .textEnd).table text (1 + expr.groups)).runs).head?
        = (firstTo text.size runs).map fun marks => (text.size, marks) := by
    rw [extend, head?_keepFirst]
    induction runs with
    | nil => rfl
    | cons run rest ih =>
      obtain ⟨stop, marks⟩ := run
      rw [List.flatMap_cons, firstTo_cons]
      dsimp only
      rw [runs_textEnd]
      by_cases last : stop = text.size
      · simp [last]
      · rw [if_neg last, if_neg last, ← ih]
        rfl
  -- a search goes on from later starts only where nothing can begin
  have later : (List.map Nat.succ (List.range text.size)).findSome? (fun start =>
      (((Expr.seq expr (.assertion .textEnd)).table text 1).runs start).head?.map
        fun run => (start, run)) = none := by
    rw [List.findSome?_eq_none_iff]
    intro start member
    obtain ⟨before, -, rfl⟩ := List.mem_map.mp member
    rw [runs_seq, bound _ (Nat.succ_pos before)]
    split <;> rfl
  rw [search, List.range_succ_eq_map, List.findSome?_cons, runs_seq, if_pos (Nat.zero_le _), ends,
    matchTo]
  cases firstTo text.size ((expr.table text 1).runs 0) with
  | none => exact later
  | some marks => rfl

end Expr

namespace Branches

variable {text : Array Char}

/-- A condition on the start in front of a sequence keeps it to the start and changes nothing there. -/
theorem sequence_textStart (items : List (Option Expr)) :
    (sequence (items ++ [some (.assertion .textStart)])).groups = (sequence items).groups ∧
      ∀ next start, ((sequence (items ++ [some (.assertion .textStart)])).table text next).runs start
        = if start = 0 then ((sequence items).table text next).runs 0 else [] := by
  induction items with
  | nil =>
    refine ⟨rfl, fun next start => ?_⟩
    have empty (start : Nat) : (Expr.empty.table text next).runs start
        = if start ≤ text.size then [(start, [])] else [] := Table.runs_build _ _ _
    simp only [List.nil_append, sequence, Expr.runs_seq, empty]
    by_cases first : start = 0
    · simp [first, extend_single, Expr.runs_textStart, keepFirst]
    -- the text begins once, so every other start is refused
    · by_cases inside : start ≤ text.size
      · simp [first, inside, extend_single, Expr.runs_textStart, keepFirst]
      · simp [first, inside]
  | cons item before ih =>
    obtain ⟨groups, runs⟩ := ih
    cases item with
    | none => exact ⟨groups, runs⟩
    | some item =>
      simp only [List.cons_append, sequence]
      refine ⟨congrArg (· + item.groups) groups, fun next start => ?_⟩
      rw [Expr.runs_seq, Expr.runs_seq, runs, groups]
      -- the item is last, so it extends the runs that the condition leaves
      by_cases first : start = 0
      · rw [if_pos first, if_pos first, first]
      · rw [if_neg first, if_neg first]
        split <;> rfl

/-- A sequence between the two ends is searched for as a whole. -/
theorem search_sequence (items : List (Option Expr)) :
    search text (sequence (some (.assertion .textEnd) :: items ++ [some (.assertion .textStart)]))
      = ((sequence items).matchTo text 1).map fun marks => (0, text.size, marks) := by
  obtain ⟨-, runs⟩ := @sequence_textStart text items
  have whole := @Expr.search_whole text (sequence (items ++ [some (.assertion .textStart)]))
    fun start late => by rw [runs, if_neg (by omega)]
  have same : (sequence (items ++ [some (.assertion .textStart)])).matchTo text 1
      = (sequence items).matchTo text 1 := by
    rw [Expr.matchTo, runs, if_pos rfl, Expr.matchTo]
  rw [← same]
  exact whole

/-! ### Alternatives -/

/-- The first of several alternatives that matches a whole text, their groups numbered in turn. -/
def chooseTo (text : Array Char) (next : Nat) : List Expr → Option Marks
  | [] => none
  | first :: rest => first.matchTo text next <|> chooseTo text (next + first.groups) rest

theorem whole_matchTo (branches : Branches) (next : Nat) :
    branches.whole.matchTo text next
      = chooseTo text next (branches.finished.reverse ++ [branches.current]) := by
  rw [whole, List.foldl_eq_foldr_reverse]
  generalize branches.finished.reverse = earlier, branches.current = current
  induction earlier generalizing next with
  | nil => simp [chooseTo]
  | cons first rest ih =>
    rw [List.foldr_cons, Expr.matchTo_either, ih]
    rfl

end Branches

end Signpost.Regex

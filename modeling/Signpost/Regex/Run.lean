/-!
# Runs

A run is one way to match: where it ends and which groups it sets. Runs that begin at one position
are listed in order of preference, and of several that end at one position only the first is kept,
because whatever follows would succeed with it if it succeeds at all.
-/
namespace Signpost.Regex

/-- The groups set during a match, the latest first: number, start and end. -/
abbrev Marks := List (Nat × Nat × Nat)

/-- The end of a match and the groups it sets. -/
abbrev MatchRun := Nat × Marks

/-- Keeps the first run to each end; `seen` has a bit for every end already met. -/
def keepFirst (seen : Nat) : List MatchRun → List MatchRun
  | [] => []
  | (stop, marks) :: rest =>
    if seen.testBit stop then keepFirst seen rest
    else (stop, marks) :: keepFirst (seen ||| 1 <<< stop) rest

/-- Goes on from the end of every run. -/
def extend (runs : List MatchRun) (next : Nat → List MatchRun) : List MatchRun :=
  keepFirst 0 <| runs.flatMap fun (stop, marks) =>
    (next stop).map fun (last, more) => (last, more ++ marks)

/-- Two ways to go on, the first preferred when `greedy`. -/
def prefer (greedy : Bool) (first second : List MatchRun) : List MatchRun :=
  keepFirst 0 (if greedy then first ++ second else second ++ first)

/-- A run with its groups numbered from `next` on instead of from zero. -/
def renumber (next : Nat) (run : MatchRun) : MatchRun :=
  (run.1, run.2.map fun (group, span) => (group + next, span))

end Signpost.Regex

/-!
# Sets of code points

A property of characters is stored as ascending ranges of code points, and a regular change of
characters as runs: every `step`-th code point from `first` to `last` moves by `shift`. Both are
read from the front, so membership is one pass over the list and stops at the first range that is
not entirely below the code point.
-/
namespace Signpost.Text

/-- Membership in ascending ranges, ends included. -/
def inRanges (n : Nat) : List (Nat × Nat) → Bool
  | [] => false
  | (low, high) :: rest => if n < low then false else if n ≤ high then true else inRanges n rest

/-- Every `step`-th code point from `first` to `last` moves by `shift`. -/
structure Run where
  first : Nat
  last : Nat
  step : Nat
  shift : Int
  deriving DecidableEq, Repr

namespace Run

def covers (run : Run) (n : Nat) : Bool :=
  run.first ≤ n && n ≤ run.last && (n - run.first) % run.step == 0

/-- The code point that `n` moves to. -/
def image (run : Run) (n : Nat) : Nat := (n + run.shift).toNat

/-- The code point that moves to `n`, if the run has one. -/
def source? (run : Run) (n : Nat) : Option Nat :=
  let origin := (n - run.shift).toNat
  if run.covers origin && run.image origin == n then some origin else none

end Run

/-- Where the first covering run moves `n`. -/
def moved? (runs : List Run) (n : Nat) : Option Nat :=
  (runs.find? fun run => run.covers n).map fun run => run.image n

end Signpost.Text

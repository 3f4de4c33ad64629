import Signpost.Regex.Match
import Signpost.Regex.Reader

/-!
# Compiled expressions

A text compiles when it denotes an expression. An engine that gives the compiled form a limited space
refuses some of them: how large the form gets is its own affair, so the limit is a rule that says of
every expression whether it fits.

The groups of a match are those that can take part at all: a group number that only dropped groups had
is reported as not taking part while a later group is retained.
-/
namespace Signpost

structure Regex where
  source : String
  expr : Regex.Expr
  deriving DecidableEq, Repr

namespace Regex

/-- Compiles an expression of any size. -/
def compile? (source : String) : Option Regex := (Expr.read? source.toList).map (⟨source, ·⟩)

/-- Compiles an expression that fits into the space there is. -/
def compileWithin? (fits : Regex → Bool) (source : String) : Option Regex :=
  (compile? source).filter fits

/-- The numbers and names of the groups that can take part in a match. -/
def captures (regex : Regex) : List (Nat × Option String) := regex.expr.captures 1

/-- How many groups a match reports besides the whole match. -/
def groupCount (regex : Regex) : Nat := (regex.captures.map Prod.fst).foldl max 0

def groupNames (regex : Regex) : List String := regex.captures.filterMap Prod.snd

/-- The groups of the leftmost match, the whole match first; `none` for a group that takes no part.
-/
def match? (regex : Regex) (text : String) : Option (List (Option String)) :=
  let chars := text.toList.toArray
  (search chars regex.expr).map fun (start, stop, marks) =>
    let slice (span : Nat × Nat) := String.ofList (chars.extract span.1 span.2).toList
    some (slice (start, stop))
      :: (List.range regex.groupCount).map fun index => (marks.lookup (index + 1)).map slice

/-- The characters that mean themselves only behind a backslash. -/
def metaChars : List Char :=
  ['\\', '.', '+', '*', '?', '(', ')', '|', '[', ']', '\x7b', '\x7d', '^', '$', '#', '&', '-', '~']

/-- An expression that matches exactly the given text. -/
def escape (text : String) : String :=
  String.ofList (text.toList.flatMap fun c => if c ∈ metaChars then ['\\', c] else [c])

end Regex

end Signpost

import Signpost.Regex.CharClass

/-!
# Regular expressions

Capture groups carry no number of their own: they are numbered by their opening parentheses from
left to right, so a number is the count of groups that open before. An expression therefore means
the same wherever it stands, up to the number that its first group gets.

A repetition that may not happen at all stands for the empty text and drops the groups inside it,
which keep their numbers nevertheless.
-/
namespace Signpost.Regex

/-- A condition on a position. The boundaries of words know two classes of word characters. -/
inductive Assertion
  | textStart
  | textEnd
  | lineStart (crlf : Bool)
  | lineEnd (crlf : Bool)
  | boundary (letters : CharClass)
  | noBoundary (letters : CharClass)
  | wordStart (letters : CharClass)
  | wordEnd (letters : CharClass)
  | noWordBefore (letters : CharClass)
  | noWordAfter (letters : CharClass)
  deriving DecidableEq, Repr

inductive Expr
  | empty
  | chars (set : CharClass)
  | assertion (condition : Assertion)
  | group (name : Option String) (body : Expr)
  | seq (first second : Expr)
  | either (first second : Expr)
  | repeated (body : Expr) (low : Nat) (high : Option Nat) (greedy : Bool)
  deriving DecidableEq, Repr

namespace Expr

/-- How many groups an expression opens. -/
def groups : Expr → Nat
  | .empty | .chars _ | .assertion _ => 0
  | .group _ body => body.groups + 1
  | .seq first second | .either first second => first.groups + second.groups
  | .repeated body _ _ _ => body.groups

/-- The groups that can take part in a match, with their numbers and names; `next` is the number of
the first group to open. -/
def captures : Expr → Nat → List (Nat × Option String)
  | .empty, _ | .chars _, _ | .assertion _, _ => []
  | .group name body, next => (next, name) :: body.captures (next + 1)
  | .seq first second, next | .either first second, next =>
    first.captures next ++ second.captures (next + first.groups)
  | .repeated body _ high _, next => if high = some 0 then [] else body.captures next

/-- No match takes a character. -/
def takesNothing : Expr → Bool
  | .empty | .assertion _ => true
  | .chars _ => false
  | .group _ body => body.takesNothing
  | .seq first second | .either first second => first.takesNothing && second.takesNothing
  | .repeated body _ high _ => high = some 0 || body.takesNothing

end Expr

end Signpost.Regex

import Signpost.Text.Alphabet
import Signpost.Text.Blank
import Signpost.Text.CaseFold

/-!
# Character classes

A class is kept as it is written: ranges, the named classes and the operations on them. Membership
evaluates the class at one code point, so no complement and no closure under case is ever spelled
out. Closing a class under case adds every character that differs at most in case from a member, or
every ASCII letter that does.
-/
namespace Signpost.Regex

open Signpost.Text

inductive CharClass
  | within (ranges : List (Nat × Nat))
  | decimal
  | space
  | word
  | complement (inner : CharClass)
  | union (left right : CharClass)
  | intersection (left right : CharClass)
  | difference (left right : CharClass)
  | exclusive (left right : CharClass)
  | anyCase (inner : CharClass)
  | asciiCase (inner : CharClass)
  deriving DecidableEq, Repr

namespace CharClass

def single (c : Char) : CharClass := .within [(c.toNat, c.toNat)]

def empty : CharClass := .within []

def contains : CharClass → Nat → Bool
  | .within ranges, n => ranges.any fun (low, high) => low ≤ n && n ≤ high
  | .decimal, n => inRanges n decimalRanges
  | .space, n => inRanges n blankRanges
  | .word, n => inRanges n alphabeticRanges || inRanges n wordExtraRanges
  | .complement inner, n => !inner.contains n
  | .union left right, n => left.contains n || right.contains n
  | .intersection left right, n => left.contains n && right.contains n
  | .difference left right, n => left.contains n && !right.contains n
  | .exclusive left right, n => left.contains n != right.contains n
  | .anyCase inner, n => (caseVariants n).any inner.contains
  | .asciiCase inner, n => (asciiVariants n).any inner.contains

/-- The classes of ASCII characters that may be named inside brackets. -/
def posix? : String → Option CharClass
  | "alnum" => some (.within [(0x30, 0x39), (0x41, 0x5A), (0x61, 0x7A)])
  | "alpha" => some (.within [(0x41, 0x5A), (0x61, 0x7A)])
  | "ascii" => some (.within [(0x00, 0x7F)])
  | "blank" => some (.within [(0x09, 0x09), (0x20, 0x20)])
  | "cntrl" => some (.within [(0x00, 0x1F), (0x7F, 0x7F)])
  | "digit" => some (.within [(0x30, 0x39)])
  | "graph" => some (.within [(0x21, 0x7E)])
  | "lower" => some (.within [(0x61, 0x7A)])
  | "print" => some (.within [(0x20, 0x7E)])
  | "punct" => some (.within [(0x21, 0x2F), (0x3A, 0x40), (0x5B, 0x60), (0x7B, 0x7E)])
  | "space" => some (.within [(0x09, 0x0D), (0x20, 0x20)])
  | "upper" => some (.within [(0x41, 0x5A)])
  | "word" => some (.within [(0x30, 0x39), (0x41, 0x5A), (0x5F, 0x5F), (0x61, 0x7A)])
  | "xdigit" => some (.within [(0x30, 0x39), (0x41, 0x46), (0x61, 0x66)])
  | _ => none

/-- A class that is written without a complement and without a character beyond ASCII. -/
def isAscii : CharClass → Bool
  | .within ranges => ranges.all fun (_, high) => high < 0x80
  | .decimal | .space | .word | .complement _ | .anyCase _ => false
  | .union left right | .intersection left right => left.isAscii && right.isAscii
  | .difference left right | .exclusive left right => left.isAscii && right.isAscii
  | .asciiCase inner => inner.isAscii

end CharClass

end Signpost.Regex

import Signpost.Regex.Expr

/-!
# Conditions on positions

A position of a text lies before one of its characters or at its end. An assertion looks at the
characters on both sides.
-/
namespace Signpost.Regex.Assertion

/-- A class has the character at a position. -/
def present (set : CharClass) (text : Array Char) (position : Nat) : Bool :=
  (text[position]?).any fun c => set.contains c.toNat

/-- A class has the character before a position. -/
def presentBefore (set : CharClass) (text : Array Char) (position : Nat) : Bool :=
  0 < position && present set text (position - 1)

def isAt (c : Char) (text : Array Char) (position : Nat) : Bool := text[position]? == some c

def isBefore (c : Char) (text : Array Char) (position : Nat) : Bool :=
  0 < position && isAt c text (position - 1)

def holds (text : Array Char) (position : Nat) : Assertion → Bool
  | .textStart => position == 0
  | .textEnd => position == text.size
  | .lineStart false => position == 0 || isBefore '\n' text position
  | .lineEnd false => position == text.size || isAt '\n' text position
  | .lineStart true =>
    position == 0 || isBefore '\n' text position
      || (isBefore '\r' text position && !isAt '\n' text position)
  | .lineEnd true =>
    position == text.size || isAt '\r' text position
      || (isAt '\n' text position && !isBefore '\r' text position)
  | .boundary letters => presentBefore letters text position != present letters text position
  | .noBoundary letters => presentBefore letters text position == present letters text position
  | .wordStart letters => !presentBefore letters text position && present letters text position
  | .wordEnd letters => presentBefore letters text position && !present letters text position
  | .noWordBefore letters => !presentBefore letters text position
  | .noWordAfter letters => !present letters text position

end Signpost.Regex.Assertion

/-!
# Hexadecimal digits

A digit is read from its code point, of which those of both cases are accepted, and written in the
case that a format asks for.
-/
namespace Signpost.Text.Hex

/-- The value of the digit with a code point. -/
def value? (code : Nat) : Option Nat :=
  if 0x30 ≤ code ∧ code ≤ 0x39 then some (code - 0x30)
  else if 0x41 ≤ code ∧ code ≤ 0x46 then some (code - 0x37)
  else if 0x61 ≤ code ∧ code ≤ 0x66 then some (code - 0x57)
  else none

/-- The upper-case digit of a number below sixteen. -/
def upper (n : Nat) : Char := Char.ofNat (if n < 10 then 0x30 + n else 0x37 + n)

/-- The lower-case digit of a number below sixteen. -/
def lower (n : Nat) : Char := Char.ofNat (if n < 10 then 0x30 + n else 0x57 + n)

theorem value?_lower {n : Nat} (digit : n < 16) : value? (lower n).toNat = some n := by
  revert n; decide

end Signpost.Text.Hex

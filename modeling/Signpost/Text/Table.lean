import Signpost.Text.Hex
import Signpost.Text.Ranges
import Signpost.Text.Split

/-!
# Tables of named sets

An entry of a table has the names of a set of code points and its ranges, both as words with blanks or
ends of lines between them. The ends of a range are written in hexadecimal with a hyphen between them, a single code
point by itself; behind a slash stands how many code points there are from one member of the range to
the next.
-/
namespace Signpost.Text

def words (text : String) : List (List Char) :=
  (pieces (fun c => c == ' ' || c == '\n') text.toList).filter fun word => !word.isEmpty

def hexNumber (digits : List Char) : Nat :=
  digits.foldl (fun n digit => n * 16 + (Hex.value? digit.toNat).getD 0) 0

/-- The code points from one end to the other, in steps. -/
def steps (first last step : Nat) : List (Nat × Nat) :=
  (List.range ((last - first) / step + 1)).map fun index =>
    (first + step * index, first + step * index)

def rangesOfWord (word : List Char) : List (Nat × Nat) :=
  let (ends, step) := splitFirst '/' word
  let (first, last) := splitFirst '-' ends
  let low := hexNumber first
  let high := (last.map hexNumber).getD low
  match step with
  | some step => steps low high (hexNumber step)
  | none => [(low, high)]

def rangesOf (text : String) : List (Nat × Nat) := (words text).flatMap rangesOfWord

/-- The set that has a name in a table. -/
def named? (table : List (String × String)) (name : List Char) : Option (List (Nat × Nat)) :=
  (table.find? fun (names, _) => (words names).contains name).map fun (_, ranges) => rangesOf ranges

example : rangesOf "41-5A 5F 100-104/2"
    = [(0x41, 0x5A), (0x5F, 0x5F), (0x100, 0x100), (0x102, 0x102), (0x104, 0x104)] := by decide

end Signpost.Text

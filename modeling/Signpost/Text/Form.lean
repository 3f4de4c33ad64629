import Signpost.Text.Percent
import Signpost.Text.Split

/-!
# Query strings

Pairs are separated by `&`, a name from its value by the first `=`; a plus sign is a space, percent
escapes are decoded and ill-formed UTF-8 is replaced. Empty pieces are no pairs.
-/
namespace Signpost.Text.Form

def decodeComponent (text : List Char) : String :=
  let spaced := text.map fun c => if c = '+' then ' ' else c
  String.ofList (Utf8.decodeLossy (Percent.unescape (Utf8.encode spaced)))

/-- The pairs of a query string in the order in which they are written. -/
def pairs (query : String) : List (String × String) :=
  ((pieces (· == '&') query.toList).filter fun piece => !piece.isEmpty).map fun piece =>
    let (name, value) := splitFirst '=' piece
    (decodeComponent name, decodeComponent (value.getD []))

/-- The value of the last pair with a name. -/
def last? (pairs : List (String × String)) (name : String) : Option String :=
  pairs.reverse.lookup name

end Signpost.Text.Form

/-!
# JSON values

A value keeps what its text says: numbers are kept as they are written, and the members of an object
in their order, repeated names included. A text whose escapes leave half of a surrogate pair alone
denotes no sequence of characters; its content is `none`, so that such a text can be skipped but not
used.
-/
namespace Signpost

inductive Json
  | null
  | bool (value : Bool)
  | number (lexeme : String)
  | string (content : Option String)
  | array (items : List Json)
  | object (members : List (Option String × Json))
  deriving Repr

namespace Json

def text (content : String) : Json := .string (some content)

def nat (value : Nat) : Json := .number (toString value)

/-- The text of a null or a string: `none` if the value is neither or has no content. -/
def nullable? : Json → Option (Option String)
  | .null => some none
  | .string (some content) => some (some content)
  | _ => none

def text? : Json → Option String
  | .string content => content
  | _ => none

def bool? : Json → Option Bool
  | .bool value => some value
  | _ => none

def items? : Json → Option (List Json)
  | .array items => some items
  | _ => none

/-- An unsigned integer of 64 bits. Neither a sign nor a fraction nor an exponent may be written. -/
def word? : Json → Option Nat
  | .number lexeme =>
    if lexeme.toList.all Char.isDigit then lexeme.toNat?.filter (· < UInt64.size) else none
  | _ => none

end Json

end Signpost

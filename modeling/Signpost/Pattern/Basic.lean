import Signpost.Regex.Basic

/-!
# Segment patterns

A pattern describes one segment of a path: literal text and placeholders in turn. The placeholders
are numbered from left to right, and a part refers to its parameter by that number. A parameter has
a type, which says what its values look like, and a chain of functions that encodes an argument
when a path is built.
-/
namespace Signpost

/-- What the values of a parameter look like. -/
inductive ValueType
  | string
  | int
  | float
  | custom (regex : String)
  deriving DecidableEq, Repr

namespace ValueType

def ofKeyword? : String → Option ValueType
  | "string" => some .string
  | "int" => some .int
  | "float" => some .float
  | _ => none

/-- The regular expression of the values. -/
def regexBody : ValueType → String
  | .string => ".+"
  | .int => "[0-9]+"
  | .float => "[-+0-9.eE]+"
  | .custom regex => regex

end ValueType

structure Parameter where
  name : String
  valueType : ValueType := .string
  functions : List String := []
  required : Bool
  innerGroups : Nat := 0
  deriving DecidableEq, Repr

inductive PatternPart
  | literal (text : String)
  | parameter (index : Nat)
  deriving DecidableEq, Repr

structure Pattern where
  source : String
  parts : List PatternPart
  parameters : List Parameter
  deriving DecidableEq, Repr

namespace Pattern

def isLiteral (pattern : Pattern) : Bool := pattern.parameters.isEmpty

/-- The text of a pattern without parameters. -/
def literal? (pattern : Pattern) : Option String :=
  if pattern.isLiteral then
    match pattern.parts with
    | [] => some ""
    | [.literal text] => some text
    | _ => none
  else none

def parameter? (pattern : Pattern) (name : String) : Option Parameter :=
  pattern.parameters.find? (·.name == name)

def required (pattern : Pattern) : List Parameter := pattern.parameters.filter (·.required)

/-- The text of a path segment with a marker in place of every value. -/
def template (pattern : Pattern) : String :=
  String.join <| pattern.parts.map fun
    | .literal text => text
    | .parameter _ => "%s"

end Pattern

/-- The regular expression of a value, in a capture group of its own. -/
def Parameter.regex (parameter : Parameter) : String :=
  "((?:" ++ parameter.valueType.regexBody ++ "))" ++ if parameter.required then "" else "?"

namespace Pattern

def partRegex (pattern : Pattern) : PatternPart → String
  | .literal text => Regex.escape text
  | .parameter index => (pattern.parameters[index]?.map Parameter.regex).getD ""

/-- The regular expression of the segments, without anchors. -/
def alternationBody (pattern : Pattern) : String :=
  String.join (pattern.parts.map pattern.partRegex)

/-- The regular expression that matches a whole segment. -/
def matchRegex (pattern : Pattern) : String := "^" ++ pattern.alternationBody ++ "$"

/-- How many groups parameters open, those inside their types included. -/
def countGroups : List Parameter → Nat
  | [] => 0
  | parameter :: rest => 1 + parameter.innerGroups + countGroups rest

def groupCount (pattern : Pattern) : Nat := countGroups pattern.parameters

/-- The group of every parameter when the first group of the pattern has the number `next`. -/
def offsetsFrom (next : Nat) : List Parameter → List (String × Nat)
  | [] => []
  | parameter :: rest =>
    (parameter.name, next) :: offsetsFrom (next + 1 + parameter.innerGroups) rest

def groupOffsets (pattern : Pattern) : List (String × Nat) := offsetsFrom 1 pattern.parameters

end Pattern

end Signpost

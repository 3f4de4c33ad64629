import Signpost.Text.Blank
import Signpost.Text.LetterCase
import Signpost.Text.Percent
import Signpost.Text.Quoted

/-!
# Functions

Route trees call functions by name: in calls, as filters of template variables and as encoders of
path arguments. A registry holds one function for each name, and a later registration replaces an
earlier one. What a route tree was compiled with stays with it, because compiled code holds the
functions themselves.
-/
namespace Signpost

/-- A named function of a list of texts. The calls of a traced function are worth reporting. -/
structure RouteFunction where
  name : String
  run : List String → String
  traced : Bool := false

/-- One application of a function. -/
structure Call where
  function : RouteFunction
  arguments : List String

/-- Functions with pairwise different names. -/
structure FunctionRegistry where
  functions : List RouteFunction

namespace RouteFunction

/-- A function of its first argument, which is empty if there is none. -/
def ofText (name : String) (apply : String → String) : RouteFunction :=
  { name, run := fun arguments => apply (arguments.headD "") }

def urlencode : RouteFunction := ofText "urlencode" Text.Percent.encode

def urldecode : RouteFunction := ofText "urldecode" Text.Percent.decode

def lowercase : RouteFunction := ofText "lowercase" Text.lowercase

def uppercase : RouteFunction := ofText "uppercase" Text.uppercase

def capitalize : RouteFunction := ofText "capitalize" Text.capitalize

def trim : RouteFunction := ofText "trim" Text.trim

def describe (function : RouteFunction) : String :=
  "FunctionRef(" ++ Text.Quoted.quote function.name ++ ")"

/-- Applies functions one after another, the first one to the value given. -/
def applyChain (chain : List RouteFunction) (value : String) : String :=
  chain.foldl (fun text function => function.run [text]) value

/-- The calls that a chain makes. -/
def chainCalls : List RouteFunction → String → List Call
  | [], _ => []
  | function :: rest, value => ⟨function, [value]⟩ :: chainCalls rest (function.run [value])

end RouteFunction

namespace FunctionRegistry

def empty : FunctionRegistry := ⟨[]⟩

def register (registry : FunctionRegistry) (function : RouteFunction) : FunctionRegistry :=
  ⟨function :: registry.functions.filter fun other => other.name != function.name⟩

def builtin : FunctionRegistry :=
  ⟨[.urlencode, .urldecode, .lowercase, .uppercase, .capitalize, .trim]⟩

def get? (registry : FunctionRegistry) (name : String) : Option RouteFunction :=
  registry.functions.find? (·.name == name)

def contains (registry : FunctionRegistry) (name : String) : Bool := (registry.get? name).isSome

/-- The names in ascending order. -/
def names (registry : FunctionRegistry) : List String :=
  (registry.functions.map (·.name)).mergeSort fun left right => decide (left ≤ right)

/-- All functions of a chain, or the first name that is not registered. -/
def resolve (registry : FunctionRegistry) (names : List String) :
    Except String (List RouteFunction) :=
  names.mapM fun name =>
    match registry.get? name with
    | some function => .ok function
    | none => .error name

def describe (registry : FunctionRegistry) : String :=
  "FunctionRegistry \x7b functions: ["
    ++ String.intercalate ", " (registry.names.map Text.Quoted.quote) ++ "] \x7d"

end FunctionRegistry

end Signpost

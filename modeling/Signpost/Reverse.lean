import Signpost.Program.Basic
import Signpost.Tree.Routes

/-!
# Building paths

Every route can be turned round: its patterns, filled with arguments, give a path that leads to it.
An argument goes through the functions of its parameter, or through the default encoder if there are
none. An empty argument counts as missing, and a segment that comes out empty is left out.
-/
namespace Signpost

inductive ReverseError
  | missingArgument (name : String)
  | noSuchPath (id : String)
  deriving DecidableEq, Repr

def ReverseError.message : ReverseError → String
  | .missingArgument name => s!"missing argument `{name}`"
  | .noSuchPath id => s!"no such path `{id}`"

/-- Literal text, or the place of an argument with its encoders. -/
inductive ReversePart
  | text (text : String)
  | argument (name : String) (required : Bool) (encoders : List RouteFunction)

/-- A route made ready for building paths; `parameters` are the required ones in path order. -/
structure ReverseRoute where
  id : String
  template : String
  segments : List (List ReversePart)
  parameters : List String

/-- The template of a path: the templates of its segments, each behind a slash. -/
def routeTemplate (patterns : List Pattern) : String :=
  if patterns.isEmpty then "/"
  else String.join (patterns.map fun pattern => "/" ++ pattern.template)

namespace ReverseRoute

/-- The name of the function that encodes arguments without functions of their own. -/
def defaultEncoder : String := "urlencode"

def encoders (functions : FunctionRegistry) (parameter : Parameter) :
    Except ProgramError (List RouteFunction) :=
  (functions.resolve
    (if parameter.functions.isEmpty then [defaultEncoder] else parameter.functions)).mapError
    ProgramError.unknownFunction

def compilePart (functions : FunctionRegistry) (pattern : Pattern) :
    PatternPart → Except ProgramError ReversePart
  | .literal text => .ok (.text text)
  | .parameter index =>
    match pattern.parameters[index]? with
    | some parameter => do
      return .argument parameter.name parameter.required (← encoders functions parameter)
    | none => .ok (.text "")

def compile (functions : FunctionRegistry) (route : Route) : Except ProgramError ReverseRoute := do
  let segments ← route.patterns.mapM fun pattern =>
    pattern.parts.mapM (compilePart functions pattern)
  return {
    id := route.id
    template := routeTemplate route.patterns
    segments
    parameters := route.patterns.flatMap fun pattern => pattern.required.map (·.name) }

/-- The text of a part; a missing argument is an error only where it is required. -/
def renderPart (argument? : String → Option String) : ReversePart → Except ReverseError String
  | .text text => .ok text
  | .argument name required encoders =>
    match (argument? name).filter fun value => !value.isEmpty with
    | some value => .ok (RouteFunction.applyChain encoders value)
    | none => if required then .error (.missingArgument name) else .ok ""

/-- The text of a segment. -/
def renderSegment (argument? : String → Option String) (parts : List ReversePart) :
    Except ReverseError String := do
  return String.join (← parts.mapM (renderPart argument?))

/-- The path with the given arguments. -/
def render (route : ReverseRoute) (argument? : String → Option String) :
    Except ReverseError String := do
  let segments ← route.segments.mapM (renderSegment argument?)
  let path := String.join ((segments.filter fun text => !text.isEmpty).map fun text => "/" ++ text)
  return if path.isEmpty then "/" else path

/-- Builds a path from arguments by name. -/
def build (route : ReverseRoute) (arguments : Attributes) : Except ReverseError String :=
  route.render arguments.get?

/-- Builds a path from arguments in the order of the required parameters. -/
def buildWith (route : ReverseRoute) (arguments : List String) : Except ReverseError String :=
  route.render fun name => (route.parameters.idxOf? name).bind fun index => arguments[index]?

end ReverseRoute

structure ReverseTable where
  routes : List ReverseRoute

namespace ReverseTable

def compile (functions : FunctionRegistry) (table : RouteTable) :
    Except ProgramError ReverseTable := do
  return ⟨← table.entries.mapM (ReverseRoute.compile functions)⟩

def get (table : ReverseTable) (id : String) : Except ReverseError ReverseRoute :=
  match table.routes.find? (·.id == id) with
  | some route => .ok route
  | none => .error (.noSuchPath id)

def build (table : ReverseTable) (id : String) (arguments : Attributes) :
    Except ReverseError String := do
  (← table.get id).build arguments

end ReverseTable

end Signpost

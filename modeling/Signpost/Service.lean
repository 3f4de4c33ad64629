import Signpost.Router
import Signpost.Spec.Json

/-!
# Services

A service keeps the router that it has published last, the functions for the next one and the
options for all. Loading a document publishes a new router, or leaves everything as it is if the
document cannot be compiled. A router that has been handed out goes on as it is.
-/
namespace Signpost

structure Service where
  options : Options := {}
  functions : FunctionRegistry := .builtin
  published : Option Router := none

namespace Service

def register (service : Service) (function : RouteFunction) : Service :=
  { service with functions := service.functions.register function }

/-- Compiles a document and publishes its router. -/
def load (service : Service) (spec : SpecNode) : Except RouterError (Service × Router) := do
  let router ← Router.compile spec service.options service.functions
  return ({ service with published := some router }, router)

/-- Loads a document from its text. -/
def loadJson (service : Service) (source : String) : Except RouterError (Service × Router) :=
  match SpecNode.read? source with
  | some spec => service.load spec
  | none => .error .spec

def isLoaded (service : Service) : Bool := service.published.isSome

def current (service : Service) : Except RouterError Router :=
  match service.published with
  | some router => .ok router
  | none => .error .notLoaded

def route (service : Service) (attributes : Attributes) : Except RouterError Execution := do
  return (← service.current).route attributes

def routePath (service : Service) (path : String) : Except RouterError Execution := do
  return (← service.current).routePath path

def buildPath (service : Service) (id : String) (arguments : Attributes) :
    Except RouterError String := do
  ((← service.current).buildPath id arguments).mapError RouterError.reverse

end Service

end Signpost

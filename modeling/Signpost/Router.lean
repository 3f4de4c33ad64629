import Signpost.Machine
import Signpost.Options
import Signpost.Program.OfTree
import Signpost.Reverse

/-!
# Routers

A router is compiled from a document, with options and functions. It answers requests and builds the
paths of its routes, and nothing that happens later changes it.
-/
namespace Signpost

inductive RouterError
  | options (error : OptionsError)
  | tree (error : TreeError)
  | program (error : ProgramError)
  | reverse (error : ReverseError)
  | spec
  | notLoaded
  deriving DecidableEq, Repr

def RouterError.message : RouterError → String
  | .options error => error.message
  | .tree error => error.message
  | .program error => error.message
  | .reverse error => error.message
  | .spec => "failed to read route tree"
  | .notLoaded => "router has no compiled routes; call load() first"

structure Router where
  program : Program
  routes : RouteTable
  reverse : ReverseTable
  options : Options

namespace Router

/-- Checks the options, builds the tree of routes and compiles it in both directions. -/
def compile (spec : SpecNode) (options : Options) (functions : FunctionRegistry) :
    Except RouterError Router := do
  options.validate.mapError RouterError.options
  let tree ← (RouteTree.build spec).mapError RouterError.tree
  let program ←
    (Program.ofTree functions options.regexGroupLimit tree).mapError RouterError.program
  let reverse ← (ReverseTable.compile functions tree.routes).mapError RouterError.program
  return { program, routes := tree.routes, reverse, options }

/-- The request that attributes make under the options of a router. -/
def request (router : Router) (attributes : Attributes) : Request :=
  .ofAttributes attributes router.options.pathAttributes router.options.queryAttribute

def route (router : Router) (attributes : Attributes) : Execution :=
  router.program.execute (router.request attributes)

/-- The attributes of a bare path, which may end in a query. -/
def pathAttributes (router : Router) (path : String) : Attributes :=
  match router.options.pathAttributes.find? fun name => !Text.blankText name with
  | some name => .ofList [(name, path)]
  | none => .empty

def routePath (router : Router) (path : String) : Execution :=
  router.route (router.pathAttributes path)

def buildPath (router : Router) (id : String) (arguments : Attributes) :
    Except ReverseError String :=
  router.reverse.build id arguments

end Router

end Signpost

import Signpost.Attributes
import Signpost.Text.Form

/-!
# Requests

What a request tells a router. The path is the first attribute of a list of names that has a
non-empty text, up to its first question mark; the query is an attribute of its own, or what stands
behind the question mark where that attribute is missing.
-/
namespace Signpost

structure Request where
  attributes : Attributes
  path : String
  query : String
  segments : List String
  parameters : List (String × String)

namespace Request

/-- The text in which the path is looked for. -/
def rawPath (attributes : Attributes) (pathNames : List String) : String :=
  (pathNames.findSome? fun name =>
    (attributes.get? name).filter fun text => !text.isEmpty).getD "/"

def ofAttributes (attributes : Attributes) (pathNames : List String) (queryName : String) :
    Request :=
  let (path, inline) := Text.splitQuery (rawPath attributes pathNames)
  let query := (attributes.get? queryName <|> inline).getD ""
  { attributes, path, query, segments := Text.segments path, parameters := Text.Form.pairs query }

def segment? (request : Request) (index : Nat) : Option String := request.segments[index]?

def attribute? (request : Request) (name : String) : Option String := request.attributes.get? name

def parameter? (request : Request) (name : String) : Option String :=
  Text.Form.last? request.parameters name

/-- Variables that are computed from a request. -/
def derived? (request : Request) : String → Option String
  | "path" => some request.path
  | "query" => some request.query
  | "query_str" => some (if request.query.isEmpty then "" else "?" ++ request.query)
  | _ => none

end Request

end Signpost

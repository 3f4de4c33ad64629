import Signpost.Pattern.Error

/-!
# Tree errors

What can be wrong with a document when a tree of routes is built from it.
-/
namespace Signpost

inductive TreeError
  | undeclaredBlock (name : String)
  | duplicateLiteral (literal : String)
  | unknownParameter (name route : String)
  | duplicateRouteId (id : String)
  | missingAttribute (kind name : String)
  | unexpectedElement (kind parent : String)
  | invalidTestPattern (regex : String)
  | pattern (error : PatternError)
  deriving DecidableEq, Repr

def TreeError.message : TreeError → String
  | .undeclaredBlock name => s!"found a <ref> with no matching <block>: {name}"
  | .duplicateLiteral literal => s!"duplicate literal path '{literal}' at the same level"
  | .unknownParameter name route => s!"no parameter `{name}` in route '{route}'"
  | .duplicateRouteId id => s!"route id '{id}' is declared more than once"
  | .missingAttribute kind name => s!"<{kind}> requires a '{name}' attribute"
  | .unexpectedElement kind parent => s!"<{kind}> is not allowed inside <{parent}>"
  | .invalidTestPattern regex => s!"invalid test pattern '{regex}': <regex error>"
  | .pattern error => error.message

end Signpost

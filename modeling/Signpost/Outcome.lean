import Signpost.Attributes

/-!
# Outcomes

A request that is answered has the fields of the return that answered it; one that nothing answers
has only the code of a missing page.
-/
namespace Signpost

structure Outcome where
  fields : Attributes
  deriving DecidableEq, Repr

namespace Outcome

def notFoundCode : String := "404"

def notFound : Outcome := ⟨.ofList [("code", notFoundCode)]⟩

def ofFields (fields : List (String × String)) : Outcome := ⟨.ofList fields⟩

def code (outcome : Outcome) : String := (outcome.fields.get? "code").getD notFoundCode

def isNotFound (outcome : Outcome) : Bool := outcome.code == notFoundCode

def location? (outcome : Outcome) : Option String := outcome.fields.get? "location"

def render? (outcome : Outcome) : Option String := outcome.fields.get? "render"

end Outcome

end Signpost

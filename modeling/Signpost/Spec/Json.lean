import Signpost.Json.Printer
import Signpost.Json.Reader
import Signpost.Json.Record
import Signpost.Spec.Basic

/-!
# Documents in JSON

An element is a record of its kind, attributes, text and children, of which only the kind must be
given; what is empty or absent is left out in writing. A kind is the name itself, or an object whose
only member has that name and a null.
-/
namespace Signpost

/-- The kind of an element; `depth` arrays and objects may be entered. -/
def SpecKind.ofJson? (depth : Nat) : Json → Option SpecKind
  | .string (some name) => SpecKind.ofName? name
  | .object [(some name, .null)] => if depth = 0 then none else SpecKind.ofName? name
  | _ => none

namespace SpecNode

def fieldNames : List String := ["kind", "attributes", "text", "children"]

/-- The attributes of an element; the last of several members with one name counts. -/
def attributesOfJson? (depth : Nat) (json : Json) : Option Attributes :=
  if depth = 0 then none else json.texts?.map Attributes.ofList

/-- Reads an element, given how deep its parts may nest and how a child is read. -/
def ofFields? (depth : Nat) (child? : Json → Option SpecNode) (json : Json) :
    Option SpecNode := do
  match ← json.fields? fieldNames with
  | [some kind, attributes, text, children] =>
    let kind ← SpecKind.ofJson? depth kind
    let attributes ← match attributes with
      | none => some .empty
      | some json => attributesOfJson? depth json
    let text ← match text with
      | none => some none
      | some json => json.nullable?
    let children ← match children with
      | none => some []
      | some json => if depth = 0 then none else json.items?.bind fun items => items.mapM child?
    return { kind, attributes, text, children }
  | _ => none

/-- Reads an element whose arrays and objects may nest to the given depth. A child lies two levels
below its parent. -/
def ofJson? : Nat → Json → Option SpecNode
  | 0, _ => none
  | 1, json => ofFields? 0 (fun _ => none) json
  | depth + 2, json => ofFields? (depth + 1) (ofJson? depth) json

/-- Reads a document from its text. -/
def read? (source : String) : Option SpecNode := do
  ofJson? Json.depthLimit (← Json.read? source)

mutual

/-- Writes an element without what is empty or absent. -/
def toJson : SpecNode → Json
  | ⟨kind, attributes, text, children⟩ =>
    .object <|
      [(some "kind", .text kind.name)]
        ++ (if attributes.isEmpty then []
          else [(some "attributes", .object <|
            attributes.entries.map fun entry => (some entry.1, .text entry.2))])
        ++ (text.map fun content => (some "text", .text content)).toList
        ++ (if children.isEmpty then [] else [(some "children", .array (toJsonList children))])

def toJsonList : List SpecNode → List Json
  | [] => []
  | node :: rest => node.toJson :: toJsonList rest

end

def render (node : SpecNode) : String := node.toJson.render

end SpecNode

end Signpost

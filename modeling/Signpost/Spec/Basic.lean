import Signpost.Attributes

/-!
# Route trees as documents

A document is a tree of elements. An element has a kind, attributes, perhaps a text, and children;
what may stand where is decided when a document is built into a tree of routes, not here.
-/
namespace Signpost

inductive SpecKind
  | router
  | block
  | ref
  | set
  | arg
  | return
  | switch
  | value
  | case
  | default
  | call
  | test
  | path
  | parameter
  deriving DecidableEq, Repr

namespace SpecKind

def name : SpecKind → String
  | .router => "router"
  | .block => "block"
  | .ref => "ref"
  | .set => "set"
  | .arg => "arg"
  | .return => "return"
  | .switch => "switch"
  | .value => "value"
  | .case => "case"
  | .default => "default"
  | .call => "call"
  | .test => "test"
  | .path => "path"
  | .parameter => "parameter"

def all : List SpecKind :=
  [.router, .block, .ref, .set, .arg, .return, .switch, .value, .case, .default, .call, .test,
    .path, .parameter]

def ofName? (name : String) : Option SpecKind := all.find? (·.name == name)

end SpecKind

structure SpecNode where
  kind : SpecKind
  attributes : Attributes
  text : Option String
  children : List SpecNode
  deriving Repr

namespace SpecNode

/-- An element of a kind, with nothing else. -/
def ofKind (kind : SpecKind) : SpecNode := ⟨kind, .empty, none, []⟩

def withAttribute (node : SpecNode) (name value : String) : SpecNode :=
  { node with attributes := node.attributes.insert name value }

def withText (node : SpecNode) (text : String) : SpecNode := { node with text := some text }

def withChild (node child : SpecNode) : SpecNode :=
  { node with children := node.children ++ [child] }

def withChildren (node : SpecNode) (children : List SpecNode) : SpecNode :=
  { node with children := node.children ++ children }

def router : SpecNode := ofKind .router

def block (name : String) : SpecNode := (ofKind .block).withAttribute "name" name

def reference (name : String) : SpecNode := (ofKind .ref).withAttribute "name" name

def path (pattern : String) : SpecNode := (ofKind .path).withAttribute "pattern" pattern

/-- A path without a pattern, whose children act as children of its parent. -/
def group : SpecNode := ofKind .path

def parameter (name : String) : SpecNode := (ofKind .parameter).withAttribute "name" name

def set (name value : String) : SpecNode :=
  ((ofKind .set).withAttribute "name" name).withAttribute "value" value

def arg (name value : String) : SpecNode :=
  ((ofKind .arg).withAttribute "name" name).withAttribute "value" value

def returning : SpecNode := ofKind .return

def switch : SpecNode := ofKind .switch

def value (text : String) : SpecNode := (ofKind .value).withText text

def case (value : String) : SpecNode := (ofKind .case).withAttribute "value" value

def defaultCase : SpecNode := ofKind .default

def call (function : String) : SpecNode := (ofKind .call).withAttribute "function" function

def test (subject pattern : String) : SpecNode :=
  ((ofKind .test).withAttribute "subject" subject).withAttribute "pattern" pattern

def attribute? (node : SpecNode) (name : String) : Option String := node.attributes.get? name

/-- An attribute, or the text of the element where it is missing. -/
def attributeOrText? (node : SpecNode) (name : String) : Option String :=
  node.attribute? name <|> node.text

end SpecNode

end Signpost

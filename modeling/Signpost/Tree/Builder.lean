import Signpost.Pattern.Reader
import Signpost.Spec.Basic
import Signpost.Tree.Routes

/-!
# Building a tree of routes

The elements of a document become nodes in document order. A path with several segments becomes a
chain of paths; the last one gets its id and its children. A block is built once, apart from the
tree, and a reference copies what the block holds. A block is known to the siblings behind it and to
everything below them, so the blocks known at a place form a list with the latest first. It is noted
after its body has been built, so it does not know itself.
-/
namespace Signpost

/-- The blocks known at a place, the latest first. -/
abbrev Blocks := List (String × NodeId)

/-- A tree of routes with its table. -/
structure RouteTree where
  arena : Arena
  routes : RouteTable
  deriving DecidableEq, Repr

namespace RouteTree

open Text

def requireAttribute (spec : SpecNode) (name : String) : Except TreeError String :=
  match spec.attribute? name with
  | some value => .ok value
  | none => .error (.missingAttribute spec.kind.name name)

/-- An element that must not stand under the given node. -/
def unexpected {α : Type} (arena : Arena) (spec : SpecNode) (parent : NodeId) :
    Except TreeError α :=
  .error (.unexpectedElement spec.kind.name (arena.node parent).kind.name)

/-- Makes a node for an element that must not have children. -/
def placeLeaf (arena : Arena) (parent : NodeId) (spec : SpecNode) (kind : NodeKind) :
    Except TreeError Arena :=
  match spec.children with
  | child :: _ => .error (.unexpectedElement child.kind.name spec.kind.name)
  | [] => do return (← arena.insert parent { kind }).1

/-- Cuts a list of arguments at commas outside double quotes, which are dropped. -/
def splitQuoted (quoted : Bool) : List Char → List (List Char)
  | [] => [[]]
  | c :: rest =>
    if c = '"' then splitQuoted (!quoted) rest
    else if c = ',' ∧ !quoted then [] :: splitQuoted quoted rest
    else (splitQuoted quoted rest).modifyHead (c :: ·)

/-- The arguments of an attribute: trimmed, and without empty ones. -/
def splitArguments (text : String) : List String :=
  (((splitQuoted false text.toList).map (strip isBlank)).filter fun argument =>
    !argument.isEmpty).map String.ofList

/-- Changes the last element of a list that satisfies a condition, if there is one. -/
def changeLast? {α ε : Type} (condition : α → Bool) (change : α → Except ε α) :
    List α → Option (Except ε (List α))
  | [] => none
  | first :: rest =>
    match changeLast? condition change rest with
    | some changed => some (changed.map (first :: ·))
    | none => if condition first then some ((change first).map (· :: rest)) else none

/-- Gives a parameter the type and the functions that a declaration states. -/
def declareParameter (declaration : SpecNode) (parameter : Parameter) :
    Except PatternFault Parameter := do
  let parameter ← match declaration.attribute? "type" with
    | some token => do
      let (valueType, innerGroups) ← readType token
      pure { parameter with valueType, innerGroups }
    | none => pure parameter
  match declaration.attribute? "function" with
  | some text => return { parameter with functions := ← readFunctions text }
  | none => return parameter

/-- Applies a declaration to the parameter of a pattern that it names. -/
def declareInPattern (declaration : SpecNode) (name : String) (pattern : Pattern) :
    Except TreeError Pattern := do
  let parameters ← pattern.parameters.mapM fun parameter =>
    if parameter.name = name then
      (declareParameter declaration parameter).mapError fun fault =>
        TreeError.pattern ⟨pattern.source, fault⟩
    else .ok parameter
  return { pattern with parameters }

/-- Applies a declaration to the last segment that has a parameter with its name. -/
def applyDeclaration (route : String) (patterns : List Pattern) (declaration : SpecNode) :
    Except TreeError (List Pattern) := do
  let name ← requireAttribute declaration "name"
  match changeLast? (fun pattern => (pattern.parameter? name).isSome)
      (declareInPattern declaration name) patterns with
  | some changed => changed
  | none => .error (.unknownParameter name (stripSlashes route))

/-- The segment patterns of a path, its parameter declarations applied. -/
def pathPatterns (spec : SpecNode) : Except TreeError (List Pattern) := do
  let route := (spec.attribute? "pattern").getD ""
  let patterns ← ((splitRoute route).mapM Pattern.read).mapError TreeError.pattern
  (spec.children.filter fun child => child.kind = .parameter).foldlM (applyDeclaration route)
    patterns

/-- A node for a segment; it binds the names of its parameters. -/
def segmentContent (pattern : Pattern) (id : Option String) : NodeContent :=
  { kind := if pattern.isLiteral then .path pattern id else .regexPath pattern id
    localVars := pattern.parameters.map (·.name) }

/-- Makes a chain of paths, the last one with the id; without patterns it is a blank path. -/
def placeSegments (arena : Arena) (parent : NodeId) (id : Option String) :
    List Pattern → Except TreeError (Arena × NodeId)
  | [] => arena.insert parent { kind := .blankPath id }
  | [last] => arena.insert parent (segmentContent last id)
  | pattern :: rest => do
    let (arena, node) ← arena.insert parent (segmentContent pattern none)
    placeSegments arena node id rest

def placePath (arena : Arena) (parent : NodeId) (spec : SpecNode) :
    Except TreeError (Arena × NodeId) := do
  placeSegments arena parent (spec.attribute? "id") (← pathPatterns spec)

/-- Copies what a block holds: its values to the owner of the scope, its children to the parent. -/
def placeReference (blocks : Blocks) (arena : Arena) (parent : NodeId) (spec : SpecNode) :
    Except TreeError Arena := do
  let name ← requireAttribute spec "name"
  match blocks.lookup name with
  | none => .error (.undeclaredBlock name)
  | some block =>
    let owner := arena.scopeOwner parent
    let bound := (arena.node block).values.foldl
      (fun arena entry => arena.setValue owner entry.1 entry.2) arena
    bound.copyAll parent (bound.subtree block).children

/-- Under a call an argument is a node of its own; anywhere else it binds a value. -/
def placeArgument (arena : Arena) (parent : NodeId) (spec : SpecNode) :
    Except TreeError Arena := do
  let value := (spec.attributeOrText? "value").getD ""
  if (arena.node parent).kind.isCall then placeLeaf arena parent spec (.arg value)
  else
    let name ← requireAttribute spec "name"
    return arena.setValue (arena.scopeOwner parent) name value

def placeCall (arena : Arena) (parent : NodeId) (spec : SpecNode) : Except TreeError Arena := do
  let function := trim ((spec.attributeOrText? "function").getD "")
  if function.isEmpty then .error (.missingAttribute "call" "function")
  else
    let arguments := ((spec.attribute? "with").map splitArguments).getD []
    let (arena, call) ← arena.insert parent { kind := .call function arguments }
    spec.children.foldlM
      (fun arena child =>
        if child.kind = .arg then placeArgument arena call child
        else unexpected arena child call)
      arena

/-- Makes a switch and finds its value: an attribute, or else the text or the call that its first
value element holds. -/
def placeSwitch (arena : Arena) (parent : NodeId) (spec : SpecNode) :
    Except TreeError (Arena × NodeId) := do
  let (arena, switch) ← arena.insert parent { kind := .switch none }
  match spec.attribute? "value" with
  | some value =>
    return (arena.modify switch fun node => { node with kind := .switch (some value) }, switch)
  | none =>
    match spec.children.find? fun child => child.kind = .value with
    | none => .error (.missingAttribute "switch" "value")
    | some holder =>
      match holder.children with
      | [] =>
        let value := holder.text.getD ""
        return (arena.modify switch fun node => { node with kind := .switch (some value) }, switch)
      | call :: _ =>
        if call.kind = .call then return (← placeCall arena switch call, switch)
        else .error (.unexpectedElement call.kind.name "value")

/-- Makes a test; it binds the numbers of the groups and their names. -/
def placeTest (arena : Arena) (parent : NodeId) (spec : SpecNode) :
    Except TreeError (Arena × NodeId) := do
  let pattern ← requireAttribute spec "pattern"
  let subject := (spec.attribute? "subject").getD ""
  match Regex.compile? pattern with
  | none => .error (.invalidTestPattern pattern)
  | some regex =>
    let names := (List.range (regex.groupCount + 1)).map toString ++ regex.groupNames
    arena.insert parent { kind := .test pattern subject, localVars := names.eraseDups }

mutual

/-- Builds an element under a parent and returns the blocks known behind it. -/
def buildNode (blocks : Blocks) (arena : Arena) (parent : NodeId) :
    SpecNode → Except TreeError (Blocks × Arena)
  | ⟨kind, attributes, text, children⟩ => do
    let spec : SpecNode := ⟨kind, attributes, text, children⟩
    match kind with
    | .block =>
      let name ← requireAttribute spec "name"
      let (arena, block) := arena.alloc { kind := .block name }
      let arena ← buildChildren blocks arena block children
      return ((name, block) :: blocks, arena)
    | .ref => return (blocks, ← placeReference blocks arena parent spec)
    | .path =>
      let (arena, path) ← placePath arena parent spec
      return (blocks, ← buildChildren blocks arena path children)
    | .set =>
      let name ← requireAttribute spec "name"
      let value := (spec.attributeOrText? "value").getD ""
      return (blocks, ← placeLeaf arena parent spec (.set name value))
    | .arg => return (blocks, ← placeArgument arena parent spec)
    | .return => return (blocks, ← placeLeaf arena parent spec (.return attributes))
    | .switch =>
      let (arena, switch) ← placeSwitch arena parent spec
      return (blocks, ← buildCases blocks false arena switch children)
    | .call => return (blocks, ← placeCall arena parent spec)
    | .test =>
      let (arena, test) ← placeTest arena parent spec
      return (blocks, ← buildChildren blocks arena test children)
    | .parameter =>
      if (arena.node parent).kind.pattern?.isSome then return (blocks, arena)
      else unexpected arena spec parent
    | .router | .value | .case | .default => unexpected arena spec parent

/-- Builds elements in order; each may use the blocks before it. -/
def buildChildren (blocks : Blocks) (arena : Arena) (parent : NodeId) :
    List SpecNode → Except TreeError Arena
  | [] => .ok arena
  | child :: rest => do
    let (blocks, arena) ← buildNode blocks arena parent child
    buildChildren blocks arena parent rest

/-- Builds the cases of a switch, of which at most one is the default. -/
def buildCases (blocks : Blocks) (hasDefault : Bool) (arena : Arena) (switch : NodeId) :
    List SpecNode → Except TreeError Arena
  | [] => .ok arena
  | ⟨kind, attributes, text, children⟩ :: rest => do
    let spec : SpecNode := ⟨kind, attributes, text, children⟩
    match kind with
    | .value => buildCases blocks hasDefault arena switch rest
    | .case =>
      match spec.attributeOrText? "value" with
      | none => .error (.missingAttribute "case" "value")
      | some value =>
        let (arena, case) ← arena.insert switch { kind := .case value }
        let arena ← buildChildren blocks arena case children
        buildCases blocks hasDefault arena switch rest
    | .default =>
      if hasDefault then unexpected arena spec switch
      else
        let (arena, default) ← arena.insert switch { kind := .default }
        let arena ← buildChildren blocks arena default children
        buildCases blocks true arena switch rest
    | _ => unexpected arena spec switch

end

/-- Builds the tree of a document. -/
def build (spec : SpecNode) : Except TreeError RouteTree := do
  if spec.kind = .router then
    let arena ← buildChildren [] .start Arena.root spec.children
    let routes ← RouteTable.collect {} [] (arena.subtree Arena.root)
    return { arena, routes }
  else .error (.unexpectedElement spec.kind.name "document")

end RouteTree

end Signpost

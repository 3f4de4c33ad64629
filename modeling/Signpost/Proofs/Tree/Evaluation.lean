import Signpost.Machine
import Signpost.Program.Batch
import Signpost.Tree.Builder
import Signpost.Tree.Level

/-!
# Evaluating a tree

What a tree of routes means for a request, read off its nodes without a program: no code, no cursor
and no decision made beforehand. A body is evaluated at a node and at the index of the next segment.
Its values stand around it as one frame. Then come its control nodes in their order, then the next
segment, for a literal path before a parameterized one, and last its return. Only a return ends an
evaluation; a path whose body meets none lets the evaluation go on behind it.

Everything below a node has a greater number, so an evaluation never nests deeper than there are
nodes.
-/
namespace Signpost.Evaluation

/-- What an evaluation refers to. -/
structure Context where
  arena : Arena
  functions : FunctionRegistry
  limit : Nat
  request : Request

structure State where
  scope : Scope := {}
  calls : List Call := []

/-- An outcome, if a return has been met, and the state behind it. -/
abbrev Flow := Option Outcome × State

/-- Goes on unless a return has been met. -/
def Flow.andThen (flow : Flow) (next : State → Flow) : Flow :=
  match flow with
  | (some outcome, state) => (some outcome, state)
  | (none, state) => next state

/-- Evaluates under one more frame. -/
def framed (frame : Frame) (state : State) (body : State → Flow) : Flow :=
  let (outcome, state) := body { state with scope := state.scope.push frame }
  (outcome, { state with scope := state.scope.pop })

variable (context : Context)

/-! ### Templates and calls -/

def token (scope : Scope) : TemplateToken → String × List Call
  | .text text => (text, [])
  | .variable name filters =>
    let chain := (context.functions.resolve filters).toOption.getD []
    let value := Machine.resolve context.request scope true name
    (RouteFunction.applyChain chain value, RouteFunction.chainCalls chain value)

def tokens (scope : Scope) : List TemplateToken → String × List Call
  | [] => ("", [])
  | first :: rest =>
    let (text, calls) := token context scope first
    let (more, later) := tokens scope rest
    (text ++ more, calls ++ later)

def render (state : State) (source : String) : String × State :=
  let (text, calls) := tokens context state.scope (Template.tokens source)
  (text, { state with calls := state.calls ++ calls })

def renderAll (state : State) : List String → List String × State
  | [] => ([], state)
  | source :: rest =>
    let (text, state) := render context state source
    let (texts, state) := renderAll state rest
    (text :: texts, state)

def renderEntries (state : State) (entries : List (String × String)) :
    List (String × String) × State :=
  let (texts, state) := renderAll context state (entries.map (·.2))
  ((entries.map (·.1)).zip texts, state)

def call (state : State) (name : String) (arguments : List String) : String × State :=
  let (texts, state) := renderAll context state arguments
  match context.functions.get? name with
  | some function => (function.run texts, { state with calls := state.calls ++ [⟨function, texts⟩] })
  | none => ("", state)

/-! ### Nodes -/

def kind (node : NodeId) : NodeKind := (context.arena.node node).kind

/-- The arguments of a call: those of its attribute and then those of its argument nodes. -/
def callArguments (node : NodeId) (stated : List String) : List String :=
  stated ++ (context.arena.level node).filterMap fun member =>
    match kind context member with
    | .arg value => some value
    | _ => none

def switchValue (state : State) (node : NodeId) : Option String → String × State
  | some source => render context state source
  | none =>
    match context.arena.level node with
    | first :: _ =>
      match kind context first with
      | .call function arguments =>
        call context state function (callArguments context first arguments)
      | _ => ("", state)
    | [] => ("", state)

/-- The parameterized paths of a level. -/
def parameterized (members : List NodeId) : List NodeId :=
  members.filter fun member =>
    match kind context member with
    | .regexPath .. => true
    | _ => false

def patterns (members : List NodeId) : List Pattern :=
  members.filterMap fun member =>
    match kind context member with
    | .regexPath pattern _ => some pattern
    | _ => none

/-- The parameterized path of a level that a segment selects, and the frame of its captures. -/
def selected? (members : List NodeId) (segment : String) : Option (NodeId × Frame) := do
  let groups ← (Batch.merge context.limit 0 (patterns context members)).toOption
  let (arm, frame) ← Machine.select groups segment
  let node ← (parameterized context members)[arm]?
  return (node, frame)

section

-- how bodies further down are evaluated
variable (body : NodeId → Nat → State → Flow)

/-- The first case whose rendered value is the given one, or else what is left to do. -/
def cases (index : Nat) (value : String) (otherwise : State → Flow) :
    List NodeId → State → Flow
  | [], state => otherwise state
  | member :: rest, state =>
    match kind context member with
    | .case source =>
      let (text, state) := render context state source
      if text = value then body member index state
      else cases index value otherwise rest state
    | _ => cases index value otherwise rest state

/-- The default of a switch; there is at most one. -/
def default? (members : List NodeId) : Option NodeId :=
  (members.filter fun member => kind context member = .default).getLast?

def control (index : Nat) (node : NodeId) (state : State) : Flow :=
  match kind context node with
  | .switch stated =>
    let (value, state) := switchValue context state node stated
    let members := context.arena.level node
    let otherwise (state : State) : Flow :=
      match default? context members with
      | some default => body default index state
      | none => (none, state)
    cases context body index value otherwise members state
  | .test source subject =>
    let (text, state) := render context state subject
    match (Regex.compile? source).bind fun regex => Machine.testFrame? regex text with
    | some frame => framed frame state (body node index)
    | none => (none, state)
  | .call function arguments =>
    (none, (call context state function (callArguments context node arguments)).2)
  | .set name source =>
    let (value, state) := render context state source
    (none, { state with scope := state.scope.set name value })
  | _ => (none, state)

def controls (index : Nat) : List NodeId → State → Flow
  | [], state => (none, state)
  | member :: rest, state =>
    Flow.andThen (control context body index member state) (controls index rest)

def literal (index : Nat) (members : List NodeId) (segment : String) (state : State) : Flow :=
  match members.find? fun member => (kind context member).literal? == some segment with
  | some member => body member (index + 1) state
  | none => (none, state)

def parameter (index : Nat) (members : List NodeId) (segment : String) (state : State) : Flow :=
  match selected? context members segment with
  | some (member, frame) => framed frame state (body member (index + 1))
  | none => (none, state)

/-- The paths of a level, if there is a next segment. -/
def paths (index : Nat) (members : List NodeId) (state : State) : Flow :=
  match context.request.segment? index with
  | some segment =>
    (literal context body index members segment state).andThen
      (parameter context body index members segment)
  | none => (none, state)

/-- The first return of a level; its code is 200 unless it states one. -/
def answer (members : List NodeId) (state : State) : Flow :=
  match members.findSome? fun member =>
      match kind context member with
      | .return attributes => some attributes
      | _ => none with
  | some attributes =>
    let (fields, state) := renderEntries context state attributes.entries
    let fields := if attributes.contains "code" then fields else ("code", "200") :: fields
    (some (.ofFields fields), state)
  | none => (none, state)

def level (index : Nat) (node : NodeId) (state : State) : Flow :=
  let members := context.arena.level node
  ((controls context body index members state).andThen
    (paths context body index members)).andThen (answer context members)

def node (index : Nat) (node : NodeId) (state : State) : Flow :=
  let values := (context.arena.node node).values
  if values.isEmpty then level context body index node state
  else
    let (frame, state) := renderEntries context state values
    framed frame state (level context body index node)

end

/-- Evaluates the body of a node, nesting at most so deep. -/
def evaluate : Nat → NodeId → Nat → State → Flow
  | 0, _, _, state => (none, state)
  | fuel + 1, id, index, state => node context (evaluate fuel) index id state

end Signpost.Evaluation

namespace Signpost.RouteTree

/-- What a tree answers to a request, and the calls that are made for the answer. -/
def evaluate (tree : RouteTree) (functions : FunctionRegistry) (limit : Nat) (request : Request) :
    Outcome × List Call :=
  let (outcome, state) := Evaluation.evaluate ⟨tree.arena, functions, limit, request⟩
    tree.arena.size Arena.root 0 {}
  (outcome.getD .notFound, state.calls)

end Signpost.RouteTree

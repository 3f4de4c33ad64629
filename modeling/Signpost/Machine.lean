import Signpost.Outcome
import Signpost.Program.Basic
import Signpost.Request
import Signpost.Scope

/-!
# Running programs

A program runs on one request. The state is the scope, the cursor, the number of its moves and the
calls made so far. A run ends early with the outcome of a return, and a frame is taken off again
however the body that it surrounds ends.
-/
namespace Signpost

/-- Where a run stands. -/
structure MachineState where
  scope : Scope := {}
  cursor : Nat := 0
  advances : Nat := 0
  retreats : Nat := 0
  calls : List Call := []

/-- An outcome, if a return has been met, and the state behind it. -/
abbrev Flow := Option Outcome × MachineState

namespace Machine

/-- The value of a variable: bound by a frame, global, from the query, an attribute or computed;
empty if it is none of these. -/
def resolve (request : Request) (scope : Scope) (framed : Bool) (name : String) : String :=
  ((if framed then scope.lookup? name else none)
    <|> scope.global? name
    <|> request.parameter? name
    <|> request.attribute? name
    <|> request.derived? name).getD ""

/-- The text of a part and the calls that its filters make. -/
def renderPart (request : Request) (scope : Scope) : TemplatePart → String × List Call
  | .text text => (text, [])
  | .variable name filters framed =>
    let value := resolve request scope framed name
    (RouteFunction.applyChain filters value, RouteFunction.chainCalls filters value)

def renderParts (request : Request) (scope : Scope) : List TemplatePart → String × List Call
  | [] => ("", [])
  | part :: rest =>
    let (text, calls) := renderPart request scope part
    let (more, later) := renderParts request scope rest
    (text ++ more, calls ++ later)

/-- Renders a template. -/
def render (request : Request) (state : MachineState) (template : CompiledTemplate) :
    String × MachineState :=
  let (text, calls) := renderParts request state.scope template.parts
  (text, { state with calls := state.calls ++ calls })

/-- Renders templates in order. -/
def renderAll (request : Request) (state : MachineState) :
    List CompiledTemplate → List String × MachineState
  | [] => ([], state)
  | template :: rest =>
    let (text, state) := render request state template
    let (texts, state) := renderAll request state rest
    (text :: texts, state)

/-- Renders named templates in order. -/
def renderEntries (request : Request) (state : MachineState)
    (entries : List (String × CompiledTemplate)) : List (String × String) × MachineState :=
  let (texts, state) := renderAll request state (entries.map (·.2))
  ((entries.map (·.1)).zip texts, state)

def call (request : Request) (state : MachineState) (site : CallSite) : String × MachineState :=
  let (arguments, state) := renderAll request state site.arguments
  (site.function.run arguments, { state with calls := state.calls ++ [⟨site.function, arguments⟩] })

def switchValue (request : Request) (state : MachineState) : SwitchValue → String × MachineState
  | .template source => render request state source
  | .call site => call request state site

/-- The segment that a dispatch looks at, if the cursor stands right behind it. -/
def current? (request : Request) (state : MachineState) (index : Nat) : Option String :=
  if state.cursor = index + 1 then request.segment? index else none

def advance (request : Request) (state : MachineState) (index : Nat) : MachineState :=
  if state.cursor = index ∧ (request.segment? index).isSome then
    { state with cursor := index + 1, advances := state.advances + 1 }
  else state

def retreat (state : MachineState) (index : Nat) : MachineState :=
  if state.cursor = index + 1 then { state with cursor := index, retreats := state.retreats + 1 }
  else state

def push (state : MachineState) (frame : Frame) : MachineState :=
  { state with scope := state.scope.push frame }

/-- Takes off the frame of a body that has ended. -/
def leave (flow : Flow) : Flow := (flow.1, { flow.2 with scope := flow.2.scope.pop })

/-- The text of a group, `none` if it takes no part in the match. -/
def groupText? (groups : List (Option String)) (index : Nat) : Option String := groups[index]?.join

/-- The branch of a merged expression that matches a segment, with the values of its parameters. -/
def selectBranch (segment : String) (group : BatchGroup) : Option (Nat × Frame) := do
  let groups ← group.regex.match? segment
  let branch ← group.branches.find? fun branch => (groupText? groups branch.markGroup).isSome
  return (branch.arm,
    branch.captures.map fun (name, index) => (name, (groupText? groups index).getD ""))

/-- The arm that a segment selects and the values that it binds. -/
def select (groups : List BatchGroup) (segment : String) : Option (Nat × Frame) :=
  groups.findSome? (selectBranch segment)

/-- The groups of a match by number, and then those with a name. -/
def testFrame? (regex : Regex) (subject : String) : Option Frame :=
  (regex.match? subject).map fun groups =>
    (groups.zipIdx.map fun (text, index) => (toString index, text.getD ""))
      ++ regex.captures.filterMap fun (index, name) =>
        name.map fun name => (name, (groupText? groups index).getD "")

mutual

/-- Runs instructions until one of them ends the run. -/
def runBody (request : Request) (state : MachineState) : List Instruction → Flow
  | [] => (none, state)
  | instruction :: rest =>
    match runInstruction request state instruction with
    | (some outcome, state) => (some outcome, state)
    | (none, state) => runBody request state rest

def runInstruction (request : Request) (state : MachineState) : Instruction → Flow
  | .advance index => (none, advance request state index)
  | .retreat index => (none, retreat state index)
  | .scope bindings body =>
    let (frame, state) := renderEntries request state bindings
    leave (runBody request (push state frame) body)
  | .literals index arms lookup =>
    -- the cursor has not moved where there is no segment, and then no arm is looked for
    match (current? request state index).bind fun segment => lookup.lookup segment with
    | some arm => runLiteral request state arm arms
    | none => (none, state)
  | .patterns index groups arms =>
    match (current? request state index).bind (select groups) with
    | some (arm, frame) => leave (runArm request (push state frame) arm arms)
    | none => (none, state)
  | .test regex subject body =>
    let (subject, state) := render request state subject
    match testFrame? regex subject with
    | some frame => leave (runBody request (push state frame) body)
    | none => (none, state)
  | .switch value cases default =>
    let (value, state) := switchValue request state value
    -- the default comes last wherever it stood, and the calls made on the way to it stay made
    runCases request state value (fun state => runDefault request state default) cases
  | .set name value =>
    let (value, state) := render request state value
    (none, { state with scope := state.scope.set name value })
  | .call site => (none, (call request state site).2)
  | .return fields =>
    let (fields, state) := renderEntries request state fields
    (some (.ofFields fields), state)

/-- Runs the arm of a literal, given by its position. -/
def runLiteral (request : Request) (state : MachineState) (arm : Nat) :
    List (String × List Instruction) → Flow
  | [] => (none, state)
  | (_, body) :: rest =>
    match arm with
    | 0 => runBody request state body
    | arm + 1 => runLiteral request state arm rest

/-- Runs an arm, given by its position. -/
def runArm (request : Request) (state : MachineState) (arm : Nat) :
    List (List Instruction) → Flow
  | [] => (none, state)
  | body :: rest =>
    match arm with
    | 0 => runBody request state body
    | arm + 1 => runArm request state arm rest

/-- Runs the first case whose rendered value is the given one, or else what is left to do. -/
def runCases (request : Request) (state : MachineState) (value : String)
    (otherwise : MachineState → Flow) : List (CompiledTemplate × List Instruction) → Flow
  | [] => otherwise state
  | (template, body) :: rest =>
    let (text, state) := render request state template
    if text = value then runBody request state body
    else runCases request state value otherwise rest

def runDefault (request : Request) (state : MachineState) : Option (List Instruction) → Flow
  | none => (none, state)
  | some body => runBody request state body

end

end Machine

/-- What a run on a request leaves behind. -/
structure Execution where
  outcome : Outcome
  advances : Nat
  retreats : Nat
  calls : List Call

/-- Runs a program on a request; without a return nothing has been found. -/
def Program.execute (program : Program) (request : Request) : Execution :=
  let (outcome, state) := Machine.runBody request {} program.entry
  ⟨outcome.getD .notFound, state.advances, state.retreats, state.calls⟩

end Signpost

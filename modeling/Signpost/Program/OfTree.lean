import Signpost.Program.Batch
import Signpost.Tree.Builder
import Signpost.Tree.Level

/-!
# The program of a tree

The body of a node is the code of the control nodes on its level in their order, then the dispatch
on the next segment, literals before patterns, and then the returns. If values are bound at the
node, a scope stands around all of it. A node below `depth` paths dispatches on segment `depth`.

The marks of branches are numbered through the whole program in the order in which levels are
merged.
-/
namespace Signpost

namespace Program

/-- How many marks and how many merged expressions there are so far. -/
structure Counters where
  marks : Nat := 0
  groups : Nat := 0
  deriving DecidableEq, Repr

abbrev Emission (α : Type) := StateT Counters (Except ProgramError) α

/-- What stays the same for the whole program: the functions and the length of a merged expression.
-/
structure Setting where
  functions : FunctionRegistry
  limit : Nat

namespace Setting

def template (setting : Setting) (visible : List String) (source : String) :
    Emission CompiledTemplate :=
  (CompiledTemplate.compile setting.functions visible source : Except ProgramError _)

def bindings (setting : Setting) (visible : List String) (entries : List (String × String)) :
    Emission (List (String × CompiledTemplate)) :=
  entries.mapM fun (name, source) => do return (name, ← setting.template visible source)

def callSite (setting : Setting) (visible : List String) (function : String)
    (arguments : List String) : Emission CallSite :=
  match setting.functions.get? function with
  | none => throw (.unknownFunction function)
  | some function => do return ⟨function, ← arguments.mapM (setting.template visible)⟩

/-- The call of a call node; the values of its arguments follow those of its attribute. -/
def callOf (setting : Setting) (tree : LevelTree) (function : String) (arguments : List String) :
    Emission CallSite :=
  let more := tree.members.filterMap fun member =>
    match member.kind with
    | .arg value => some value
    | _ => none
  setting.callSite tree.visible function (arguments ++ more)

/-- The value of a switch: its attribute, or the call that is its first member. -/
def switchValue (setting : Setting) (tree : LevelTree) (value : Option String) :
    Emission SwitchValue :=
  match value with
  | some source => do return .template (← setting.template tree.visible source)
  | none =>
    match tree.members with
    | member :: _ =>
      match member.kind with
      | .call function arguments => do return .call (← setting.callOf member function arguments)
      | _ => return .template (.literal "")
    | [] => return .template (.literal "")

/-- The fields of a return, with a code in front unless it states one. -/
def returnFields (setting : Setting) (visible : List String) (attributes : Attributes) :
    Emission (List (String × CompiledTemplate)) := do
  let fields ← setting.bindings visible attributes.entries
  if attributes.contains "code" then return fields
  else return ("code", .literal "200") :: fields

/-- The returns of a level. -/
def returns (setting : Setting) : List LevelTree → Emission (List Instruction)
  | [] => return []
  | member :: rest =>
    match member.kind with
    | .return attributes => do
      let fields ← setting.returnFields member.visible attributes
      return .return fields :: (← setting.returns rest)
    | _ => setting.returns rest

/-- The merged expressions of the patterns of a level. -/
def mergedGroups (setting : Setting) (members : List LevelTree) : Emission (List BatchGroup) := do
  let patterns := members.filterMap fun member =>
    match member.kind with
    | .regexPath pattern _ => some pattern
    | _ => none
  let counters ← get
  let groups ← (Batch.merge setting.limit counters.marks patterns : Except ProgramError _)
  set ({ marks := counters.marks + patterns.length, groups := counters.groups + groups.length } :
    Counters)
  return groups

end Setting

/-- Finds the arm of a literal; the first arm of several with one literal counts. -/
def literalLookup (arms : List (String × List Instruction)) : List (String × Nat) :=
  (arms.zipIdx.map fun (arm, index) => (arm.1, index)).foldl
    (fun lookup entry =>
      if (lookup.lookup entry.1).isSome then lookup else lookup ++ [entry]) []

/-- The dispatch on segment `depth`, between the two moves of the cursor, if there are arms. -/
def dispatch (depth : Nat) (literals : List (String × List Instruction))
    (groups : List BatchGroup) (arms : List (List Instruction)) : List Instruction :=
  if literals.isEmpty && arms.isEmpty then []
  else
    [.advance depth]
      ++ (if literals.isEmpty then [] else [.literals depth literals (literalLookup literals)])
      ++ (if arms.isEmpty then [] else [.patterns depth groups arms])
      ++ [.retreat depth]

mutual

/-- The code of a node's body. -/
def emitBody (setting : Setting) (depth : Nat) : LevelTree → Emission (List Instruction)
  | .node _ content outer members => do
    let visible := outer ++ content.localVars
    -- marks and merged expressions get their numbers in the order of these lines
    let controls ← emitControls setting depth members
    let literals ← emitLiterals setting depth members
    let groups ← setting.mergedGroups members
    let arms ← emitArms setting depth members
    let returns ← setting.returns members
    let body := controls ++ dispatch depth literals groups arms ++ returns
    if content.values.isEmpty then return body
    else return [.scope (← setting.bindings visible content.values) body]

/-- The code of the control nodes of a level. -/
def emitControls (setting : Setting) (depth : Nat) :
    List LevelTree → Emission (List Instruction)
  | [] => return []
  | .node id content outer members :: rest => do
    let tree : LevelTree := .node id content outer members
    let here ← match content.kind with
      | .switch value => do
        let value ← setting.switchValue tree value
        let (cases, default) ← emitCases setting depth members
        pure [.switch value cases default]
      | .test source subject =>
        match Regex.compile? source with
        | none => throw (.invalidRegex source)
        | some regex => do
          -- the groups of the test are bound around its body and not around its subject
          let subject ← setting.template outer subject
          let body ← emitBody setting depth (.node id content outer members)
          pure [.test regex subject body]
      | .call function arguments => do pure [.call (← setting.callOf tree function arguments)]
      | .set name value => do pure [.set name (← setting.template tree.visible value)]
      | _ => pure []
    return here ++ (← emitControls setting depth rest)

/-- The cases of a switch and its default. -/
def emitCases (setting : Setting) (depth : Nat) : List LevelTree →
    Emission (List (CompiledTemplate × List Instruction) × Option (List Instruction))
  | [] => return ([], none)
  | .node id content outer members :: rest => do
    let tree : LevelTree := .node id content outer members
    match content.kind with
    | .case source =>
      let value ← setting.template tree.visible source
      let body ← emitBody setting depth (.node id content outer members)
      let (cases, default) ← emitCases setting depth rest
      return ((value, body) :: cases, default)
    | .default =>
      let body ← emitBody setting depth (.node id content outer members)
      let (cases, default) ← emitCases setting depth rest
      -- a default further back is preferred
      return (cases, default <|> some body)
    | _ => emitCases setting depth rest

/-- The arms of the literal paths of a level. -/
def emitLiterals (setting : Setting) (depth : Nat) :
    List LevelTree → Emission (List (String × List Instruction))
  | [] => return []
  | .node id content outer members :: rest => do
    match content.kind.literal? with
    | some literal =>
      let body ← emitBody setting (depth + 1) (.node id content outer members)
      return (literal, body) :: (← emitLiterals setting depth rest)
    | none => emitLiterals setting depth rest

/-- The arms of the parameterized paths of a level. -/
def emitArms (setting : Setting) (depth : Nat) :
    List LevelTree → Emission (List (List Instruction))
  | [] => return []
  | .node id content outer members :: rest => do
    match content.kind with
    | .regexPath .. =>
      let body ← emitBody setting (depth + 1) (.node id content outer members)
      return body :: (← emitArms setting depth rest)
    | _ => emitArms setting depth rest

end

/-- The program of a tree whose root is given with its levels. -/
def ofLevels (functions : FunctionRegistry) (limit : Nat) (tree : LevelTree) :
    Except ProgramError Program := do
  let (entry, counters) ← (emitBody ⟨functions, limit⟩ 0 tree).run {}
  return ⟨entry, counters.groups, counters.marks⟩

/-- The program of a tree of routes. -/
def ofTree (functions : FunctionRegistry) (limit : Nat) (tree : RouteTree) :
    Except ProgramError Program :=
  ofLevels functions limit (tree.arena.subtree Arena.root).levels

end Program

end Signpost

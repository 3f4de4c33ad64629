import Signpost.Functions
import Signpost.Regex.Basic
import Signpost.Template

/-!
# Programs

A tree of routes is evaluated as a program. Its instructions nest: a dispatch holds the code of its
arms, a test that of its body. A cursor counts the segments that have been taken; a dispatch looks
at the segment before the cursor, and an advance and a retreat around it move the cursor there and
back.

Functions and regular expressions stand in the program itself, so nothing has to be looked up when
it runs.
-/
namespace Signpost

/-- Text, or a variable with the functions that its value goes through. A variable that is not
framed cannot be bound by a frame, so frames are not searched for it. -/
inductive TemplatePart
  | text (text : String)
  | variable (name : String) (filters : List RouteFunction) (framed : Bool)

structure CompiledTemplate where
  source : String
  parts : List TemplatePart

def CompiledTemplate.literal (text : String) : CompiledTemplate := ⟨text, [.text text]⟩

structure CallSite where
  function : RouteFunction
  arguments : List CompiledTemplate

/-- An alternative of a merged expression: the group that takes part only in its matches, and the
groups of its parameters. -/
structure BranchSlot where
  mark : Nat
  arm : Nat
  markGroup : Nat
  captures : List (String × Nat)
  deriving DecidableEq, Repr

/-- A merged expression and the branches it can select. -/
structure BatchGroup where
  regex : Regex
  branches : List BranchSlot
  deriving DecidableEq, Repr

inductive SwitchValue
  | template (template : CompiledTemplate)
  | call (site : CallSite)

inductive Instruction
  /-- Moves the cursor past segment `index` when that segment exists. -/
  | advance (index : Nat)
  /-- Moves the cursor back to segment `index` when it stands behind it. -/
  | retreat (index : Nat)
  /-- Binds rendered values around a body. -/
  | scope (bindings : List (String × CompiledTemplate)) (body : List Instruction)
  /-- Runs the arm whose literal the segment is, found through the lookup. -/
  | literals (index : Nat) (arms : List (String × List Instruction)) (lookup : List (String × Nat))
  /-- Runs the arm that the first matching group selects. -/
  | patterns (index : Nat) (groups : List BatchGroup) (arms : List (List Instruction))
  | test (regex : Regex) (subject : CompiledTemplate) (body : List Instruction)
  | switch (value : SwitchValue) (cases : List (CompiledTemplate × List Instruction))
      (default : Option (List Instruction))
  | set (name : String) (value : CompiledTemplate)
  | call (site : CallSite)
  | return (fields : List (String × CompiledTemplate))

/-- A program with the number of its merged expressions and of their branches. -/
structure Program where
  entry : List Instruction
  regexGroups : Nat
  branches : Nat

/-- Why a tree of routes does not become a program. -/
inductive ProgramError
  | unknownFunction (name : String)
  | invalidRegex (regex : String)
  deriving DecidableEq, Repr

def ProgramError.message : ProgramError → String
  | .unknownFunction name => s!"unknown function `{name}`"
  | .invalidRegex regex => s!"generated regex '{regex}' failed to compile: <regex error>"

namespace CompiledTemplate

/-- A token with its filters found and its visibility decided. -/
def compileToken (functions : FunctionRegistry) (visible : List String) :
    TemplateToken → Except ProgramError TemplatePart
  | .text text => .ok (.text text)
  | .variable name filters =>
    match functions.resolve filters with
    | .ok filters => .ok (.variable name filters (name ∈ visible))
    | .error unknown => .error (.unknownFunction unknown)

/-- Compiles a template where the given names are visible. -/
def compile (functions : FunctionRegistry) (visible : List String) (source : String) :
    Except ProgramError CompiledTemplate := do
  return ⟨source, ← (Template.tokens source).mapM (compileToken functions visible)⟩

end CompiledTemplate

end Signpost

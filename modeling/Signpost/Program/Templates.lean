import Signpost.Program.Basic

/-!
# Templates of a program

All templates of a program, in the order of its listing: those of a scope, a test or a switch before
the bodies that belong to it, and bodies in their order.
-/
namespace Signpost

def SwitchValue.templates : SwitchValue → List CompiledTemplate
  | .template source => [source]
  | .call site => site.arguments

namespace Program

mutual

def instructionTemplates : Instruction → List CompiledTemplate
  | .advance _ | .retreat _ => []
  | .scope bindings body => bindings.map (·.2) ++ bodyTemplates body
  | .literals _ arms _ => literalTemplates arms
  | .patterns _ _ arms => armTemplates arms
  | .test _ subject body => subject :: bodyTemplates body
  | .switch value cases default =>
    value.templates ++ caseTemplates cases ++ defaultTemplates default
  | .set _ value => [value]
  | .call site => site.arguments
  | .return fields => fields.map (·.2)

def bodyTemplates : List Instruction → List CompiledTemplate
  | [] => []
  | instruction :: rest => instructionTemplates instruction ++ bodyTemplates rest

def literalTemplates : List (String × List Instruction) → List CompiledTemplate
  | [] => []
  | (_, body) :: rest => bodyTemplates body ++ literalTemplates rest

def armTemplates : List (List Instruction) → List CompiledTemplate
  | [] => []
  | body :: rest => bodyTemplates body ++ armTemplates rest

def caseTemplates : List (CompiledTemplate × List Instruction) → List CompiledTemplate
  | [] => []
  | (value, body) :: rest => value :: bodyTemplates body ++ caseTemplates rest

def defaultTemplates : Option (List Instruction) → List CompiledTemplate
  | none => []
  | some body => bodyTemplates body

end

def templates (program : Program) : List CompiledTemplate := bodyTemplates program.entry

end Program

end Signpost

import Signpost.Program.Basic

/-!
# Listings

A program is listed with one instruction to a line, bodies indented under what they belong to. Texts
are quoted; names and regular expressions stand as they are.
-/
namespace Signpost

/-- A decimal number with leading zeros up to four digits. -/
def BranchSlot.label (slot : BranchSlot) : String :=
  let digits := toString slot.mark
  "m" ++ String.ofList (List.replicate (4 - digits.length) '0') ++ digits

def BranchSlot.describe (slot : BranchSlot) : String :=
  let captures := slot.captures.map fun (name, group) => name ++ "@" ++ toString group
  slot.label ++ " @" ++ toString slot.markGroup ++ " -> arm " ++ toString slot.arm
    ++ " [" ++ String.intercalate ", " captures ++ "]"

def CompiledTemplate.describe (template : CompiledTemplate) : String :=
  Text.Quoted.quote template.source

def CallSite.describe (site : CallSite) : String :=
  site.function.name ++ "(" ++ String.intercalate ", " (site.arguments.map (·.describe)) ++ ")"

def SwitchValue.describe : SwitchValue → String
  | .template source => source.describe
  | .call site => "call " ++ site.describe

namespace Program

def line (depth : Nat) (text : String) : String :=
  String.ofList (List.replicate (2 * depth) ' ') ++ text ++ "\n"

def listGroup (depth : Nat) (group : BatchGroup) : String :=
  line depth ("group /" ++ group.regex.source ++ "/")
    ++ String.join (group.branches.map fun slot => line (depth + 1) slot.describe)

mutual

def listInstruction (depth : Nat) : Instruction → String
  | .advance index => line depth s!"advance {index}"
  | .retreat index => line depth s!"retreat {index}"
  | .scope bindings body =>
    line depth "scope"
      ++ String.join (bindings.map fun (name, value) =>
        line (depth + 2) (name ++ " = " ++ value.describe))
      ++ listBody (depth + 1) body
  | .literals index arms _ =>
    line depth s!"literal segment[{index}]" ++ listLiterals (depth + 1) arms
  | .patterns index groups arms =>
    line depth s!"pattern segment[{index}]"
      ++ String.join (groups.map (listGroup (depth + 1))) ++ listArms (depth + 1) 0 arms
  | .test regex subject body =>
    line depth ("test " ++ subject.describe ++ " ~ /" ++ regex.source ++ "/")
      ++ listBody (depth + 1) body
  | .switch value cases default =>
    line depth ("switch " ++ value.describe) ++ listCases (depth + 1) cases
      ++ listDefault (depth + 1) default
  | .set name value => line depth ("set " ++ name ++ " = " ++ value.describe)
  | .call site => line depth ("call " ++ site.describe)
  | .return fields =>
    line depth ("return " ++ String.intercalate " " (fields.map fun (name, value) =>
      name ++ "=" ++ value.describe))

def listBody (depth : Nat) : List Instruction → String
  | [] => ""
  | instruction :: rest => listInstruction depth instruction ++ listBody depth rest

def listLiterals (depth : Nat) : List (String × List Instruction) → String
  | [] => ""
  | (literal, body) :: rest =>
    line depth (Text.Quoted.quote literal ++ " =>") ++ listBody (depth + 1) body
      ++ listLiterals depth rest

def listArms (depth index : Nat) : List (List Instruction) → String
  | [] => ""
  | body :: rest =>
    line depth s!"arm {index} =>" ++ listBody (depth + 1) body ++ listArms depth (index + 1) rest

def listCases (depth : Nat) : List (CompiledTemplate × List Instruction) → String
  | [] => ""
  | (value, body) :: rest =>
    line depth ("case " ++ value.describe) ++ listBody (depth + 1) body ++ listCases depth rest

def listDefault (depth : Nat) : Option (List Instruction) → String
  | none => ""
  | some body => line depth "default" ++ listBody (depth + 1) body

end

/-- The listing of a program, every line ended. -/
def listing (program : Program) : String := listBody 0 program.entry

end Program

end Signpost

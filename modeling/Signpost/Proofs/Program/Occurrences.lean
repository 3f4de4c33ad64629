import Signpost.Proofs.Program.Arms

/-!
# Occurrences of instructions

All instructions of some code and of the bodies in it, each as often as it occurs. What is gathered from
the instructions of a body is put together from what its parts give.
-/
namespace Signpost

namespace Program

mutual

/-- The instructions in the bodies that an instruction holds. -/
def inner : Instruction → List Instruction
  | .scope _ body | .test _ _ body => occurrences body
  | .literals _ arms _ => literalOccurrences arms
  | .patterns _ _ arms => armOccurrences arms
  | .switch _ cases default => caseOccurrences cases ++ defaultOccurrences default
  | _ => []

/-- The instructions of some code, each followed by those in its bodies. -/
def occurrences : List Instruction → List Instruction
  | [] => []
  | instruction :: rest => instruction :: inner instruction ++ occurrences rest

def literalOccurrences : List (String × List Instruction) → List Instruction
  | [] => []
  | (_, body) :: rest => occurrences body ++ literalOccurrences rest

def armOccurrences : List (List Instruction) → List Instruction
  | [] => []
  | body :: rest => occurrences body ++ armOccurrences rest

def caseOccurrences : List (CompiledTemplate × List Instruction) → List Instruction
  | [] => []
  | (_, body) :: rest => occurrences body ++ caseOccurrences rest

def defaultOccurrences : Option (List Instruction) → List Instruction
  | none => []
  | some body => occurrences body

end

theorem inner_eq (instruction : Instruction) :
    inner instruction = instruction.bodies.flatMap occurrences := by
  -- One recursion over lists for each kind of arm; all of them are `flatMap`.
  have literal (arms : List (String × List Instruction)) :
      literalOccurrences arms = (arms.map (·.2)).flatMap occurrences := by
    induction arms with
    | nil => rfl
    | cons arm rest ih => rw [literalOccurrences, ih, List.map_cons, List.flatMap_cons]
  have arm (arms : List (List Instruction)) : armOccurrences arms = arms.flatMap occurrences := by
    induction arms with
    | nil => rfl
    | cons arm rest ih => rw [armOccurrences, ih, List.flatMap_cons]
  have case (cases : List (CompiledTemplate × List Instruction)) :
      caseOccurrences cases = (cases.map (·.2)).flatMap occurrences := by
    induction cases with
    | nil => rfl
    | cons case rest ih => rw [caseOccurrences, ih, List.map_cons, List.flatMap_cons]
  have default (body : Option (List Instruction)) :
      defaultOccurrences body = body.toList.flatMap occurrences := by
    cases body with
    | none => rfl
    | some body => exact (List.flatMap_singleton occurrences body).symm
  cases instruction with
  | scope bindings body => exact (List.flatMap_singleton occurrences body).symm
  | test regex subject body => exact (List.flatMap_singleton occurrences body).symm
  | literals index arms lookup => exact literal arms
  | patterns index groups arms => exact arm arms
  | switch value cases body =>
    rw [inner, case, default, Instruction.bodies, List.flatMap_append]
  | _ => rfl

/-! ### Gathering -/

section

variable {α : Type} (pick : Instruction → List α)

/-- What every instruction of some code gives. -/
def gather (code : List Instruction) : List α := (occurrences code).flatMap pick

@[simp]
theorem gather_nil : gather pick [] = [] := rfl

theorem gather_cons (instruction : Instruction) (rest : List Instruction) :
    gather pick (instruction :: rest)
      = pick instruction ++ instruction.bodies.flatMap (gather pick) ++ gather pick rest := by
  rw [gather, occurrences, inner_eq, List.flatMap_append, List.flatMap_cons, List.flatMap_assoc]
  rfl

theorem gather_append (first rest : List Instruction) :
    gather pick (first ++ rest) = gather pick first ++ gather pick rest := by
  induction first with
  | nil => rfl
  | cons instruction others ih =>
    rw [List.cons_append, gather_cons, ih, gather_cons, List.append_assoc, List.append_assoc,
      List.append_assoc]

theorem gather_single (instruction : Instruction) :
    gather pick [instruction] = pick instruction ++ instruction.bodies.flatMap (gather pick) := by
  rw [gather_cons, gather_nil, List.append_nil]

/-- Every instruction gives its own part and what its bodies give. -/
theorem gather_eq_flatMap (code : List Instruction) :
    gather pick code = code.flatMap fun instruction => gather pick [instruction] := by
  induction code with
  | nil => rfl
  | cons instruction rest ih => rw [← List.singleton_append, gather_append, ih, List.flatMap_append,
      List.flatMap_singleton]

theorem gather_flatten (parts : List (List Instruction)) :
    gather pick parts.flatten = parts.flatMap (gather pick) := by
  induction parts with
  | nil => rfl
  | cons part rest ih => rw [List.flatten_cons, gather_append, ih, List.flatMap_cons]

/-- A dispatch gives what its instructions give, if those without arms give nothing. -/
theorem gather_dispatch {depth : Nat} {literals : List (String × List Instruction)}
    {groups : List BatchGroup} {arms : List (List Instruction)}
    (advance : pick (.advance depth) = []) (retreat : pick (.retreat depth) = [])
    (textless : literals = [] → pick (.literals depth literals (literalLookup literals)) = [])
    (armless : arms = [] → pick (.patterns depth groups arms) = []) :
    gather pick (dispatch depth literals groups arms)
      = pick (.literals depth literals (literalLookup literals))
        ++ literals.flatMap (fun arm => gather pick arm.2)
        ++ (pick (.patterns depth groups arms) ++ arms.flatMap (gather pick)) := by
  have moves : Instruction.bodies (.advance depth) = [] ∧ Instruction.bodies (.retreat depth) = [] :=
    ⟨rfl, rfl⟩
  -- A dispatch without arms of one kind leaves the instruction for that kind out, where nothing is
  -- to be picked from it.
  have text : gather pick (if literals.isEmpty then []
        else [.literals depth literals (literalLookup literals)])
      = pick (.literals depth literals (literalLookup literals))
        ++ literals.flatMap fun arm => gather pick arm.2 := by
    cases literals with
    | nil => simp [textless rfl]
    | cons arm rest =>
      rw [if_neg (by simp), gather_single, Instruction.bodies, List.flatMap_map]
  have branch : gather pick (if arms.isEmpty then [] else [.patterns depth groups arms])
      = pick (.patterns depth groups arms) ++ arms.flatMap (gather pick) := by
    cases arms with
    | nil => simp [armless rfl]
    | cons arm rest => rw [if_neg (by simp), gather_single, Instruction.bodies]
  rw [dispatch]
  split
  next none =>
    obtain ⟨textless', armless'⟩ := Bool.and_eq_true_iff.mp none
    obtain rfl := List.isEmpty_iff.mp textless'
    obtain rfl := List.isEmpty_iff.mp armless'
    simp [textless rfl, armless rfl]
  next =>
    rw [gather_append, gather_append, gather_append, gather_single, gather_single, text, branch,
      advance, retreat, moves.1, moves.2]
    simp

end

end Program

end Signpost

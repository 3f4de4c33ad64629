import Signpost.Proofs.Program.Simulation

/-!
# Code that runs alike

No run tells two pieces of code apart if they end every run in the same state, with the same moves of
the cursor and the same calls. That holds of whole pieces if it holds of their parts, and of dispatches
if the same segments lead to arms that are alike, wherever these arms stand.
-/
namespace Signpost.Program

open Emission Machine

/-- An arm that is looked up by its text is the first one with this text. -/
theorem runInstruction_literals (request : Request) (state : MachineState) (depth : Nat)
    (arms : List (String × List Instruction)) :
    runInstruction request state (.literals depth arms (literalLookup arms))
      = runBody request state (((current? request state depth).bind fun segment =>
          (arms.find? (·.1 == segment)).map (·.2)).getD []) := by
  rw [runInstruction]
  cases current? request state depth with
  | none => simp [runBody]
  | some segment =>
    have arm := literalLookup_arm arms segment
    rw [Option.bind_some, Option.bind_some, ← arm]
    cases (literalLookup arms).lookup segment with
    | none => simp [runBody]
    | some position => exact runLiteral_eq position arms

/-- Two pieces of code that no run tells apart. -/
def Alike (code other : List Instruction) : Prop :=
  ∀ request state, runBody request state code = runBody request state other

namespace Alike

variable {code other : List Instruction}

theorem refl (code : List Instruction) : Alike code code := fun _ _ => rfl

theorem append {first first' rest rest' : List Instruction} (early : Alike first first')
    (late : Alike rest rest') : Alike (first ++ rest) (first' ++ rest') := by
  intro request state
  rw [runBody_append, runBody_append, early]
  split
  · rfl
  · exact late request _

theorem flatten {codes others : List (List Instruction)} (each : List.Forall₂ Alike codes others) :
    Alike codes.flatten others.flatten := by
  induction each with
  | nil => exact refl []
  | cons here _ ih =>
    rw [List.flatten_cons, List.flatten_cons]
    exact here.append ih

theorem single {instruction instruction' : Instruction}
    (same : ∀ request state,
      runInstruction request state instruction = runInstruction request state instruction') :
    Alike [instruction] [instruction'] := by
  intro request state
  rw [runBody, runBody, same]

theorem scope (bindings : List (String × CompiledTemplate)) (alike : Alike code other) :
    Alike [.scope bindings code] [.scope bindings other] := by
  apply single
  intro request state
  rw [runInstruction, runInstruction]
  dsimp only
  rw [alike]

theorem test (regex : Regex) (subject : CompiledTemplate) (alike : Alike code other) :
    Alike [.test regex subject code] [.test regex subject other] := by
  apply single
  intro request state
  rw [runInstruction, runInstruction]
  dsimp only
  split
  · rw [alike]
  · rfl

/-- Cases that render the same values, with bodies that are alike. -/
theorem switch (value : SwitchValue) {cases cases' : List (CompiledTemplate × List Instruction)}
    {default default' : Option (List Instruction)}
    (each : List.Forall₂ (fun case case' => case'.1 = case.1 ∧ Alike case.2 case'.2) cases cases')
    (last : Option.Rel Alike default default') :
    Alike [.switch value cases default] [.switch value cases' default'] := by
  apply single
  intro request state
  rw [runInstruction, runInstruction]
  dsimp only
  generalize (switchValue request state value).1 = text
  generalize (switchValue request state value).2 = state
  induction each generalizing state with
  | nil =>
    rw [runCases, runCases]
    cases last with
    | none => rfl
    | some alike => simpa only [runDefault] using alike request state
  | @cons case case' _ _ here _ ih =>
    obtain ⟨template, body⟩ := case
    obtain ⟨_, body'⟩ := case'
    obtain ⟨rfl, alike⟩ := here
    simp only [runCases]
    split
    · exact alike request _
    · exact ih _

/-- Arms that are found under the same literals. -/
theorem literals (depth : Nat) {literals literals' : List (String × List Instruction)}
    (found : ∀ segment, Option.Rel (fun arm arm' => Alike arm.2 arm'.2)
      (literals.find? (·.1 == segment)) (literals'.find? (·.1 == segment))) :
    Alike [.literals depth literals (literalLookup literals)]
      [.literals depth literals' (literalLookup literals')] := by
  apply single
  intro request state
  rw [runInstruction_literals, runInstruction_literals]
  cases current? request state depth with
  | none => rfl
  | some segment =>
    rw [Option.bind_some, Option.bind_some]
    have both := found segment
    generalize literals.find? (·.1 == segment) = arm at both
    generalize literals'.find? (·.1 == segment) = arm' at both
    cases both with
    | none => rfl
    | some alike => exact alike request state

/-- Arms that are selected by the same segments. -/
theorem patterns (depth : Nat) {groups groups' : List BatchGroup}
    {arms arms' : List (List Instruction)}
    (selected : ∀ segment, select groups' segment = select groups segment)
    (each : List.Forall₂ Alike arms arms') :
    Alike [.patterns depth groups arms] [.patterns depth groups' arms'] := by
  apply single
  intro request state
  rw [runInstruction, runInstruction, funext selected]
  cases (current? request state depth).bind (select groups) with
  | none => rfl
  | some choice =>
    obtain ⟨arm, frame⟩ := choice
    dsimp only
    rw [runArm_eq, runArm_eq]
    congr 1
    induction each generalizing arm with
    | nil => rfl
    | cons here _ ih =>
      cases arm with
      | zero => exact here request _
      | succ arm => exact ih arm

theorem dispatch (depth : Nat) {literals literals' : List (String × List Instruction)}
    {groups groups' : List BatchGroup} {arms arms' : List (List Instruction)}
    (count : literals'.length = literals.length)
    (found : ∀ segment, Option.Rel (fun arm arm' => Alike arm.2 arm'.2)
      (literals.find? (·.1 == segment)) (literals'.find? (·.1 == segment)))
    (selected : ∀ segment, select groups' segment = select groups segment)
    (each : List.Forall₂ Alike arms arms') :
    Alike (Program.dispatch depth literals groups arms)
      (Program.dispatch depth literals' groups' arms') := by
  -- either way nothing is emitted for a level without paths
  have textless : literals'.isEmpty = literals.isEmpty := by
    rw [Bool.eq_iff_iff, List.isEmpty_iff_length_eq_zero, List.isEmpty_iff_length_eq_zero, count]
  have armless : arms'.isEmpty = arms.isEmpty := by
    rw [Bool.eq_iff_iff, List.isEmpty_iff_length_eq_zero, List.isEmpty_iff_length_eq_zero,
      each.length_eq]
  rw [Program.dispatch, Program.dispatch, textless, armless]
  split
  · exact refl []
  · apply append _ (refl _)
    apply append (append (refl _) _)
    · split
      · exact refl []
      · exact patterns depth selected each
    · split
      · exact refl []
      · exact Alike.literals depth found

end Alike

end Signpost.Program

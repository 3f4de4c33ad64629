import Signpost.Program.Templates
import Signpost.Proofs.Machine.Entry

/-!
# Searching frames for every variable

A compiled variable says whether frames are searched for it. Here a program is changed so that they
always are, and the two programs run alike as long as no frame holds a variable for which the first
one does not search: at every place that a run comes to, the instruction there renders the same.
-/
namespace Signpost

/-! ### Programs that always search -/

def TemplatePart.framed : TemplatePart → TemplatePart
  | .text constant => .text constant
  | .variable name filters _ => .variable name filters true

namespace CompiledTemplate

def framed (template : CompiledTemplate) : CompiledTemplate :=
  ⟨template.source, template.parts.map TemplatePart.framed⟩

/-- No frame holds a variable of the template that is looked up outside of frames only. -/
def Unbound (template : CompiledTemplate) (scope : Scope) : Prop :=
  ∀ name filters, .variable name filters false ∈ template.parts → scope.lookup? name = none

end CompiledTemplate

def frameEntries (entries : List (String × CompiledTemplate)) : List (String × CompiledTemplate) :=
  entries.map fun (name, template) => (name, template.framed)

theorem frameEntries_names (entries : List (String × CompiledTemplate)) :
    (frameEntries entries).map (·.1) = entries.map (·.1) := by
  simp [frameEntries]

theorem frameEntries_templates (entries : List (String × CompiledTemplate)) :
    (frameEntries entries).map (·.2) = (entries.map (·.2)).map CompiledTemplate.framed := by
  simp [frameEntries]

def CallSite.framed (site : CallSite) : CallSite :=
  ⟨site.function, site.arguments.map CompiledTemplate.framed⟩

def SwitchValue.framed : SwitchValue → SwitchValue
  | .template source => .template source.framed
  | .call site => .call site.framed

namespace Instruction

mutual

def framed : Instruction → Instruction
  | .advance index => .advance index
  | .retreat index => .retreat index
  | .scope bindings body => .scope (frameEntries bindings) (frameBody body)
  | .literals index arms lookup => .literals index (frameLiterals arms) lookup
  | .patterns index groups arms => .patterns index groups (frameArms arms)
  | .test regex subject body => .test regex subject.framed (frameBody body)
  | .switch value cases default => .switch value.framed (frameCases cases) (frameDefault default)
  | .set name value => .set name value.framed
  | .call site => .call site.framed
  | .return fields => .return (frameEntries fields)

def frameBody : List Instruction → List Instruction
  | [] => []
  | instruction :: rest => instruction.framed :: frameBody rest

def frameLiterals : List (String × List Instruction) → List (String × List Instruction)
  | [] => []
  | (literal, body) :: rest => (literal, frameBody body) :: frameLiterals rest

def frameArms : List (List Instruction) → List (List Instruction)
  | [] => []
  | body :: rest => frameBody body :: frameArms rest

def frameCases :
    List (CompiledTemplate × List Instruction) → List (CompiledTemplate × List Instruction)
  | [] => []
  | (value, body) :: rest => (value.framed, frameBody body) :: frameCases rest

def frameDefault : Option (List Instruction) → Option (List Instruction)
  | none => none
  | some body => some (frameBody body)

end

/-- The templates that an instruction renders itself, those of its bodies apart. -/
def ownTemplates : Instruction → List CompiledTemplate
  | .advance _ | .retreat _ | .literals .. | .patterns .. => []
  | .scope bindings _ => bindings.map (·.2)
  | .test _ subject _ => [subject]
  | .switch value cases _ => value.templates ++ cases.map (·.1)
  | .set _ value => [value]
  | .call site => site.arguments
  | .return fields => fields.map (·.2)

theorem frameBody_append (first rest : List Instruction) :
    frameBody (first ++ rest) = frameBody first ++ frameBody rest := by
  induction first with
  | nil => rfl
  | cons instruction others ih => rw [List.cons_append, frameBody, frameBody, ih, List.cons_append]

theorem frameLiterals_eq (arms : List (String × List Instruction)) :
    frameLiterals arms = arms.map fun arm => (arm.1, frameBody arm.2) := by
  induction arms with
  | nil => rfl
  | cons arm rest ih => rw [frameLiterals, ih, List.map_cons]

theorem frameArms_eq (arms : List (List Instruction)) : frameArms arms = arms.map frameBody := by
  induction arms with
  | nil => rfl
  | cons arm rest ih => rw [frameArms, ih, List.map_cons]

end Instruction

/-- The program that searches frames for every variable. -/
def Program.framed (program : Program) : Program :=
  { program with entry := Instruction.frameBody program.entry }

namespace Machine

variable {request : Request} {state : MachineState}

/-! ### Rendering -/

theorem renderPart_framed {scope : Scope} {part : TemplatePart}
    (unbound : ∀ name filters, part = .variable name filters false → scope.lookup? name = none) :
    renderPart request scope part.framed = renderPart request scope part := by
  cases part with
  | text text => rfl
  | «variable» name filters framed =>
    cases framed with
    | true => rfl
    | false =>
      have absent := unbound name filters rfl
      simp [TemplatePart.framed, renderPart, resolve, absent]

theorem renderParts_framed {scope : Scope} {parts : List TemplatePart}
    (unbound : ∀ name filters, .variable name filters false ∈ parts → scope.lookup? name = none) :
    renderParts request scope (parts.map TemplatePart.framed)
      = renderParts request scope parts := by
  induction parts with
  | nil => rfl
  | cons part rest ih =>
    have first : renderPart request scope part.framed = renderPart request scope part :=
      renderPart_framed fun name filters equal => unbound name filters (equal ▸ List.mem_cons_self)
    have later := ih fun name filters member =>
      unbound name filters (List.mem_cons_of_mem _ member)
    simp only [List.map_cons, renderParts, first, later]

theorem render_framed {template : CompiledTemplate} (unbound : template.Unbound state.scope) :
    render request state template.framed = render request state template := by
  simp only [render, CompiledTemplate.framed, renderParts_framed unbound]

theorem render_literal_framed (text : String) :
    render request state (CompiledTemplate.literal text).framed = (text, state) := by
  simp [render, CompiledTemplate.framed, CompiledTemplate.literal, TemplatePart.framed, renderParts,
    renderPart]

theorem renderAll_framed {templates : List CompiledTemplate}
    (unbound : ∀ template ∈ templates, template.Unbound state.scope) :
    renderAll request state (templates.map CompiledTemplate.framed)
      = renderAll request state templates := by
  induction templates generalizing state with
  | nil => rfl
  | cons template rest ih =>
    have later : renderAll request (render request state template).2
        (rest.map CompiledTemplate.framed) = renderAll request (render request state template).2 rest :=
      ih fun other member => unbound other (List.mem_cons_of_mem _ member)
    rw [List.map_cons, renderAll, renderAll, render_framed (unbound template List.mem_cons_self)]
    simp only [later]

theorem renderEntries_framed {entries : List (String × CompiledTemplate)}
    (unbound : ∀ template ∈ entries.map (·.2), template.Unbound state.scope) :
    renderEntries request state (frameEntries entries) = renderEntries request state entries := by
  simp only [renderEntries, frameEntries_names, frameEntries_templates, renderAll_framed unbound]

/-- A constant text in front takes no part in the rendering of the others. -/
theorem renderEntries_cons_literal (name text : String)
    (entries : List (String × CompiledTemplate)) :
    renderEntries request state (frameEntries ((name, .literal text) :: entries))
      = ((name, text) :: (renderEntries request state (frameEntries entries)).1,
        (renderEntries request state (frameEntries entries)).2) := by
  simp only [renderEntries, frameEntries, List.map_cons, renderAll, render_literal_framed,
    List.zip_cons_cons]

theorem call_framed {site : CallSite}
    (unbound : ∀ template ∈ site.arguments, template.Unbound state.scope) :
    call request state site.framed = call request state site := by
  simp only [call, CallSite.framed, renderAll_framed unbound]

theorem switchValue_framed {value : SwitchValue}
    (unbound : ∀ template ∈ value.templates, template.Unbound state.scope) :
    switchValue request state value.framed = switchValue request state value := by
  cases value with
  | template source => exact render_framed (unbound source List.mem_cons_self)
  | call site => exact call_framed unbound

theorem chooseCase_framed {value : String} {default : Option (List Instruction)}
    {cases : List (CompiledTemplate × List Instruction)}
    (unbound : ∀ template ∈ cases.map (·.1), template.Unbound state.scope) :
    chooseCase request state value (Instruction.frameDefault default)
        (Instruction.frameCases cases)
      = ((chooseCase request state value default cases).1,
        Instruction.frameDefault (chooseCase request state value default cases).2) := by
  induction cases generalizing state with
  | nil => rfl
  | cons first rest ih =>
    obtain ⟨template, body⟩ := first
    rw [Instruction.frameCases, chooseCase, chooseCase,
      render_framed (unbound template List.mem_cons_self)]
    dsimp only
    split
    · rfl
    · exact ih fun other member => unbound other (List.mem_cons_of_mem _ member)

/-! ### Running -/

def Entry.frame : Entry → Entry
  | .done flow => .done flow
  | .body framed state code => .body framed state (Instruction.frameBody code)

theorem entry_framed {instruction : Instruction}
    (unbound : ∀ template ∈ instruction.ownTemplates, template.Unbound state.scope) :
    entry request state instruction.framed = (entry request state instruction).frame := by
  cases instruction with
  | advance index => rfl
  | retreat index => rfl
  | scope bindings body =>
    rw [Instruction.framed, entry, renderEntries_framed unbound, entry]
    rfl
  | literals index arms lookup =>
    rw [Instruction.framed, entry, entry, Instruction.frameLiterals_eq]
    cases (current? request state index).bind fun segment => lookup.lookup segment with
    | none => rfl
    | some arm =>
      -- framing does not change which arm is found, only the code in it
      cases found : arms[arm]? <;> simp [Entry.frame, Instruction.frameBody, found]
  | patterns index groups arms =>
    rw [Instruction.framed, entry, entry, Instruction.frameArms_eq]
    cases (current? request state index).bind (select groups) with
    | none => rfl
    | some selected =>
      cases found : arms[selected.1]? <;> simp [Entry.frame, Instruction.frameBody, found]
  | test regex subject body =>
    rw [Instruction.framed, entry, render_framed (unbound subject List.mem_cons_self), entry]
    dsimp only
    cases testFrame? regex (render request state subject).1 <;> rfl
  | switch value cases default =>
    -- the value is rendered first, so the cases are compared in a state with the same scope
    rw [Instruction.framed, entry, entry, switchValue_framed fun template member =>
      unbound template (List.mem_append_left _ member)]
    dsimp only
    rw [chooseCase_framed fun template member => by
      rw [switchValue_scope]
      exact unbound template (List.mem_append_right _ member)]
    obtain ⟨after, chosen⟩ := chooseCase request (switchValue request state value).2
      (switchValue request state value).1 default cases
    cases chosen <;> rfl
  | set name value =>
    rw [Instruction.framed, entry, render_framed (unbound value List.mem_cons_self), entry]
    rfl
  | call site =>
    rw [Instruction.framed, entry, call_framed unbound, entry]
    rfl
  | «return» fields =>
    rw [Instruction.framed, entry, renderEntries_framed unbound, entry]
    rfl

/-- Code runs as it does with every variable framed, if no variable makes a difference at any place
that the run comes to. -/
theorem runBody_framed {code : List Instruction}
    (unbound : ∀ later instruction, Visits request state code later instruction →
      ∀ template ∈ instruction.ownTemplates, template.Unbound later.scope) :
    runBody request state (Instruction.frameBody code) = runBody request state code := by
  induction code using body_induction generalizing state with
  | nil => rfl
  | cons instruction rest behind within =>
    -- each template of the instruction is rendered where the instruction stands; the body that it
    -- enters is visited within it
    have here : runInstruction request state instruction.framed
        = runInstruction request state instruction := by
      rw [runInstruction_eq, runInstruction_eq, entry_framed (unbound state instruction .here)]
      cases entered : entry request state instruction with
      | done flow => rfl
      | body framed inner code =>
        have inside := within entered fun later last visit =>
          unbound later last (.within entered visit)
        cases framed with
        | true => exact congrArg leave inside
        | false => exact inside
    rw [Instruction.frameBody, runBody, runBody, here]
    split
    · rfl
    -- the rest of the code is visited behind the instruction that has passed
    next next passed =>
      exact behind fun later last visit => unbound later last (.behind passed visit)

end Machine

end Signpost

import Signpost.Program.OfTree
import Signpost.Proofs.Success

/-!
# What emission yields

The counters of marks and of merged expressions only number things, so code that has been emitted is
described here without them: for every kind of code, from which members of a level it has been made
and how.
-/
namespace Signpost.Program

/-- The code that an emission has for some counters. -/
def Emission.Yields {α : Type} (emission : Emission α) (value : α) : Prop :=
  ∃ before after, emission before = .ok (value, after)

namespace Emission

variable {α β : Type}

theorem yields_bind {first : Emission α} {next : α → Emission β} {value : β}
    (yields : Yields (first >>= next) value) :
    ∃ middle, Yields first middle ∧ Yields (next middle) value := by
  obtain ⟨before, after, equal⟩ := yields
  obtain ⟨⟨middle, between⟩, ran, more⟩ := bind_ok_iff.mp equal
  exact ⟨middle, ⟨before, between, ran⟩, between, after, more⟩

theorem yields_pure {value other : α} (yields : Yields (pure value : Emission α) other) :
    value = other := by
  obtain ⟨before, after, equal⟩ := yields
  cases equal
  rfl

theorem yields_lift {result : Except ProgramError α} {value : α}
    (yields : Yields (result : Emission α) value) : result = .ok value := by
  obtain ⟨before, after, equal⟩ := yields
  cases result with
  | error problem => cases equal
  | ok result =>
    cases equal
    rfl

theorem not_yields_throw {problem : ProgramError} {value : α}
    (yields : Yields (throw problem : Emission α) value) : False := by
  obtain ⟨before, after, equal⟩ := yields
  cases equal

theorem yields_mapM {each : α → Emission β} {inputs : List α} {outputs : List β}
    (yields : Yields (inputs.mapM each) outputs) :
    List.Forall₂ (fun input output => Yields (each input) output) inputs outputs := by
  induction inputs generalizing outputs with
  | nil =>
    rw [List.mapM_nil] at yields
    cases yields_pure yields
    exact .nil
  | cons input rest ih =>
    rw [List.mapM_cons] at yields
    obtain ⟨output, first, yields⟩ := yields_bind yields
    obtain ⟨others, later, yields⟩ := yields_bind yields
    cases yields_pure yields
    exact .cons first (ih later)

end Emission

open Emission

/-! ### Templates and calls -/

section

variable {setting : Setting} {visible : List String}

/-- A template has been compiled where some names are visible. -/
def Setting.Compiles (setting : Setting) (visible : List String) (source : String)
    (template : CompiledTemplate) : Prop :=
  CompiledTemplate.compile setting.functions visible source = .ok template

/-- Named templates have been compiled in their order. -/
def Setting.CompilesEntries (setting : Setting) (visible : List String)
    (entries : List (String × String)) (compiled : List (String × CompiledTemplate)) : Prop :=
  List.Forall₂ (fun entry bound => bound.1 = entry.1 ∧ setting.Compiles visible entry.2 bound.2)
    entries compiled

/-- A call of a registered function, with all arguments compiled. -/
def Setting.CompilesCall (setting : Setting) (visible : List String) (function : String)
    (arguments : List String) (site : CallSite) : Prop :=
  setting.functions.get? function = some site.function ∧
    List.Forall₂ (setting.Compiles visible) arguments site.arguments

theorem template_yields {source : String} {template : CompiledTemplate}
    (yields : Yields (setting.template visible source) template) :
    setting.Compiles visible source template :=
  yields_lift yields

theorem bindings_yields {entries : List (String × String)}
    {bound : List (String × CompiledTemplate)}
    (yields : Yields (setting.bindings visible entries) bound) :
    setting.CompilesEntries visible entries bound := by
  refine (yields_mapM yields).imp ?_
  intro entry result one
  obtain ⟨template, templated, one⟩ := yields_bind one
  cases yields_pure one
  exact ⟨rfl, template_yields templated⟩

theorem callSite_yields {function : String} {arguments : List String} {site : CallSite}
    (yields : Yields (setting.callSite visible function arguments) site) :
    setting.CompilesCall visible function arguments site := by
  rw [Setting.callSite] at yields
  split at yields
  · exact (not_yields_throw yields).elim
  next found known =>
    obtain ⟨templates, compiled, yields⟩ := yields_bind yields
    cases yields_pure yields
    exact ⟨known, (yields_mapM compiled).imp fun _ _ => template_yields⟩

end

/-! ### Members and their code -/

/-- A list has been made from some elements of another one, in their order. -/
inductive Picks {α β : Type} (skipped : α → Prop) (made : α → β → Prop) :
    List α → List β → Prop
  | nil : Picks skipped made [] []
  | skip {input : α} {inputs : List α} {outputs : List β} (here : skipped input)
    (rest : Picks skipped made inputs outputs) : Picks skipped made (input :: inputs) outputs
  | take {input : α} {output : β} {inputs : List α} {outputs : List β} (here : made input output)
    (rest : Picks skipped made inputs outputs) :
    Picks skipped made (input :: inputs) (output :: outputs)

/-- Everything in the second list has been made from something in the first. -/
theorem Picks.origin {α β : Type} {skipped : α → Prop} {made : α → β → Prop} {inputs : List α}
    {outputs : List β} (picks : Picks skipped made inputs outputs) :
    ∀ output ∈ outputs, ∃ input ∈ inputs, made input output := by
  induction picks with
  | nil => simp
  | skip _ _ ih =>
    intro output member
    obtain ⟨input, there, made⟩ := ih output member
    exact ⟨input, List.mem_cons_of_mem _ there, made⟩
  | take here _ ih =>
    intro output member
    rcases List.mem_cons.mp member with rfl | later
    · exact ⟨_, List.mem_cons_self, here⟩
    · obtain ⟨input, there, made⟩ := ih output later
      exact ⟨input, List.mem_cons_of_mem _ there, made⟩

/-- The patterns of a level. -/
def levelPatterns (members : List LevelTree) : List Pattern :=
  members.filterMap fun member =>
    match member.kind with
    | .regexPath pattern _ => some pattern
    | _ => none

theorem levelPatterns_cons {member : LevelTree} {rest : List LevelTree} {pattern : Pattern}
    {id : Option String} (kind : member.kind = .regexPath pattern id) :
    levelPatterns (member :: rest) = pattern :: levelPatterns rest :=
  List.filterMap_cons_some (by rw [kind])

theorem levelPatterns_skip {member : LevelTree} {rest : List LevelTree}
    (other : ∀ pattern id, member.kind ≠ .regexPath pattern id) :
    levelPatterns (member :: rest) = levelPatterns rest := by
  refine List.filterMap_cons_none ?_
  split
  next pattern id kind => exact absurd kind (other pattern id)
  next => rfl

/-- The values of the argument nodes of a level. -/
def levelArguments (members : List LevelTree) : List String :=
  members.filterMap fun member =>
    match member.kind with
    | .arg value => some value
    | _ => none

/-- The value of a switch: the one it states, or that of the call that is its first member. -/
inductive ValueCode (setting : Setting) (switch : LevelTree) : Option String → SwitchValue → Prop
  | stated {source : String} {template : CompiledTemplate}
    (templated : setting.Compiles switch.visible source template) :
    ValueCode setting switch (some source) (.template template)
  | call {first : LevelTree} {rest : List LevelTree} {function : String} {arguments : List String}
    {site : CallSite} (members : switch.members = first :: rest)
    (kind : first.kind = .call function arguments)
    (sited : setting.CompilesCall first.visible function
      (arguments ++ levelArguments first.members) site) :
    ValueCode setting switch none (.call site)
  | blank (callless : ∀ first ∈ switch.members.head?,
      ∀ function arguments, first.kind ≠ .call function arguments) :
    ValueCode setting switch none (.template (.literal ""))

/-- The control code of one member; only control nodes have any. -/
inductive ControlCode (setting : Setting) (depth : Nat) : LevelTree → List Instruction → Prop
  | switch {member : LevelTree} {stated : Option String} {value : SwitchValue}
    {cases : List (CompiledTemplate × List Instruction)} {default : Option (List Instruction)}
    (kind : member.kind = .switch stated) (valued : ValueCode setting member stated value)
    (chosen : Yields (emitCases setting depth member.members) (cases, default)) :
    ControlCode setting depth member [.switch value cases default]
  | test {member : LevelTree} {source subject : String} {regex : Regex}
    {template : CompiledTemplate} {body : List Instruction}
    (kind : member.kind = .test source subject) (compiled : Regex.compile? source = some regex)
    (templated : setting.Compiles member.outer subject template)
    (inside : Yields (emitBody setting depth member) body) :
    ControlCode setting depth member [.test regex template body]
  | call {member : LevelTree} {function : String} {arguments : List String} {site : CallSite}
    (kind : member.kind = .call function arguments)
    (sited : setting.CompilesCall member.visible function
      (arguments ++ levelArguments member.members) site) :
    ControlCode setting depth member [.call site]
  | set {member : LevelTree} {name value : String} {template : CompiledTemplate}
    (kind : member.kind = .set name value)
    (templated : setting.Compiles member.visible value template) :
    ControlCode setting depth member [.set name template]
  | other {member : LevelTree}
    (kind : (∀ stated, member.kind ≠ .switch stated) ∧
      (∀ source subject, member.kind ≠ .test source subject) ∧
      (∀ function arguments, member.kind ≠ .call function arguments) ∧
      ∀ name value, member.kind ≠ .set name value) : ControlCode setting depth member []

/-- The code of one case. -/
inductive CaseCode (setting : Setting) (depth : Nat) :
    LevelTree → CompiledTemplate × List Instruction → Prop
  | mk {member : LevelTree} {source : String} {template : CompiledTemplate}
    {body : List Instruction} (kind : member.kind = .case source)
    (templated : setting.Compiles member.visible source template)
    (inside : Yields (emitBody setting depth member) body) :
    CaseCode setting depth member (template, body)

/-- The code of the last default. -/
inductive DefaultCode (setting : Setting) (depth : Nat) :
    List LevelTree → Option (List Instruction) → Prop
  | nil : DefaultCode setting depth [] none
  | skip {member : LevelTree} {rest : List LevelTree} {code : Option (List Instruction)}
    (kind : member.kind ≠ .default) (later : DefaultCode setting depth rest code) :
    DefaultCode setting depth (member :: rest) code
  | default {member : LevelTree} {rest : List LevelTree} {code : Option (List Instruction)}
    {body : List Instruction} (kind : member.kind = .default)
    (inside : Yields (emitBody setting depth member) body)
    (later : DefaultCode setting depth rest code) :
    DefaultCode setting depth (member :: rest) (code <|> some body)

theorem DefaultCode.origin {setting : Setting} {depth : Nat} {members : List LevelTree}
    {code : Option (List Instruction)} {body : List Instruction}
    (made : DefaultCode setting depth members code) (some_body : code = some body) :
    ∃ member ∈ members, member.kind = .default ∧ Yields (emitBody setting depth member) body := by
  induction made with
  | nil => cases some_body
  | skip _ _ ih =>
    obtain ⟨member, there, emitted⟩ := ih some_body
    exact ⟨member, List.mem_cons_of_mem _ there, emitted⟩
  -- the last default decides, so an earlier one serves only if there is none behind it
  | @default member rest code own kind emitted _ ih =>
    cases code with
    | none =>
      cases some_body
      exact ⟨member, List.mem_cons_self, kind, emitted⟩
    | some last =>
      obtain ⟨other, there, emitted⟩ := ih some_body
      exact ⟨other, List.mem_cons_of_mem _ there, emitted⟩

/-- The arm of one literal path. -/
inductive LiteralCode (setting : Setting) (depth : Nat) :
    LevelTree → String × List Instruction → Prop
  | mk {member : LevelTree} {literal : String} {body : List Instruction}
    (kind : member.kind.literal? = some literal)
    (inside : Yields (emitBody setting (depth + 1) member) body) :
    LiteralCode setting depth member (literal, body)

/-- The arm of one parameterized path. -/
inductive ArmCode (setting : Setting) (depth : Nat) : LevelTree → List Instruction → Prop
  | mk {member : LevelTree} {pattern : Pattern} {id : Option String} {body : List Instruction}
    (kind : member.kind = .regexPath pattern id)
    (inside : Yields (emitBody setting (depth + 1) member) body) : ArmCode setting depth member body

/-- The code of one return. -/
inductive ReturnCode (setting : Setting) : LevelTree → Instruction → Prop
  | mk {member : LevelTree} {attributes : Attributes} {stated : List (String × CompiledTemplate)}
    (kind : member.kind = .return attributes)
    (compiled : setting.CompilesEntries member.visible attributes.entries stated) :
    ReturnCode setting member (.return <|
      if attributes.contains "code" then stated else ("code", .literal "200") :: stated)

/-- The code of a body, from the members of its level. -/
inductive BodyCode (setting : Setting) (depth : Nat) : LevelTree → List Instruction → Prop
  | mk {id : NodeId} {content : NodeContent} {outer : List String} {members : List LevelTree}
    {issued : Nat} {controls : List (List Instruction)}
    {literals : List (String × List Instruction)} {groups : List BatchGroup}
    {arms : List (List Instruction)} {returns code : List Instruction}
    (controlled : List.Forall₂ (ControlCode setting depth) members controls)
    (literal : Picks (·.kind.literal? = none) (LiteralCode setting depth) members literals)
    (merged : Batch.merge setting.limit issued (levelPatterns members) = .ok groups)
    (parameterized : Picks (fun member => ∀ pattern id, member.kind ≠ .regexPath pattern id)
      (ArmCode setting depth) members arms)
    (returned : Picks (fun member => ∀ attributes, member.kind ≠ .return attributes)
      (ReturnCode setting) members returns)
    (wrapped :
      (content.values = [] ∧ code = controls.flatten ++ dispatch depth literals groups arms ++ returns)
      ∨ (content.values ≠ [] ∧ ∃ bound,
        setting.CompilesEntries (outer ++ content.localVars) content.values bound ∧
        code = [.scope bound (controls.flatten ++ dispatch depth literals groups arms ++ returns)])) :
    BodyCode setting depth (.node id content outer members) code

section

variable {setting : Setting} {depth : Nat}

theorem switchValue_yields {switch : LevelTree} {stated : Option String} {value : SwitchValue}
    (yields : Yields (setting.switchValue switch stated) value) :
    ValueCode setting switch stated value := by
  -- a value that is stated is a template; any other comes from a first member that is a call, and
  -- is blank without one
  cases stated with
  | some source =>
    rw [Setting.switchValue] at yields
    obtain ⟨template, templated, yields⟩ := yields_bind yields
    cases yields_pure yields
    exact .stated (template_yields templated)
  | none =>
    rw [Setting.switchValue] at yields
    split at yields
    next first rest members =>
      split at yields
      next function arguments kind =>
        obtain ⟨site, sited, yields⟩ := yields_bind yields
        cases yields_pure yields
        exact .call members kind (callSite_yields sited)
      next callless =>
        cases yields_pure yields
        refine .blank ?_
        intro other head function arguments kind
        rw [members] at head
        cases head
        exact callless function arguments kind
    next empty =>
      cases yields_pure yields
      refine .blank ?_
      intro other head
      rw [empty] at head
      cases head

theorem returns_yields {members : List LevelTree} {code : List Instruction}
    (yields : Yields (setting.returns members) code) :
    Picks (fun member => ∀ attributes, member.kind ≠ .return attributes) (ReturnCode setting)
      members code := by
  induction members generalizing code with
  | nil =>
    cases yields_pure yields
    exact .nil
  | cons member rest ih =>
    rw [Setting.returns] at yields
    split at yields
    next attributes kind =>
      obtain ⟨fields, stated, yields⟩ := yields_bind yields
      obtain ⟨others, later, yields⟩ := yields_bind yields
      cases yields_pure yields
      rw [Setting.returnFields] at stated
      obtain ⟨entries, compiled, stated⟩ := yields_bind stated
      -- a return that states no code answers with 200
      have chosen : fields = if attributes.contains "code" then entries
          else ("code", .literal "200") :: entries := by
        split at stated
        next coded =>
          rw [if_pos coded]
          exact (yields_pure stated).symm
        next uncoded =>
          rw [if_neg uncoded]
          exact (yields_pure stated).symm
      rw [chosen]
      exact .take (.mk kind (bindings_yields compiled)) (ih later)
    next other => exact .skip other (ih yields)

theorem mergedGroups_yields {members : List LevelTree} {groups : List BatchGroup}
    (yields : Yields (setting.mergedGroups members) groups) :
    ∃ issued, Batch.merge setting.limit issued (levelPatterns members) = .ok groups := by
  rw [Setting.mergedGroups] at yields
  obtain ⟨counters, -, yields⟩ := yields_bind yields
  obtain ⟨merged, combined, yields⟩ := yields_bind yields
  obtain ⟨_, -, yields⟩ := yields_bind yields
  cases yields_pure yields
  exact ⟨counters.marks, yields_lift combined⟩

theorem emitLiterals_yields {members : List LevelTree} {arms : List (String × List Instruction)}
    (yields : Yields (emitLiterals setting depth members) arms) :
    Picks (·.kind.literal? = none) (LiteralCode setting depth) members arms := by
  induction members generalizing arms with
  | nil =>
    rw [emitLiterals] at yields
    cases yields_pure yields
    exact .nil
  | cons member rest ih =>
    obtain ⟨id, content, outer, members⟩ := member
    rw [emitLiterals] at yields
    split at yields
    next literal kind =>
      obtain ⟨body, inside, yields⟩ := yields_bind yields
      obtain ⟨others, later, yields⟩ := yields_bind yields
      cases yields_pure yields
      exact .take (.mk kind inside) (ih later)
    next other => exact .skip other (ih yields)

theorem emitArms_yields {members : List LevelTree} {arms : List (List Instruction)}
    (yields : Yields (emitArms setting depth members) arms) :
    Picks (fun member => ∀ pattern id, member.kind ≠ .regexPath pattern id)
      (ArmCode setting depth) members arms := by
  induction members generalizing arms with
  | nil =>
    rw [emitArms] at yields
    cases yields_pure yields
    exact .nil
  | cons member rest ih =>
    obtain ⟨id, content, outer, members⟩ := member
    rw [emitArms] at yields
    split at yields
    next kind =>
      obtain ⟨body, inside, yields⟩ := yields_bind yields
      obtain ⟨others, later, yields⟩ := yields_bind yields
      cases yields_pure yields
      exact .take (.mk kind inside) (ih later)
    next other => exact .skip other (ih yields)

theorem emitCases_yields {members : List LevelTree}
    {cases : List (CompiledTemplate × List Instruction)} {default : Option (List Instruction)}
    (yields : Yields (emitCases setting depth members) (cases, default)) :
    Picks (fun member => ∀ source, member.kind ≠ .case source) (CaseCode setting depth)
      members cases ∧ DefaultCode setting depth members default := by
  induction members generalizing cases default with
  | nil =>
    rw [emitCases] at yields
    cases yields_pure yields
    exact ⟨.nil, .nil⟩
  | cons member rest ih =>
    obtain ⟨id, content, outer, members⟩ := member
    rw [emitCases] at yields
    split at yields
    next source kind =>
      obtain ⟨template, templated, yields⟩ := yields_bind yields
      obtain ⟨body, inside, yields⟩ := yields_bind yields
      obtain ⟨⟨others, last⟩, later, yields⟩ := yields_bind yields
      cases yields_pure yields
      obtain ⟨picked, defaulted⟩ := ih later
      -- a case adds to the cases and leaves the default to the members behind it
      have apart : content.kind ≠ .default := by
        rw [kind]
        simp
      exact ⟨.take (.mk kind (template_yields templated) inside) picked, .skip apart defaulted⟩
    next kind =>
      obtain ⟨body, inside, yields⟩ := yields_bind yields
      obtain ⟨⟨others, last⟩, later, yields⟩ := yields_bind yields
      cases yields_pure yields
      obtain ⟨picked, defaulted⟩ := ih later
      -- a default adds no case and gives way to a later default
      have apart (source : String) : content.kind ≠ .case source := by
        rw [kind]
        simp
      exact ⟨.skip apart picked, .default kind inside defaulted⟩
    next caseless defaultless =>
      obtain ⟨picked, defaulted⟩ := ih yields
      exact ⟨.skip caseless picked, .skip defaultless defaulted⟩

theorem emitControls_cons_yields {member : LevelTree} {rest : List LevelTree}
    {code : List Instruction} (yields : Yields (emitControls setting depth (member :: rest)) code) :
    ∃ here others, ControlCode setting depth member here ∧
      Yields (emitControls setting depth rest) others ∧ code = here ++ others := by
  obtain ⟨id, content, outer, members⟩ := member
  -- after its own code, every member goes on with the rest in the same way
  have behind {here : List Instruction}
      (yields : Yields (pure here >>= fun here => do
        return here ++ (← emitControls setting depth rest)) code) :
      ∃ others, Yields (emitControls setting depth rest) others ∧ code = here ++ others := by
    obtain ⟨_, same, yields⟩ := yields_bind yields
    cases yields_pure same
    obtain ⟨others, later, yields⟩ := yields_bind yields
    exact ⟨others, later, (yields_pure yields).symm⟩
  rw [emitControls] at yields
  split at yields
  next stated kind =>
    obtain ⟨value, valued, yields⟩ := yields_bind yields
    obtain ⟨⟨cases, default⟩, chosen, yields⟩ := yields_bind yields
    obtain ⟨others, later, equal⟩ := behind yields
    exact ⟨_, others, .switch kind (switchValue_yields valued) chosen, later, equal⟩
  next source subject kind =>
    -- an expression that does not compile stops the emission
    split at yields
    · obtain ⟨_, thrown, -⟩ := yields_bind yields
      exact (not_yields_throw thrown).elim
    next regex compiled =>
      obtain ⟨template, templated, yields⟩ := yields_bind yields
      obtain ⟨body, inside, yields⟩ := yields_bind yields
      obtain ⟨others, later, equal⟩ := behind yields
      exact ⟨_, others, .test kind compiled (template_yields templated) inside, later, equal⟩
  next function arguments kind =>
    obtain ⟨site, sited, yields⟩ := yields_bind yields
    obtain ⟨others, later, equal⟩ := behind yields
    exact ⟨_, others, .call kind (callSite_yields sited), later, equal⟩
  next name value kind =>
    obtain ⟨template, templated, yields⟩ := yields_bind yields
    obtain ⟨others, later, equal⟩ := behind yields
    exact ⟨_, others, .set kind (template_yields templated), later, equal⟩
  next switchless testless callless setless =>
    obtain ⟨others, later, equal⟩ := behind yields
    exact ⟨_, others, .other ⟨switchless, testless, callless, setless⟩, later, equal⟩

/-- A dispatch moves the cursor and back, and looks at the segment in between. -/
theorem mem_dispatch {literals : List (String × List Instruction)} {groups : List BatchGroup}
    {arms : List (List Instruction)} {instruction : Instruction}
    (among : instruction ∈ dispatch depth literals groups arms) :
    instruction = .advance depth ∨
      instruction = .literals depth literals (literalLookup literals) ∨
      instruction = .patterns depth groups arms ∨ instruction = .retreat depth := by
  rw [dispatch] at among
  split at among
  · cases among
  · simp only [List.mem_append, List.mem_singleton] at among
    rcases among with ((moved | text) | branch) | back
    · exact .inl moved
    · split at text
      · cases text
      · exact .inr (.inl (List.mem_singleton.mp text))
    · split at branch
      · cases branch
      · exact .inr (.inr (.inl (List.mem_singleton.mp branch)))
    · exact .inr (.inr (.inr back))

theorem emitControls_yields {members : List LevelTree} {code : List Instruction}
    (yields : Yields (emitControls setting depth members) code) :
    ∃ controls, List.Forall₂ (ControlCode setting depth) members controls ∧
      controls.flatten = code := by
  induction members generalizing code with
  | nil =>
    rw [emitControls] at yields
    cases yields_pure yields
    exact ⟨[], .nil, rfl⟩
  | cons member rest ih =>
    obtain ⟨here, others, made, later, rfl⟩ := emitControls_cons_yields yields
    obtain ⟨controls, controlled, rfl⟩ := ih later
    exact ⟨here :: controls, .cons made controlled, rfl⟩

theorem emitBody_yields {tree : LevelTree} {code : List Instruction}
    (yields : Yields (emitBody setting depth tree) code) : BodyCode setting depth tree code := by
  obtain ⟨id, content, outer, members⟩ := tree
  rw [emitBody] at yields
  -- the parts of a body are emitted one after another; the kinds of members keep them apart
  obtain ⟨_, emitted, yields⟩ := yields_bind yields
  obtain ⟨literals, literal, yields⟩ := yields_bind yields
  obtain ⟨groups, merged, yields⟩ := yields_bind yields
  obtain ⟨arms, parameterized, yields⟩ := yields_bind yields
  obtain ⟨returns, returned, yields⟩ := yields_bind yields
  obtain ⟨controls, controlled, rfl⟩ := emitControls_yields emitted
  obtain ⟨issued, merged⟩ := mergedGroups_yields merged
  refine .mk controlled (emitLiterals_yields literal) merged (emitArms_yields parameterized)
    (returns_yields returned) ?_
  split at yields
  next empty => exact .inl ⟨List.isEmpty_iff.mp empty, (yields_pure yields).symm⟩
  next filled =>
    obtain ⟨bound, compiled, yields⟩ := yields_bind yields
    refine .inr ⟨fun empty => filled (List.isEmpty_iff.mpr empty), bound, bindings_yields compiled, ?_⟩
    exact (yields_pure yields).symm

end

end Signpost.Program

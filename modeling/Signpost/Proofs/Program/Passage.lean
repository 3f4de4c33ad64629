import Signpost.Proofs.Machine.Entry
import Signpost.Proofs.Program.Dispatch
import Signpost.Proofs.Program.Recovery
import Signpost.Proofs.Tokenizing
import Signpost.Proofs.Tree.Chain

/-!
# Passages

The code of a chain of segments passes one segment after another and ends with the return below the
last. On a request whose segments are those of the chain, filled with values, it binds every
placeholder to its value and answers with what the fields of the return make of them.
-/
namespace Signpost.Program

open Machine

/-- A field that hands on the variable with its name, compiled where the given names are visible. -/
def fieldCode (visible : List String) (field : String × String) : String × CompiledTemplate :=
  (field.1, ⟨field.2, [.variable field.1 [] (field.1 ∈ visible)]⟩)

/-- The fields of a return all of whose attributes hand on variables. -/
def returnCode (visible : List String) (attributes : Attributes) :
    List (String × CompiledTemplate) :=
  if attributes.contains "code" then attributes.entries.map (fieldCode visible)
  else ("code", .literal "200") :: attributes.entries.map (fieldCode visible)

/-- The code that passes segments from a depth on, where the given names are visible. -/
inductive Passage (limit : Nat) (attributes : Attributes) :
    List Segment → Nat → List String → List Instruction → Prop
  | last {depth : Nat} {visible : List String} :
    Passage limit attributes [] depth visible [.return (returnCode visible attributes)]
  | literal {depth : Nat} {visible : List String} {first : Glyph} {others : List Glyph}
    {rest : List Segment} {body : List Instruction} {lookup : List (String × Nat)}
    (inside : Passage limit attributes rest (depth + 1) visible body)
    (found : lookup.lookup (String.ofList (Glyph.text (first :: others))) = some 0) :
    Passage limit attributes (.literal first others :: rest) depth visible
      [.advance depth,
        .literals depth [(String.ofList (Glyph.text (first :: others)), body)] lookup,
        .retreat depth]
  | slotted {depth issued : Nat} {visible : List String} {before after : List Glyph} {slot : Slot}
    {rest : List Segment} {body : List Instruction} {groups : List BatchGroup}
    (inside : Passage limit attributes rest (depth + 1) (visible ++ [slot.name]) body)
    (merged : Batch.merge limit issued [(Segment.slotted before slot after).pattern] = .ok groups) :
    Passage limit attributes (.slotted before slot after :: rest) depth visible
      [.advance depth, .patterns depth groups [body], .retreat depth]

/-! ### Fields -/

/-- The reference in the field of a placeholder. -/
def fieldReference (slot : Slot) : Template.WordedReference where
  name := slot.name
  filters := []
  worded := by
    intro word member
    obtain rfl := List.mem_singleton.mp member
    have filled : slot.name.toList.isEmpty = false := by
      rw [List.isEmpty_eq_false_iff]
      intro empty
      have identifier := slot.identifier
      rw [empty] at identifier
      cases identifier
    rw [Template.isWord, filled]
    exact List.all_eq_true.mpr (continues_of_identifier slot.identifier)

/-- The field of a placeholder is the variable with its name. -/
theorem tokens_field (slot : Slot) :
    Template.tokens slot.field.2 = [.variable slot.name []] := by
  have shape : slot.field.2.toList = (fieldReference slot).written ++ [] := by
    rw [Template.WordedReference.written_append]
    simp [Slot.field, fieldReference, Template.WordedReference.inner, joinTokens,
      String.toList_append]
  have stands : (fieldReference slot).symbols = [.variable slot.name []] :=
    Template.WordedReference.symbols_unreserved fun reserved => slot.unreserved reserved.1
  rw [Template.tokens_eq_iff, shape]
  refine ⟨⟨by simp, .singleton _⟩, ?_⟩
  simp only [List.flatMap_cons, TemplateToken.symbols, ← stands]
  exact .reference (fieldReference slot) .nil

/-! ### Emission -/

section

variable {setting : Setting} {depth : Nat} {members : List LevelTree} {id : NodeId}
  {content : NodeContent} {outer : List String}

/-- A result that needs no counters leaves them as they are. -/
theorem lift_ok {α : Type} {result : Except ProgramError α} {value : α} (ok : result = .ok value)
    (counters : Counters) : (result : Emission α) counters = .ok (value, counters) := by
  rw [ok]
  rfl

theorem mergedGroups_ok {before : Counters} {groups : List BatchGroup}
    (merged : Batch.merge setting.limit before.marks (levelPatterns members) = .ok groups) :
    setting.mergedGroups members before = .ok (groups,
      { marks := before.marks + (levelPatterns members).length
        groups := before.groups + groups.length }) := by
  rw [Setting.mergedGroups]
  exact bind_ok_iff.mpr ⟨(groups, before), lift_ok merged before, rfl⟩

/-- A body without values is emitted when its parts are, one after another. -/
theorem emitBody_ok {controls returns : List Instruction}
    {literals : List (String × List Instruction)} {groups : List BatchGroup}
    {arms : List (List Instruction)} {first second third fourth fifth last : Counters}
    (valueless : content.values = [])
    (controlled : emitControls setting depth members first = .ok (controls, second))
    (literal : emitLiterals setting depth members second = .ok (literals, third))
    (merged : setting.mergedGroups members third = .ok (groups, fourth))
    (parameterized : emitArms setting depth members fourth = .ok (arms, fifth))
    (returned : setting.returns members fifth = .ok (returns, last)) :
    emitBody setting depth (.node id content outer members) first
      = .ok (controls ++ dispatch depth literals groups arms ++ returns, last) := by
  rw [emitBody]
  refine bind_ok_iff.mpr ⟨_, controlled, ?_⟩
  refine bind_ok_iff.mpr ⟨_, literal, ?_⟩
  refine bind_ok_iff.mpr ⟨_, merged, ?_⟩
  refine bind_ok_iff.mpr ⟨_, parameterized, ?_⟩
  refine bind_ok_iff.mpr ⟨_, returned, ?_⟩
  simp only [valueless, List.isEmpty_nil, if_true]
  rfl

variable {own : NodeContent} {pattern : Pattern} {routeId : Option String} {child : NodeId}
  {around : List String} {inner : List LevelTree} {body : List Instruction} {before after : Counters}

/-- A path contributes neither a control nor a return. -/
theorem emitControls_path (path : own.kind.pattern? = some pattern) :
    emitControls setting depth [.node child own around inner] before = .ok ([], before) := by
  obtain ⟨kind, values, names⟩ := own
  cases kind with
  | path | regexPath => rfl
  | _ => cases path

theorem returns_path (path : own.kind.pattern? = some pattern) :
    setting.returns [.node child own around inner] before = .ok ([], before) := by
  obtain ⟨kind, values, names⟩ := own
  cases kind with
  | path | regexPath => rfl
  | _ => cases path

/-- A level with nothing but a literal path dispatches on its text. -/
theorem emitBody_literal {text : String} (valueless : content.values = [])
    (kind : own.kind = .path pattern routeId) (literal : pattern.literal? = some text)
    (inside : emitBody setting (depth + 1) (.node child own around inner) before = .ok (body, after)) :
    emitBody setting depth (.node id content outer [.node child own around inner]) before
      = .ok ([.advance depth, .literals depth [(text, body)] (literalLookup [(text, body)]),
          .retreat depth], after) := by
  have path : own.kind.pattern? = some pattern := by
    rw [kind]
    rfl
  have literals : emitLiterals setting depth [.node child own around inner] before
      = .ok ([(text, body)], after) := by
    simp only [emitLiterals, kind, NodeKind.literal?, literal]
    exact bind_ok_iff.mpr ⟨_, inside, rfl⟩
  have patterns : levelPatterns [.node child own around inner] = [] := by
    simp [levelPatterns, LevelTree.kind, LevelTree.content, kind]
  have merged := @mergedGroups_ok setting [.node child own around inner] after [] (by
    rw [patterns]
    rfl)
  rw [patterns] at merged
  have arms : emitArms setting depth [.node child own around inner] after = .ok ([], after) := by
    simp only [emitArms, kind]
    rfl
  exact emitBody_ok valueless (emitControls_path path) literals merged arms (returns_path path)

/-- A level with nothing but a parameterized path dispatches on its pattern. -/
theorem emitBody_pattern {groups : List BatchGroup} (valueless : content.values = [])
    (kind : own.kind = .regexPath pattern routeId)
    (merged : Batch.merge setting.limit before.marks [pattern] = .ok groups)
    (inside : emitBody setting (depth + 1) (.node child own around inner)
      ⟨before.marks + 1, before.groups + groups.length⟩ = .ok (body, after)) :
    emitBody setting depth (.node id content outer [.node child own around inner]) before
      = .ok ([.advance depth, .patterns depth groups [body], .retreat depth], after) := by
  have path : own.kind.pattern? = some pattern := by
    rw [kind]
    rfl
  have literals : emitLiterals setting depth [.node child own around inner] before
      = .ok ([], before) := by
    simp only [emitLiterals, kind, NodeKind.literal?]
    rfl
  have patterns : levelPatterns [.node child own around inner] = [pattern] := by
    simp [levelPatterns, LevelTree.kind, LevelTree.content, kind]
  rw [← patterns] at merged
  have combined := mergedGroups_ok merged
  rw [patterns] at combined
  have arms : emitArms setting depth [.node child own around inner]
      ⟨before.marks + 1, before.groups + groups.length⟩ = .ok ([body], after) := by
    simp only [emitArms, kind]
    exact bind_ok_iff.mpr ⟨_, inside, rfl⟩
  exact emitBody_ok valueless (emitControls_path path) literals combined arms (returns_path path)

theorem template_field (visible : List String) (slot : Slot) (counters : Counters) :
    setting.template visible slot.field.2 counters
      = .ok ((fieldCode visible slot.field).2, counters) := by
  have compiled : CompiledTemplate.compile setting.functions visible slot.field.2
      = .ok (fieldCode visible slot.field).2 := by
    rw [CompiledTemplate.compile, tokens_field]
    rfl
  exact lift_ok compiled counters

/-- The fields of placeholders compile without a change of counters. -/
theorem bindings_fields (visible : List String) {entries : List (String × String)}
    (fields : ∀ entry ∈ entries, ∃ slot : Slot, slot.field = entry) (counters : Counters) :
    setting.bindings visible entries counters
      = .ok (entries.map (fieldCode visible), counters) := by
  induction entries with
  | nil => rfl
  | cons entry rest ih =>
    obtain ⟨⟨slot, rfl⟩, others⟩ := List.forall_mem_cons.mp fields
    rw [Setting.bindings, List.mapM_cons]
    refine bind_ok_iff.mpr ⟨(fieldCode visible slot.field, counters), ?_, ?_⟩
    · exact bind_ok_iff.mpr ⟨_, template_field visible slot counters, rfl⟩
    · exact bind_ok_iff.mpr ⟨_, ih others, rfl⟩

theorem returnFields_fields (visible : List String) {attributes : Attributes}
    (fields : ∀ entry ∈ attributes.entries, ∃ slot : Slot, slot.field = entry) (counters : Counters) :
    setting.returnFields visible attributes counters
      = .ok (returnCode visible attributes, counters) := by
  rw [Setting.returnFields, returnCode]
  refine bind_ok_iff.mpr ⟨_, bindings_fields visible fields counters, ?_⟩
  dsimp only
  split <;> rfl

theorem emitBody_return {attributes : Attributes} {leaf : NodeId} (valueless : content.values = [])
    (fields : ∀ entry ∈ attributes.entries, ∃ slot : Slot, slot.field = entry)
    (counters : Counters) :
    emitBody setting depth (.node id content outer
        [.node leaf { kind := .return attributes } (outer ++ content.localVars) []]) counters
      = .ok ([.return (returnCode (outer ++ content.localVars) attributes)], counters) := by
  have returned : setting.returns
      [.node leaf { kind := .return attributes } (outer ++ content.localVars) []] counters
        = .ok ([.return (returnCode (outer ++ content.localVars) attributes)], counters) := by
    have visible : LevelTree.visible
        (.node leaf { kind := .return attributes } (outer ++ content.localVars) [])
          = outer ++ content.localVars := List.append_nil _
    rw [Setting.returns, visible]
    exact bind_ok_iff.mpr ⟨_, returnFields_fields _ fields counters, rfl⟩
  exact emitBody_ok valueless rfl rfl rfl rfl returned

/-- What leads along a chain of segments is emitted as a passage. -/
theorem emitBody_passage {attributes : Attributes} {segments : List Segment} {tree : LevelTree}
    (leads : tree.Leads attributes (segments.map Segment.pattern))
    (fields : ∀ entry ∈ attributes.entries, ∃ slot : Slot, slot.field = entry) (depth : Nat)
    (before : Counters) :
    ∃ code after, emitBody setting depth tree before = .ok (code, after) ∧
      Passage setting.limit attributes segments depth tree.visible code := by
  -- the code of a level stands around that of the level below, and its marks are numbered first
  induction segments generalizing tree depth before with
  | nil =>
    cases leads with
    | last valueless => exact ⟨_, _, emitBody_return valueless fields before, .last⟩
  | cons segment rest ih =>
    cases leads with
    | @step id content outer member _ routeId _ valueless own visible leads =>
      obtain ⟨child, inside, around, inner⟩ := member
      cases own
      cases visible
      cases segment with
      | literal first others =>
        obtain ⟨body, after, emitted, passage⟩ := ih leads (depth + 1) before
        refine ⟨_, after, emitBody_literal valueless rfl rfl emitted, .literal ?_ ?_⟩
        · simpa [LevelTree.visible, LevelTree.outer, LevelTree.content, RouteTree.segmentContent,
            Segment.pattern, Segment.slot?] using passage
        · rw [literalLookup_eq]
          simp
      | slotted front slot back =>
        obtain ⟨groups, merged⟩ := @Segment.merge_slotted front back slot setting.limit before.marks
        obtain ⟨body, after, emitted, passage⟩ :=
          ih leads (depth + 1) ⟨before.marks + 1, before.groups + groups.length⟩
        refine ⟨_, after, emitBody_pattern valueless rfl merged emitted, .slotted ?_ merged⟩
        simpa [LevelTree.visible, LevelTree.outer, LevelTree.content, RouteTree.segmentContent,
          Segment.pattern, Segment.slot?, Slot.parameter] using passage

end

/-- A chain of segments becomes a program whose entry is their passage. -/
theorem ofTree_passage {tree : RouteTree} {segments : List Segment}
    (leads : (tree.arena.subtree Arena.root).levels.Leads (Segment.fields segments)
      (segments.map Segment.pattern)) (functions : FunctionRegistry) (limit : Nat) :
    ∃ program, ofTree functions limit tree = .ok program ∧
      Passage limit (Segment.fields segments) segments 0
        (tree.arena.subtree Arena.root).levels.visible program.entry := by
  have fields : ∀ entry ∈ (Segment.fields segments).entries, ∃ slot : Slot, slot.field = entry := by
    intro entry member
    obtain ⟨slot, -, same⟩ := List.mem_map.mp (Attributes.mem_ofList member)
    exact ⟨slot, same⟩
  obtain ⟨code, after, emitted, passage⟩ :=
    @emitBody_passage ⟨functions, limit⟩ _ segments _ leads fields 0 {}
  exact ⟨⟨code, after.groups, after.marks⟩, bind_ok_iff.mpr ⟨_, emitted, rfl⟩, passage⟩

/-! ### Runs -/

section

variable {request : Request} {state : MachineState} {value : String → String}

/-- The fields of a return whose attributes hand on the variables with their names. -/
def returned (value : String → String) (attributes : Attributes) : List (String × String) :=
  let stated := attributes.entries.map fun entry => (entry.1, value entry.1)
  if attributes.contains "code" then stated else ("code", "200") :: stated

theorem render_fieldCode {visible : List String} {name : String} (field : String)
    (framed : name ∈ visible) (bound : state.scope.lookup? name = some (value name)) :
    (renderParts request state.scope (fieldCode visible (name, field)).2.parts).1 = value name := by
  simp [fieldCode, renderParts, renderPart, resolve, framed, bound, RouteFunction.applyChain]

theorem render_returnCode {visible : List String} {attributes : Attributes}
    (bound : ∀ name ∈ visible, state.scope.lookup? name = some (value name))
    (fields : ∀ entry ∈ attributes.entries, entry.1 ∈ visible) :
    (renderEntries request state (returnCode visible attributes)).1 = returned value attributes := by
  have stated : (attributes.entries.map (fieldCode visible)).map (fun entry =>
      (entry.1, (renderParts request state.scope entry.2.parts).1))
        = attributes.entries.map fun entry => (entry.1, value entry.1) := by
    rw [List.map_map]
    refine List.map_congr_left fun entry member => ?_
    have framed := fields entry member
    exact congrArg (entry.1, ·) (render_fieldCode entry.2 framed (bound entry.1 framed))
  have code : (renderParts request state.scope (CompiledTemplate.literal "200").parts).1 = "200" := rfl
  rw [renderEntries_texts, returnCode, returned]
  split
  · exact stated
  · rw [List.map_cons, code, stated]

/-- A dispatch whose segment is there looks at it, and ends the run if its arm does. -/
theorem runBody_dispatch {depth : Nat} {segment : String} {instruction : Instruction}
    {outcome : Outcome} (stands : state.cursor = depth) (there : request.segment? depth = some segment)
    (ends : ∀ here : MachineState, here.scope = state.scope → here.cursor = depth + 1 →
      current? request here depth = some segment →
        (runInstruction request here instruction).1 = some outcome) :
    (runBody request state [.advance depth, instruction, .retreat depth]).1 = some outcome := by
  have moved : advance request state depth
      = { state with cursor := depth + 1, advances := state.advances + 1 } :=
    if_pos ⟨stands, by simp [there]⟩
  have looked : current? request (advance request state depth) depth = some segment := by
    rw [moved]
    exact (if_pos rfl).trans there
  have ended := ends (advance request state depth) (advance_scope depth) (by rw [moved]) looked
  rw [runBody, runInstruction]
  dsimp only
  -- the move back is never reached
  rw [runBody]
  split
  next found => rw [← ended, found]
  next missed =>
    rw [missed] at ended
    cases ended

theorem segment?_ahead {depth : Nat} {segment : String} {rest : List String}
    (ahead : request.segments.drop depth = segment :: rest) :
    request.segment? depth = some segment ∧ request.segments.drop (depth + 1) = rest := by
  constructor
  · rw [Request.segment?, ← Nat.add_zero depth, ← List.getElem?_drop, ahead]
    rfl
  · rw [← List.tail_drop, ahead]
    rfl

theorem lookup?_bound {scope : Scope} {name : String} (filled : value name ≠ "") :
    (scope.push [(name, value name)]).lookup? name = some (value name) := by
  have there : Scope.inFrame? name [(name, value name)] = some (value name) := by
    simp [Scope.inFrame?, filled]
  simp [Scope.lookup?, Scope.push, there]

theorem lookup?_around {scope : Scope} {bound name : String}
    (known : scope.lookup? name = some (value name)) (filled : value bound ≠ "") :
    (scope.push [(bound, value bound)]).lookup? name = some (value name) := by
  by_cases same : name = bound
  · subst same
    exact lookup?_bound filled
  · have absent : Scope.inFrame? name [(bound, value bound)] = none := by
      simp [Scope.inFrame?, Ne.symm same]
    simp only [Scope.lookup?] at known
    simp [Scope.lookup?, Scope.push, absent, known]

/-- On segments that have been filled a passage answers with the values. -/
theorem Passage.run {limit : Nat} {attributes : Attributes} {segments : List Segment} {depth : Nat}
    {visible : List String} {code : List Instruction}
    (passage : Passage limit attributes segments depth visible code)
    (stands : state.cursor = depth)
    (ahead : request.segments.drop depth = segments.map (Segment.filled value))
    (admitted : ∀ slot ∈ Segment.slots segments,
      value slot.name ≠ "" ∧ ∀ c ∈ (value slot.name).toList, slot.valueType.admits c)
    (bound : ∀ name ∈ visible, state.scope.lookup? name = some (value name))
    (fields : ∀ entry ∈ attributes.entries,
      entry.1 ∈ visible ∨ ∃ slot ∈ Segment.slots segments, slot.name = entry.1) :
    (runBody request state code).1 = some (.ofFields (returned value attributes)) := by
  -- the induction follows the code; the bindings of the segments that it has passed carry it
  induction passage generalizing state with
  | last =>
    -- behind the last segment every attribute names a placeholder that has been passed
    have all : ∀ entry ∈ attributes.entries, entry.1 ∈ _ := fun entry member =>
      (fields entry member).resolve_right (by simp [Segment.slots])
    rw [runBody, runInstruction]
    dsimp only
    rw [render_returnCode bound all]
  | @literal depth visible first others rest body lookup inside found ih =>
    obtain ⟨there, further⟩ := segment?_ahead ahead
    apply runBody_dispatch stands there
    intro here scope cursor looked
    simp only [runInstruction, looked, Option.bind_some, Segment.filled, found, runLiteral]
    refine ih cursor further admitted ?_ fields
    rwa [scope]
  | @slotted depth issued visible before after slot rest body groups inside merged ih =>
    obtain ⟨there, further⟩ := segment?_ahead ahead
    obtain ⟨⟨filled, own⟩, others⟩ := List.forall_mem_cons.mp admitted
    apply runBody_dispatch stands there
    intro here scope cursor looked
    have given : (value slot.name).toList ≠ [] := by simpa using filled
    have selected := Segment.select_filled merged given own
    simp only [runInstruction, looked, Option.bind_some, selected, runArm, leave]
    refine ih cursor further others ?_ ?_
    -- the frame binds the placeholder, and what has been bound before keeps its value
    · intro name member
      rw [push, scope]
      rcases List.mem_append.mp member with early | last
      · exact lookup?_around (bound name early) filled
      · cases List.mem_singleton.mp last
        exact lookup?_bound filled
    · intro entry member
      rcases fields entry member with early | ⟨other, among, same⟩
      · exact .inl (List.mem_append_left _ early)
      · rcases List.mem_cons.mp among with rfl | later
        · exact .inl (by simp [same])
        · exact .inr ⟨other, later, same⟩

end

end Signpost.Program

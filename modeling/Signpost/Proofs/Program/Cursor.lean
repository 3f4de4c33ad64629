import Signpost.Proofs.Machine.Moves
import Signpost.Proofs.Program.Dispatch
import Signpost.Proofs.Program.Scoping

/-!
# The cursor in emitted code

The code of a body below some number of paths begins and ends with the cursor at that number. The
cursor is ahead by one only between the two moves of a dispatch, and only if there is a segment, so
that the arms of the dispatch, and nothing else, run with the cursor one further on. What is left of a
body while it runs is described by its last instructions and by whether they follow the first move.
-/
namespace Signpost

/-- The bodies that an instruction holds. -/
def Instruction.bodies : Instruction → List (List Instruction)
  | .scope _ body => [body]
  | .literals _ arms _ => arms.map (·.2)
  | .patterns _ _ arms => arms
  | .test _ _ body => [body]
  | .switch _ cases default => cases.map (·.2) ++ default.toList
  | _ => []

namespace Program

open Emission Machine

section

variable {setting : Setting} {depth : Nat} {tree : LevelTree}

/-! ### What is left of a body -/

/-- Instructions that may remain of the code of a body, behind the first move of its dispatch if
`moved`. -/
inductive Left (setting : Setting) (depth : Nat) (tree : LevelTree) : Bool → List Instruction → Prop
  | nothing : Left setting depth tree false []
  | scope {bound : List (String × CompiledTemplate)} {body : List Instruction}
    (inside : Left setting depth tree false body) :
    Left setting depth tree false [.scope bound body]
  | control {member : LevelTree} {instruction : Instruction} {rest : List Instruction}
    (below : member ∈ tree.members) (made : ControlCode setting depth member [instruction])
    (later : Left setting depth tree false rest) :
    Left setting depth tree false (instruction :: rest)
  | advance {rest : List Instruction} (later : Left setting depth tree true rest) :
    Left setting depth tree false (.advance depth :: rest)
  | literals {arms : List (String × List Instruction)} {rest : List Instruction}
    (picks : Picks (·.kind.literal? = none) (LiteralCode setting depth) tree.members arms)
    (later : Left setting depth tree true rest) :
    Left setting depth tree true (.literals depth arms (literalLookup arms) :: rest)
  | patterns {issued : Nat} {groups : List BatchGroup} {arms : List (List Instruction)}
    {rest : List Instruction}
    (merged : Batch.merge setting.limit issued (levelPatterns tree.members) = .ok groups)
    (picks : Picks (fun member => ∀ pattern id, member.kind ≠ .regexPath pattern id)
      (ArmCode setting depth) tree.members arms)
    (later : Left setting depth tree true rest) :
    Left setting depth tree true (.patterns depth groups arms :: rest)
  | retreat {rest : List Instruction} (later : Left setting depth tree false rest) :
    Left setting depth tree true (.retreat depth :: rest)
  | return {member : LevelTree} {instruction : Instruction} {rest : List Instruction}
    (below : member ∈ tree.members) (made : ReturnCode setting member instruction)
    (later : Left setting depth tree false rest) :
    Left setting depth tree false (instruction :: rest)

theorem left_returns {members : List LevelTree} {code : List Instruction}
    (within : members ⊆ tree.members)
    (picks : Picks (fun member => ∀ attributes, member.kind ≠ .return attributes)
      (ReturnCode setting) members code) : Left setting depth tree false code := by
  induction picks with
  | nil => exact .nothing
  | skip _ _ ih => exact ih fun _ inside => within (List.mem_cons_of_mem _ inside)
  | take made _ ih =>
    exact .return (within List.mem_cons_self) made
      (ih fun _ inside => within (List.mem_cons_of_mem _ inside))

theorem left_controls {members : List LevelTree} {controls : List (List Instruction)}
    {rest : List Instruction} (within : members ⊆ tree.members)
    (controlled : List.Forall₂ (ControlCode setting depth) members controls)
    (later : Left setting depth tree false rest) :
    Left setting depth tree false (controls.flatten ++ rest) := by
  induction controlled with
  | nil => exact later
  | @cons member code members controls made _ ih =>
    have behind := ih fun _ inside => within (List.mem_cons_of_mem _ inside)
    have below : member ∈ tree.members := within List.mem_cons_self
    rw [List.flatten_cons, List.append_assoc]
    -- a member has one instruction or none
    cases made with
    | other => exact behind
    | switch kind valued chosen => exact .control below (.switch kind valued chosen) behind
    | test kind compiled templated inside =>
      exact .control below (.test kind compiled templated inside) behind
    | call kind sited => exact .control below (.call kind sited) behind
    | set kind templated => exact .control below (.set kind templated) behind

theorem left_dispatch {issued : Nat} {literals : List (String × List Instruction)}
    {groups : List BatchGroup} {arms : List (List Instruction)} {rest : List Instruction}
    (literal : Picks (·.kind.literal? = none) (LiteralCode setting depth) tree.members literals)
    (merged : Batch.merge setting.limit issued (levelPatterns tree.members) = .ok groups)
    (parameterized : Picks (fun member => ∀ pattern id, member.kind ≠ .regexPath pattern id)
      (ArmCode setting depth) tree.members arms) (later : Left setting depth tree false rest) :
    Left setting depth tree false (dispatch depth literals groups arms ++ rest) := by
  rw [dispatch]
  split
  · exact later
  · have back : Left setting depth tree true (.retreat depth :: rest) := .retreat later
    have branches : Left setting depth tree true
        ((if arms.isEmpty then [] else [.patterns depth groups arms]) ++ .retreat depth :: rest) := by
      split
      · exact back
      · exact .patterns merged parameterized back
    have texts : Left setting depth tree true
        ((if literals.isEmpty then [] else [.literals depth literals (literalLookup literals)]) ++
          ((if arms.isEmpty then [] else [.patterns depth groups arms])
            ++ .retreat depth :: rest)) := by
      split
      · exact branches
      · exact .literals literal branches
    simpa only [List.append_assoc, List.cons_append, List.nil_append] using Left.advance texts

/-- The code of a level, before any of it has run. -/
theorem left_level {issued : Nat} {controls : List (List Instruction)}
    {literals : List (String × List Instruction)} {groups : List BatchGroup}
    {arms : List (List Instruction)} {returns : List Instruction}
    (controlled : List.Forall₂ (ControlCode setting depth) tree.members controls)
    (literal : Picks (·.kind.literal? = none) (LiteralCode setting depth) tree.members literals)
    (merged : Batch.merge setting.limit issued (levelPatterns tree.members) = .ok groups)
    (parameterized : Picks (fun member => ∀ pattern id, member.kind ≠ .regexPath pattern id)
      (ArmCode setting depth) tree.members arms)
    (returned : Picks (fun member => ∀ attributes, member.kind ≠ .return attributes)
      (ReturnCode setting) tree.members returns) :
    Left setting depth tree false
      (controls.flatten ++ dispatch depth literals groups arms ++ returns) := by
  rw [List.append_assoc]
  exact left_controls (List.Subset.refl _) controlled
    (left_dispatch literal merged parameterized (left_returns (List.Subset.refl _) returned))

/-- Before a body begins, all of its code is left. -/
theorem emitBody_left {code : List Instruction} (yields : Yields (emitBody setting depth tree) code) :
    Left setting depth tree false code := by
  cases emitBody_yields yields with
  | @mk id content outer members issued controls literals groups arms returns _ controlled literal
      merged parameterized returned wrapped =>
    have level : Left setting depth (.node id content outer members) false
        (controls.flatten ++ dispatch depth literals groups arms ++ returns) :=
      left_level controlled literal merged parameterized returned
    rcases wrapped with ⟨-, rfl⟩ | ⟨-, bound, -, rfl⟩
    · exact level
    · exact .scope level

/-! ### Bodies inside -/

/-- An instruction in the body of a node holds the code of a body: that of the node itself behind its
values, or that of a node on its level or, for a switch, on the level below. -/
inductive Nests (setting : Setting) (depth : Nat) (tree : LevelTree) :
    Instruction → LevelTree → Nat → List Instruction → Prop
  | scope {bound : List (String × CompiledTemplate)} {body : List Instruction}
    (inside : Left setting depth tree false body) :
    Nests setting depth tree (.scope bound body) tree depth body
  | test {member : LevelTree} {source subject : String} {regex : Regex}
    {template : CompiledTemplate} {body : List Instruction} (below : member ∈ tree.members)
    (kind : member.kind = .test source subject)
    (emitted : Yields (emitBody setting depth member) body) :
    Nests setting depth tree (.test regex template body) member depth body
  | case {switch member : LevelTree} {stated : Option String} {value : SwitchValue}
    {source : String} {template : CompiledTemplate} {body : List Instruction}
    {cases : List (CompiledTemplate × List Instruction)} {default : Option (List Instruction)}
    (below : switch ∈ tree.members) (switched : switch.kind = .switch stated)
    (inside : member ∈ switch.members) (kind : member.kind = .case source)
    (among : (template, body) ∈ cases) (emitted : Yields (emitBody setting depth member) body) :
    Nests setting depth tree (.switch value cases default) member depth body
  | default {switch member : LevelTree} {stated : Option String} {value : SwitchValue}
    {body : List Instruction} {cases : List (CompiledTemplate × List Instruction)}
    (below : switch ∈ tree.members) (switched : switch.kind = .switch stated)
    (inside : member ∈ switch.members) (kind : member.kind = .default)
    (emitted : Yields (emitBody setting depth member) body) :
    Nests setting depth tree (.switch value cases (some body)) member depth body
  | literal {member : LevelTree} {literal : String} {body : List Instruction}
    {arms : List (String × List Instruction)} {lookup : List (String × Nat)}
    (below : member ∈ tree.members) (kind : member.kind.literal? = some literal)
    (among : (literal, body) ∈ arms) (emitted : Yields (emitBody setting (depth + 1) member) body) :
    Nests setting depth tree (.literals depth arms lookup) member (depth + 1) body
  | arm {member : LevelTree} {pattern : Pattern} {id : Option String} {body : List Instruction}
    {groups : List BatchGroup} {arms : List (List Instruction)} (below : member ∈ tree.members)
    (kind : member.kind = .regexPath pattern id) (among : body ∈ arms)
    (emitted : Yields (emitBody setting (depth + 1) member) body) :
    Nests setting depth tree (.patterns depth groups arms) member (depth + 1) body

theorem Nests.left {instruction : Instruction} {inside : LevelTree} {deeper : Nat}
    {code : List Instruction} (nests : Nests setting depth tree instruction inside deeper code) :
    Left setting deeper inside false code := by
  cases nests with
  | scope inside => exact inside
  | test _ _ emitted => exact emitBody_left emitted
  | case _ _ _ _ _ emitted => exact emitBody_left emitted
  | default _ _ _ _ emitted => exact emitBody_left emitted
  | literal _ _ _ emitted => exact emitBody_left emitted
  | arm _ _ _ emitted => exact emitBody_left emitted

/-- Every pattern of a level has its arm. -/
theorem arm_present {members : List LevelTree} {arms : List (List Instruction)}
    (picks : Picks (fun member => ∀ pattern id, member.kind ≠ .regexPath pattern id)
      (ArmCode setting depth) members arms) {position : Nat} {pattern : Pattern}
    (own : (levelPatterns members)[position]? = some pattern) : ∃ body, arms[position]? = some body := by
  induction picks generalizing position with
  | nil => cases own
  | skip other _ ih =>
    rw [levelPatterns_skip other] at own
    exact ih own
  | take made _ ih =>
    obtain ⟨kind, -⟩ := made
    rw [levelPatterns_cons kind] at own
    cases position with
    | zero => exact ⟨_, rfl⟩
    | succ position => exact ih own

variable {request : Request} {state inner : MachineState} {instruction : Instruction}
  {code rest : List Instruction} {framed moved : Bool}

/-- Every body that an instruction holds is the code of a node. -/
theorem nests_of_held {body : List Instruction}
    (left : Left setting depth tree moved (instruction :: rest))
    (held : body ∈ instruction.bodies) :
    ∃ inside deeper, Nests setting depth tree instruction inside deeper body := by
  cases left with
  | scope inside =>
    cases List.mem_singleton.mp held
    exact ⟨tree, depth, .scope inside⟩
  | control below made =>
    cases made with
    | switch kind valued chosen =>
      obtain ⟨picked, defaulted⟩ := emitCases_yields chosen
      rcases List.mem_append.mp held with case | default
      · obtain ⟨⟨template, body⟩, among, rfl⟩ := List.mem_map.mp case
        obtain ⟨member, inside, ⟨stands, -, emitted⟩⟩ := picked.origin _ among
        exact ⟨member, depth, .case below kind inside stands among emitted⟩
      · obtain ⟨member, inside, stands, emitted⟩ := defaulted.origin (Option.mem_toList.mp default)
        cases Option.mem_toList.mp default
        exact ⟨member, depth, .default below kind inside stands emitted⟩
    | test kind compiled templated inside =>
      cases List.mem_singleton.mp held
      exact ⟨_, depth, .test below kind inside⟩
    | call => cases held
    | set => cases held
  | advance => cases held
  | literals picks =>
    obtain ⟨⟨literal, body⟩, among, rfl⟩ := List.mem_map.mp held
    obtain ⟨member, below, ⟨kind, emitted⟩⟩ := picks.origin _ among
    exact ⟨member, depth + 1, .literal below kind among emitted⟩
  | patterns merged picks =>
    obtain ⟨member, below, ⟨kind, emitted⟩⟩ := picks.origin _ held
    exact ⟨member, depth + 1, .arm below kind held emitted⟩
  | retreat => cases held
  | «return» _ made =>
    cases made
    cases held

/-- The body that an instruction enters is one that it holds: every arm that a dispatch may select is
there. -/
theorem held_of_entry (left : Left setting depth tree moved (instruction :: rest))
    (entered : Machine.entry request state instruction = .body framed inner code) :
    code ∈ instruction.bodies := by
  cases left with
  | scope inside =>
    cases entered
    exact List.mem_singleton_self _
  | control below made =>
    cases made with
    | switch kind valued chosen =>
      simp only [Machine.entry] at entered
      split at entered
      next equal =>
        cases entered
        rcases chooseCase_body (congrArg Prod.snd equal) with ⟨template, among⟩ | rfl
        · exact List.mem_append_left _ (List.mem_map_of_mem among)
        · exact List.mem_append_right _ (List.mem_singleton_self _)
      next => cases entered
    | test =>
      simp only [Machine.entry] at entered
      split at entered
      · cases entered
        exact List.mem_singleton_self _
      · cases entered
    | call => cases entered
    | set => cases entered
  | advance => cases entered
  | literals =>
    rw [Machine.entry] at entered
    split at entered
    next arm looked =>
      cases entered
      obtain ⟨segment, -, looked⟩ := Option.bind_eq_some_iff.mp looked
      obtain ⟨chosen, there⟩ := literalLookup_bound looked
      rw [there]
      exact List.mem_map_of_mem (List.mem_of_getElem? there)
    next => cases entered
  | patterns merged picks =>
    rw [Machine.entry] at entered
    split at entered
    next arm frame selected =>
      cases entered
      obtain ⟨segment, -, selected⟩ := Option.bind_eq_some_iff.mp selected
      obtain ⟨group, grouped, branch, chosen, rfl, -⟩ := select_branch selected
      -- the branch that has matched belongs to a pattern of the level, and so does its arm
      obtain ⟨pattern, own, -⟩ := Batch.merge_branch merged _ grouped _ chosen
      obtain ⟨body, there⟩ := arm_present picks own
      rw [there]
      exact List.mem_of_getElem? there
    next => cases entered
  | retreat => cases entered
  | «return» _ made =>
    cases made
    cases entered

theorem nests_of_entry (left : Left setting depth tree moved (instruction :: rest))
    (entered : Machine.entry request state instruction = .body framed inner code) :
    ∃ inside deeper, Nests setting depth tree instruction inside deeper code :=
  nests_of_held left (held_of_entry left entered)

/-! ### Where the cursor stands -/

/-- Where the cursor stands in a body below `depth` paths: ahead of it between the moves of the
dispatch, if there is a segment to look at. -/
def placeIn (request : Request) (depth : Nat) (moved : Bool) : Nat :=
  if moved ∧ (request.segment? depth).isSome then depth + 1 else depth

theorem placeIn_false : placeIn request depth false = depth := by simp [placeIn]

theorem current_cursor {segment : String} (found : current? request state depth = some segment) :
    state.cursor = depth + 1 := by
  rw [current?] at found
  split at found
  next behind => exact behind
  next => cases found

/-- Arms are entered behind the segment of their dispatch, all other bodies where the cursor of the
body around them stands. -/
theorem nests_cursor {inside : LevelTree} {deeper : Nat}
    (left : Left setting depth tree moved (instruction :: rest))
    (stands : state.cursor = placeIn request depth moved)
    (entered : Machine.entry request state instruction = .body framed inner code)
    (nests : Nests setting depth tree instruction inside deeper code) : inner.cursor = deeper := by
  have kept := entered_cursor entered
  have level (unmoved : moved = false) : inner.cursor = depth := by
    rw [kept, stands, unmoved, placeIn_false]
  cases nests with
  | scope => cases left <;> exact level rfl
  | test => cases left <;> exact level rfl
  | case => cases left <;> exact level rfl
  | default => cases left <;> exact level rfl
  | literal =>
    rw [kept]
    rw [Machine.entry] at entered
    split at entered
    next looked =>
      obtain ⟨segment, found, -⟩ := Option.bind_eq_some_iff.mp looked
      exact current_cursor found
    next => cases entered
  | arm =>
    rw [kept]
    rw [Machine.entry] at entered
    split at entered
    next looked =>
      obtain ⟨segment, found, -⟩ := Option.bind_eq_some_iff.mp looked
      exact current_cursor found
    next => cases entered

/-- Bodies that an instruction enters put the cursor back, unless they end the run. -/
def Restores (request : Request) (state : MachineState) (instruction : Instruction) : Prop :=
  ∀ framed inner code, Machine.entry request state instruction = .body framed inner code →
    (runBody request inner code).1 = none → (runBody request inner code).2.cursor = inner.cursor

/-- An instruction that is no move leaves the cursor where it was. -/
theorem still_cursor (restores : Restores request state instruction)
    (forth : ∀ index, instruction ≠ .advance index) (back : ∀ index, instruction ≠ .retreat index)
    (passed : (runInstruction request state instruction).1 = none) :
    (runInstruction request state instruction).2.cursor = state.cursor := by
  rw [runInstruction_eq] at passed ⊢
  cases equal : Machine.entry request state instruction with
  | done flow =>
    rcases entry_cases request state instruction with ⟨index, moves⟩ | ⟨index, moves⟩ |
      ⟨scope, calls, same, -⟩
    · exact absurd moves (forth index)
    · exact absurd moves (back index)
    · rw [equal] at same
      have cursors := congrArg MachineState.cursor same
      exact cursors
  | body framed inner code =>
    rw [equal] at passed
    have ended := restores framed inner code equal
    rw [← entered_cursor equal]
    -- leaving the frame of a body changes neither its outcome nor the cursor
    cases framed with
    | true => exact ended passed
    | false => exact ended passed

theorem advance_cursor (stands : state.cursor = depth) :
    (advance request state depth).cursor = placeIn request depth true := by
  by_cases there : (request.segment? depth).isSome <;> simp [advance, placeIn, stands, there]

theorem retreat_cursor (stands : state.cursor = placeIn request depth true) :
    (retreat state depth).cursor = depth := by
  by_cases there : (request.segment? depth).isSome <;>
    simp only [placeIn, there] at stands <;> simp [retreat, stands]

/-- Passing an instruction leaves a rest at whose place the cursor stands. -/
theorem left_step (left : Left setting depth tree moved (instruction :: rest))
    (stands : state.cursor = placeIn request depth moved)
    (restores : Restores request state instruction)
    (passed : (runInstruction request state instruction).1 = none) :
    ∃ moved', Left setting depth tree moved' rest ∧
      (runInstruction request state instruction).2.cursor = placeIn request depth moved' := by
  have still (forth : ∀ index, instruction ≠ .advance index)
      (back : ∀ index, instruction ≠ .retreat index) :
      (runInstruction request state instruction).2.cursor = placeIn request depth moved :=
    (still_cursor restores forth back passed).trans stands
  -- only the two moves change where the cursor stands and on which side of the dispatch the rest is
  cases left with
  | scope => exact ⟨false, .nothing, still (by simp) (by simp)⟩
  | control below made later =>
    refine ⟨false, later, still ?_ ?_⟩ <;>
    · rintro index rfl
      cases made
  | advance later =>
    rw [placeIn_false] at stands
    refine ⟨true, later, ?_⟩
    rw [runInstruction]
    exact advance_cursor stands
  | literals picks later => exact ⟨true, later, still (by simp) (by simp)⟩
  | patterns merged picks later => exact ⟨true, later, still (by simp) (by simp)⟩
  | retreat later =>
    refine ⟨false, later, ?_⟩
    rw [runInstruction, placeIn_false]
    exact retreat_cursor stands
  | «return» below made later =>
    refine ⟨false, later, still ?_ ?_⟩ <;>
    · rintro index rfl
      cases made

/-- Running to the end of a body without a return puts the cursor where the body began. -/
theorem left_restores (left : Left setting depth tree moved code)
    (stands : state.cursor = placeIn request depth moved)
    (passed : (runBody request state code).1 = none) :
    (runBody request state code).2.cursor = depth := by
  induction code using body_induction generalizing setting depth tree moved state with
  | nil =>
    cases left
    rw [placeIn_false] at stands
    exact stands
  | cons instruction rest behind within =>
    have restores : Restores request state instruction := by
      intro framed inner body entered ended
      obtain ⟨inside, deeper, nests⟩ := nests_of_entry left entered
      have begun := nests_cursor left stands entered nests
      rw [begun]
      exact within entered nests.left (by rw [begun, placeIn_false]) ended
    rw [runBody] at passed ⊢
    split at passed
    · cases passed
    next after ran =>
      have flow := congrArg Prod.fst ran
      obtain ⟨moved', later, next⟩ := left_step left stands restores flow
      rw [ran] at next
      exact behind later next passed

theorem restores_of_left (left : Left setting depth tree moved (instruction :: rest))
    (stands : state.cursor = placeIn request depth moved) :
    Restores request state instruction := by
  intro framed inner body entered ended
  obtain ⟨inside, deeper, nests⟩ := nests_of_entry left entered
  have begun := nests_cursor left stands entered nests
  rw [begun]
  exact left_restores nests.left (by rw [begun, placeIn_false]) ended

end

end Program

end Signpost

import Signpost.Proofs.Program.Sites

/-!
# Issuing marks

Emission counts the merged expressions that it makes and the marks that it gives out. Whatever it emits,
the counters move on by what is in the code: as many merged expressions as have been counted, and
branches that have just the marks between the two counts. Code that has been emitted is dropped only
where a switch has several defaults, and no switch of a tree that has been built has.
-/
namespace Signpost.Program

/-- The counters move on by some merged expressions, whose branches take all marks in between. -/
structure Issues (before after : Counters) (groups : List BatchGroup) : Prop where
  counted : after.groups = before.groups + groups.length
  ordered : before.marks ≤ after.marks
  marked : ((groups.flatMap (·.branches)).map (·.mark)).Perm
    (List.range' (before.marks + 1) (after.marks - before.marks))

namespace Issues

variable {before middle after : Counters} {groups more : List BatchGroup}

theorem refl (counters : Counters) : Issues counters counters [] where
  counted := rfl
  ordered := Nat.le_refl _
  marked := by simp

theorem trans (first : Issues before middle groups) (rest : Issues middle after more) :
    Issues before after (groups ++ more) where
  counted := by rw [rest.counted, first.counted, List.length_append, Nat.add_assoc]
  ordered := Nat.le_trans first.ordered rest.ordered
  marked := by
    have low := first.ordered
    have high := rest.ordered
    -- the marks of the second part go on where those of the first one end
    have joined : List.range' (before.marks + 1) (middle.marks - before.marks)
        ++ List.range' (middle.marks + 1) (after.marks - middle.marks)
          = List.range' (before.marks + 1) (after.marks - before.marks) := by
      have next : middle.marks + 1 = before.marks + 1 + (middle.marks - before.marks) := by omega
      rw [next, List.range'_append_1]
      congr 1
      omega
    rw [List.flatMap_append, List.map_append, ← joined]
    exact first.marked.append rest.marked

theorem perm (issues : Issues before after groups) (same : groups.Perm more) :
    Issues before after more where
  counted := by rw [issues.counted, same.length_eq]
  ordered := issues.ordered
  marked := ((same.symm.flatMap_right _).map _).trans issues.marked

end Issues

/-! ### Emissions that count nothing -/

namespace Emission

variable {α β : Type} {before after : Counters}

/-- An emission has a value and takes the counters from one state to another. -/
def Runs (before after : Counters) (emission : Emission α) (value : α) : Prop :=
  emission before = .ok (value, after)

theorem runs_bind {first : Emission α} {next : α → Emission β} {value : β}
    (runs : Runs before after (first >>= next) value) :
    ∃ middle between, Runs before between first middle ∧ Runs between after (next middle) value := by
  obtain ⟨⟨middle, between⟩, ran, more⟩ := bind_ok_iff.mp runs
  exact ⟨middle, between, ran, more⟩

theorem runs_pure {value other : α} (runs : Runs before after (pure value : Emission α) other) :
    value = other ∧ before = after := by
  cases runs
  exact ⟨rfl, rfl⟩

theorem runs_lift {result : Except ProgramError α} {value : α}
    (runs : Runs before after (result : Emission α) value) : result = .ok value ∧ before = after := by
  cases result with
  | error problem => cases runs
  | ok result =>
    cases runs
    exact ⟨rfl, rfl⟩

/-- An emission leaves the counters alone. -/
def Quiet (emission : Emission α) : Prop :=
  ∀ before after value, Runs before after emission value → before = after

theorem quiet_pure (value : α) : Quiet (pure value : Emission α) :=
  fun _ _ _ runs => (runs_pure runs).2

theorem quiet_bind {first : Emission α} {next : α → Emission β} (quiet : Quiet first)
    (later : ∀ value, Quiet (next value)) : Quiet (first >>= next) := by
  intro before after value runs
  obtain ⟨middle, between, ran, more⟩ := runs_bind runs
  rw [quiet _ _ _ ran, later _ _ _ _ more]

theorem quiet_lift (result : Except ProgramError α) : Quiet (result : Emission α) :=
  fun _ _ _ runs => (runs_lift runs).2

theorem quiet_throw (problem : ProgramError) : Quiet (throw problem : Emission α) :=
  fun _ _ _ runs => nomatch runs

theorem quiet_mapM {each : α → Emission β} (quiet : ∀ input, Quiet (each input)) (inputs : List α) :
    Quiet (inputs.mapM each) := by
  induction inputs with
  | nil => exact quiet_pure []
  | cons input rest ih =>
    rw [List.mapM_cons]
    exact quiet_bind (quiet input) fun output => quiet_bind ih fun others => quiet_pure _

end Emission

open Emission

namespace Setting

variable (setting : Setting)

theorem template_quiet (visible : List String) (source : String) :
    Quiet (setting.template visible source) := quiet_lift _

theorem bindings_quiet (visible : List String) (entries : List (String × String)) :
    Quiet (setting.bindings visible entries) :=
  quiet_mapM (fun _ => quiet_bind (setting.template_quiet visible _) fun _ => quiet_pure _) entries

theorem callOf_quiet (tree : LevelTree) (function : String) (arguments : List String) :
    Quiet (setting.callOf tree function arguments) := by
  rw [callOf, callSite]
  split
  · exact quiet_throw _
  · exact quiet_bind (quiet_mapM (setting.template_quiet _) _) fun _ => quiet_pure _

theorem switchValue_quiet (tree : LevelTree) (value : Option String) :
    Quiet (setting.switchValue tree value) := by
  cases value with
  | some source => exact quiet_bind (setting.template_quiet _ _) fun _ => quiet_pure _
  | none =>
    rw [switchValue]
    split
    · split
      · exact quiet_bind (setting.callOf_quiet _ _ _) fun _ => quiet_pure _
      · exact quiet_pure _
    · exact quiet_pure _

theorem returns_quiet (members : List LevelTree) : Quiet (setting.returns members) := by
  induction members with
  | nil => exact quiet_pure []
  | cons member rest ih =>
    rw [returns]
    split
    · refine quiet_bind (quiet_bind (setting.bindings_quiet _ _) fun fields => ?_) fun fields =>
        quiet_bind ih fun others => quiet_pure _
      split
      · exact quiet_pure _
      · exact quiet_pure _
    · exact ih

end Setting

/-! ### Counting -/

section

variable {setting : Setting} {depth : Nat} {members : List LevelTree} {before after : Counters}

theorem mergedGroups_issues {groups : List BatchGroup}
    (runs : Runs before after (setting.mergedGroups members) groups) :
    Issues before after groups := by
  rw [Setting.mergedGroups] at runs
  obtain ⟨counters, between, read, runs⟩ := runs_bind runs
  cases read
  obtain ⟨merged, middle, combined, runs⟩ := runs_bind runs
  obtain ⟨made, rfl⟩ := runs_lift combined
  obtain ⟨_, last, stored, runs⟩ := runs_bind runs
  obtain ⟨rfl, rfl⟩ := runs_pure runs
  cases stored
  have marks := (Batch.merge_partition made).marks
  refine ⟨rfl, Nat.le_add_right _ _, ?_⟩
  rw [marks, Nat.add_sub_cancel_left]

/-- The counters move on by what is in the code of a body. -/
def Counts (setting : Setting) (node : LevelTree) : Prop :=
  ∀ depth before after code, Runs before after (emitBody setting depth node) code →
    Issues before after (gather Instruction.groups code)

theorem emitLiterals_issues (each : ∀ member ∈ members, Counts setting member)
    {literals : List (String × List Instruction)}
    (runs : Runs before after (emitLiterals setting depth members) literals) :
    Issues before after (literals.flatMap fun arm => gather Instruction.groups arm.2) := by
  induction members generalizing before literals with
  | nil =>
    rw [emitLiterals] at runs
    obtain ⟨rfl, rfl⟩ := runs_pure runs
    exact .refl _
  | cons member rest ih =>
    obtain ⟨first, others⟩ := List.forall_mem_cons.mp each
    obtain ⟨id, content, outer, below⟩ := member
    rw [emitLiterals] at runs
    split at runs
    · obtain ⟨body, middle, inside, runs⟩ := runs_bind runs
      obtain ⟨later, between, behind, runs⟩ := runs_bind runs
      obtain ⟨rfl, rfl⟩ := runs_pure runs
      exact (first _ _ _ _ inside).trans (ih others behind)
    · exact ih others runs

theorem emitArms_issues (each : ∀ member ∈ members, Counts setting member)
    {arms : List (List Instruction)}
    (runs : Runs before after (emitArms setting depth members) arms) :
    Issues before after (arms.flatMap (gather Instruction.groups)) := by
  induction members generalizing before arms with
  | nil =>
    rw [emitArms] at runs
    obtain ⟨rfl, rfl⟩ := runs_pure runs
    exact .refl _
  | cons member rest ih =>
    obtain ⟨first, others⟩ := List.forall_mem_cons.mp each
    obtain ⟨id, content, outer, below⟩ := member
    rw [emitArms] at runs
    split at runs
    · obtain ⟨body, middle, inside, runs⟩ := runs_bind runs
      obtain ⟨later, between, behind, runs⟩ := runs_bind runs
      obtain ⟨rfl, rfl⟩ := runs_pure runs
      exact (first _ _ _ _ inside).trans (ih others behind)
    · exact ih others runs

theorem emitCases_defaultless (absent : (members.map LevelTree.kind).count .default = 0)
    {cases_ : List (CompiledTemplate × List Instruction)} {default : Option (List Instruction)}
    (yields : Yields (emitCases setting depth members) (cases_, default)) : default = none := by
  obtain ⟨-, defaulted⟩ := emitCases_yields yields
  cases default with
  | none => rfl
  | some body =>
    obtain ⟨member, among, stands, -⟩ := defaulted.origin rfl
    exact absurd (stands ▸ List.mem_map_of_mem among) (List.count_eq_zero.mp absent)

/-- With one default at most, the code of none is dropped. -/
theorem emitCases_issues (each : ∀ member ∈ members, Counts setting member)
    (once : (members.map LevelTree.kind).count .default ≤ 1)
    {cases_ : List (CompiledTemplate × List Instruction)} {default : Option (List Instruction)}
    (runs : Runs before after (emitCases setting depth members) (cases_, default)) :
    Issues before after
      ((cases_.map (·.2) ++ default.toList).flatMap (gather Instruction.groups)) := by
  induction members generalizing before cases_ default with
  | nil =>
    rw [emitCases] at runs
    obtain ⟨same, rfl⟩ := runs_pure runs
    cases same
    exact .refl _
  | cons member rest ih =>
    obtain ⟨first, others⟩ := List.forall_mem_cons.mp each
    obtain ⟨id, content, outer, below⟩ := member
    rw [emitCases] at runs
    split at runs
    next source kind =>
      obtain ⟨template, start, templated, runs⟩ := runs_bind runs
      obtain rfl := setting.template_quiet _ _ _ _ _ templated
      obtain ⟨body, middle, inside, runs⟩ := runs_bind runs
      obtain ⟨⟨later, last⟩, between, behind, runs⟩ := runs_bind runs
      obtain ⟨same, rfl⟩ := runs_pure runs
      cases same
      have apart : (LevelTree.node id content outer below).kind ≠ .default := by
        intro kind'
        cases kind.symm.trans kind'
      rw [List.map_cons, List.count_cons_of_ne apart] at once
      exact (first _ _ _ _ inside).trans (ih others once behind)
    next kind =>
      obtain ⟨body, middle, inside, runs⟩ := runs_bind runs
      obtain ⟨⟨later, last⟩, between, behind, runs⟩ := runs_bind runs
      obtain ⟨same, rfl⟩ := runs_pure runs
      have alone : (rest.map LevelTree.kind).count .default = 0 := by
        have here : (LevelTree.node id content outer below).kind = .default := kind
        rw [List.map_cons, here, List.count_cons_self] at once
        omega
      obtain rfl := emitCases_defaultless alone ⟨_, _, behind⟩
      cases same
      have behind := ih others (by omega) behind
      rw [Option.toList_none, List.append_nil] at behind
      have only : (none <|> some body).toList = [body] := rfl
      -- a default is emitted where it stands, and it comes last in the code
      refine ((first _ _ _ _ inside).trans behind).perm ?_
      rw [only, List.flatMap_append, List.flatMap_singleton]
      exact List.perm_append_comm
    next caseless defaultless =>
      have apart : (LevelTree.node id content outer below).kind ≠ .default := defaultless
      rw [List.map_cons, List.count_cons_of_ne apart] at once
      exact ih others once runs

theorem emitControls_issues (each : ∀ member ∈ members, Counts setting member ∧
      ∀ inner ∈ member.members, Counts setting inner)
    (once : ∀ member ∈ members, ∀ stated, member.kind = .switch stated →
      (member.members.map LevelTree.kind).count .default ≤ 1) {code : List Instruction}
    (runs : Runs before after (emitControls setting depth members) code) :
    Issues before after (gather Instruction.groups code) := by
  induction members generalizing before code with
  | nil =>
    rw [emitControls] at runs
    obtain ⟨rfl, rfl⟩ := runs_pure runs
    exact .refl _
  | cons member rest ih =>
    obtain ⟨⟨own, inner⟩, others⟩ := List.forall_mem_cons.mp each
    obtain ⟨here, elsewhere⟩ := List.forall_mem_cons.mp once
    obtain ⟨id, content, outer, below⟩ := member
    -- after its own code, every member goes on with the rest in the same way
    have behind {middle : Counters} {first : List Instruction}
        (issues : Issues before middle (gather Instruction.groups first))
        (runs : Runs middle after (pure first >>= fun first => do
          return first ++ (← emitControls setting depth rest)) code) :
        Issues before after (gather Instruction.groups code) := by
      obtain ⟨_, _, done, runs⟩ := runs_bind runs
      obtain ⟨rfl, rfl⟩ := runs_pure done
      obtain ⟨more, _, later, runs⟩ := runs_bind runs
      obtain ⟨rfl, rfl⟩ := runs_pure runs
      rw [gather_append]
      exact issues.trans (ih others elsewhere later)
    rw [emitControls] at runs
    split at runs
    next stated kind =>
      obtain ⟨value, start, valued, runs⟩ := runs_bind runs
      obtain rfl := setting.switchValue_quiet _ _ _ _ _ valued
      obtain ⟨⟨cases_, default⟩, middle, chosen, runs⟩ := runs_bind runs
      refine behind ?_ runs
      rw [gather_single]
      exact emitCases_issues inner (here stated kind) chosen
    next source subject kind =>
      split at runs
      · obtain ⟨_, _, thrown, -⟩ := runs_bind runs
        cases thrown
      · obtain ⟨template, start, templated, runs⟩ := runs_bind runs
        obtain rfl := setting.template_quiet _ _ _ _ _ templated
        obtain ⟨body, middle, inside, runs⟩ := runs_bind runs
        refine behind ?_ runs
        rw [gather_single, Instruction.bodies, List.flatMap_singleton]
        exact own _ _ _ _ inside
    next function arguments kind =>
      obtain ⟨site, start, sited, runs⟩ := runs_bind runs
      obtain rfl := setting.callOf_quiet _ _ _ _ _ _ sited
      exact behind (.refl _) runs
    next name value kind =>
      obtain ⟨template, start, templated, runs⟩ := runs_bind runs
      obtain rfl := setting.template_quiet _ _ _ _ _ templated
      exact behind (.refl _) runs
    next => exact behind (.refl _) runs

theorem emitBody_issues {node : LevelTree}
    (each : ∀ member ∈ node.members, Counts setting member ∧
      ∀ inner ∈ member.members, Counts setting inner)
    (once : ∀ member ∈ node.members, ∀ stated, member.kind = .switch stated →
      (member.members.map LevelTree.kind).count .default ≤ 1) : Counts setting node := by
  intro depth before after code runs
  obtain ⟨id, content, outer, members⟩ := node
  have own (member : LevelTree) (among : member ∈ members) := (each member among).1
  rw [emitBody] at runs
  obtain ⟨controls, _, controlled, runs⟩ := runs_bind runs
  obtain ⟨literals, _, literal, runs⟩ := runs_bind runs
  obtain ⟨groups, _, merged, runs⟩ := runs_bind runs
  obtain ⟨arms, last, parameterized, runs⟩ := runs_bind runs
  obtain ⟨returns, _, returned, runs⟩ := runs_bind runs
  obtain rfl := setting.returns_quiet _ _ _ _ returned
  -- a dispatch without arms is left out, and then nothing has been merged for it
  have armless : arms = [] → groups = [] := by
    rintro rfl
    obtain ⟨issued, combined⟩ := mergedGroups_yields ⟨_, _, merged⟩
    have length := arms_length (emitArms_yields ⟨_, _, parameterized⟩)
    have partition := Batch.merge_partition combined
    rw [List.eq_nil_of_length_eq_zero length.symm] at partition
    exact partition.eq_nil
  have groupless : gather Instruction.groups returns = [] := by
    rw [gather_eq_flatMap]
    refine List.flatMap_eq_nil_iff.mpr fun instruction among => ?_
    obtain ⟨_, -, ⟨kind, compiled⟩⟩ := (returns_yields ⟨_, _, returned⟩).origin instruction among
    rfl
  have level : Issues before last (gather Instruction.groups
      (controls ++ dispatch depth literals groups arms ++ returns)) := by
    rw [gather_append, gather_append, groupless, List.append_nil,
      gather_dispatch _ rfl rfl (fun _ => rfl) armless]
    exact (emitControls_issues each once controlled).trans ((emitLiterals_issues own literal).trans
      ((mergedGroups_issues merged).trans (emitArms_issues own parameterized)))
  split at runs
  · obtain ⟨rfl, rfl⟩ := runs_pure runs
    exact level
  · obtain ⟨bound, _, compiled, runs⟩ := runs_bind runs
    obtain rfl := setting.bindings_quiet _ _ _ _ _ compiled
    obtain ⟨rfl, rfl⟩ := runs_pure runs
    rw [gather_single, Instruction.bodies, List.flatMap_singleton]
    exact level

end

/-- In a tree that mirrors an arranged arena no switch has several defaults, so every body counts. -/
theorem counts {arena : Arena} {setting : Setting} (linked : arena.Linked)
    (arranged : arena.Arranged) {tree : LevelTree} (mirrors : tree.Mirrors arena) :
    Counts setting tree ∧ ∀ member ∈ tree.members, Counts setting member := by
  induction mirrors with
  | @node id outer members level behind below ih =>
    refine ⟨emitBody_issues ih ?_, fun member among => (ih member among).1⟩
    intro member among stated kind
    have holds := (below member among).members_holds arranged linked
    rw [kind] at holds
    exact holds.defaults

end Signpost.Program

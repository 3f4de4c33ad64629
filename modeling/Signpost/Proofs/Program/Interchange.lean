import Signpost.Proofs.Moved
import Signpost.Proofs.Program.Alike

/-!
# Levels with moved literals

Code is emitted from the members of a level in their order, but the arm of a literal is found by its
text. So members that take literals can be moved to other positions, and no run will tell: neither by
what it answers nor by how it moves the cursor or what it calls. The marks of merged expressions do
depend on the order of levels, but nothing in a run depends on them.
-/
namespace Signpost.Program

open Emission Machine

/-- Trees of levels whose code no run tells apart, as bodies and as members of a level. -/
structure Interchangeable (setting : Setting) (tree other : LevelTree) : Prop where
  content : other.content = tree.content
  outer : other.outer = tree.outer
  arguments : levelArguments other.members = levelArguments tree.members
  body : ∀ depth code code', Yields (emitBody setting depth tree) code →
    Yields (emitBody setting depth other) code' → Alike code code'
  control : ∀ depth code code', ControlCode setting depth tree code →
    ControlCode setting depth other code' → Alike code code'

/-- The members of two levels side by side. Those that take literals stand in another order, but a
literal still leads to the same members. -/
structure Rearranged (setting : Setting) (pairs pairs' : List (LevelTree × LevelTree)) : Prop where
  each : ∀ pair ∈ pairs, Interchangeable setting pair.1 pair.2
  moved : Moved (fun pair => pair.1.kind.literal?.isSome) pairs pairs'
  found : ∀ literal : String, (pairs'.find? fun pair => pair.1.kind.literal? == some literal)
    = pairs.find? fun pair => pair.1.kind.literal? == some literal

/-! ### Templates -/

section

variable {setting : Setting} {visible : List String}

theorem Setting.compiles_unique : Relator.RightUnique (setting.Compiles visible) := by
  intro source template template' compiled compiled'
  rw [Compiles] at compiled compiled'
  exact Except.ok.inj (compiled.symm.trans compiled')

theorem Setting.compilesEntries_unique : Relator.RightUnique (setting.CompilesEntries visible) := by
  apply Relator.RightUnique.forall₂
  rintro entry ⟨name, template⟩ ⟨name', template'⟩ ⟨named, made⟩ ⟨named', made'⟩
  exact Prod.ext (named.trans named'.symm) (setting.compiles_unique made made')

theorem Setting.compilesCall_unique (function : String) :
    Relator.RightUnique (setting.CompilesCall visible function) := by
  rintro arguments ⟨found, templates⟩ ⟨found', templates'⟩ ⟨known, all⟩ ⟨known', all'⟩
  cases known.symm.trans known'
  cases Relator.RightUnique.forall₂ setting.compiles_unique all all'
  rfl

end

namespace Interchangeable

variable {setting : Setting} {tree other : LevelTree}

theorem kind (same : Interchangeable setting tree other) : other.kind = tree.kind :=
  congrArg NodeContent.kind same.content

theorem visible (same : Interchangeable setting tree other) : other.visible = tree.visible := by
  rw [LevelTree.visible, LevelTree.visible, same.outer, same.content]

end Interchangeable

/-! ### What is made from pairs -/

theorem forall₂_pairs {α β : Type} {made : α → β → Prop} {related : β → β → Prop}
    {pairs : List (α × α)} {outputs outputs' : List β}
    (all : List.Forall₂ made (pairs.map Prod.fst) outputs)
    (all' : List.Forall₂ made (pairs.map Prod.snd) outputs')
    (each : ∀ pair ∈ pairs, ∀ output output', made pair.1 output → made pair.2 output' →
      related output output') : List.Forall₂ related outputs outputs' := by
  induction pairs generalizing outputs outputs' with
  | nil =>
    cases all
    cases all'
    exact .nil
  | cons pair rest ih =>
    obtain ⟨here, later⟩ := List.forall_mem_cons.mp each
    cases all with
    | cons made all =>
      cases all' with
      | cons made' all' => exact .cons (here _ _ made made') (ih all all' later)

/-- What is made from nothing can be left out before. -/
theorem flatten_filter {α β : Type} {made : α → List β → Prop} {inputs : List α}
    {outputs : List (List β)} {stays : α → Bool} (all : List.Forall₂ made inputs outputs)
    (nothing : ∀ input output, made input output → stays input = false → output = []) :
    ∃ kept, List.Forall₂ made (inputs.filter stays) kept ∧ kept.flatten = outputs.flatten := by
  induction all with
  | nil => exact ⟨[], .nil, rfl⟩
  | @cons input output _ _ here _ ih =>
    obtain ⟨kept, rest, same⟩ := ih
    cases sort : stays input with
    | true =>
      rw [List.filter_cons_of_pos sort]
      exact ⟨output :: kept, .cons here rest, by rw [List.flatten_cons, List.flatten_cons, same]⟩
    | false =>
      rw [List.filter_cons_of_neg (by simp [sort])]
      exact ⟨kept, rest, by rw [List.flatten_cons, nothing input output here sort, same]; rfl⟩

namespace Rearranged

variable {setting : Setting} {pairs pairs' : List (LevelTree × LevelTree)}
  (rearranged : Rearranged setting pairs pairs')

include rearranged

theorem kinds : ∀ pair ∈ pairs', pair.2.kind = pair.1.kind := fun pair member =>
  (rearranged.each pair (rearranged.moved.perm.mem_iff.mp member)).kind

/-- What is read off members that take no literals is the same for both levels. -/
theorem filterMap {α : Type} (read : NodeKind → Option α)
    (passed : ∀ kind, kind.literal?.isSome = true → read kind = none) :
    (pairs'.map Prod.snd).filterMap (fun member => read member.kind)
      = (pairs.map Prod.fst).filterMap fun member => read member.kind := by
  have moved : pairs'.filterMap (fun pair => read pair.1.kind)
      = pairs.filterMap fun pair => read pair.1.kind :=
    rearranged.moved.filterMap_eq fun pair => passed pair.1.kind
  rw [List.filterMap_map, List.filterMap_map, Function.comp_def, Function.comp_def, ← moved]
  apply List.filterMap_congr
  intro pair member
  rw [rearranged.kinds pair member]

/-- Members that take no literals stand side by side in both levels. -/
theorem filter (holds : NodeKind → Bool)
    (passed : ∀ kind, kind.literal?.isSome = true → holds kind = false) :
    (pairs'.map Prod.snd).filter (fun member => holds member.kind)
      = (pairs.filter fun pair => holds pair.1.kind).map Prod.snd := by
  rw [List.filter_map, ← rearranged.moved.filter_eq fun pair => passed pair.1.kind]
  congr 1
  apply List.filter_congr
  intro pair member
  rw [Function.comp_apply, rearranged.kinds pair member]

theorem forall₂ {β : Type} {made : LevelTree → β → Prop} {related : β → β → Prop}
    {outputs outputs' : List β} (holds : NodeKind → Bool)
    (passed : ∀ kind, kind.literal?.isSome = true → holds kind = false)
    (all : List.Forall₂ made ((pairs.map Prod.fst).filter fun member => holds member.kind) outputs)
    (all' : List.Forall₂ made ((pairs'.map Prod.snd).filter fun member => holds member.kind) outputs')
    (each : ∀ tree other output output', Interchangeable setting tree other → made tree output →
      made other output' → related output output') : List.Forall₂ related outputs outputs' := by
  rw [List.filter_map] at all
  rw [rearranged.filter holds passed] at all'
  apply forall₂_pairs all all'
  intro pair member output output'
  exact each _ _ output output' (rearranged.each pair (List.mem_of_mem_filter member))

/-- What is made from members of some kinds is made from them in the same order for both levels, if
those that take literals are not among them. -/
theorem picks {β : Type} {made : LevelTree → β → Prop} {related : β → β → Prop}
    {outputs outputs' : List β} (skipped : NodeKind → Prop)
    (picked : Picks (fun member => skipped member.kind) made (pairs.map Prod.fst) outputs)
    (picked' : Picks (fun member => skipped member.kind) made (pairs'.map Prod.snd) outputs')
    (passed : ∀ kind, kind.literal?.isSome = true → skipped kind)
    (taken : ∀ tree output, made tree output → ¬ skipped tree.kind)
    (each : ∀ tree other output output', Interchangeable setting tree other → made tree output →
      made other output' → related output output') : List.Forall₂ related outputs outputs' := by
  classical
  apply rearranged.forall₂ (fun kind => decide (¬ skipped kind)) _
    (picked.filter _ (fun _ skip => by simpa using skip) fun tree output here => by
      simpa using taken tree output here)
    (picked'.filter _ (fun _ skip => by simpa using skip) fun tree output here => by
      simpa using taken tree output here) each
  intro kind literal
  simpa using passed kind literal

/-! ### The parts of a body -/

theorem controls {depth : Nat} {controls controls' : List (List Instruction)}
    (controlled : List.Forall₂ (ControlCode setting depth) (pairs.map Prod.fst) controls)
    (controlled' : List.Forall₂ (ControlCode setting depth) (pairs'.map Prod.snd) controls') :
    Alike controls.flatten controls'.flatten := by
  have nothing (member : LevelTree) (code : List Instruction)
      (made : ControlCode setting depth member code)
      (literal : (!member.kind.literal?.isSome) = false) : code = [] := by
    cases made with
    | other => rfl
    | switch kind | test kind | call kind | set kind =>
      rw [kind] at literal
      cases literal
  obtain ⟨kept, all, same⟩ := flatten_filter controlled nothing
  obtain ⟨kept', all', same'⟩ := flatten_filter controlled' nothing
  rw [← same, ← same']
  apply Alike.flatten (rearranged.forall₂ (fun kind => !kind.literal?.isSome) (by simp) all all' _)
  intro tree other code code' interchangeable made made'
  exact interchangeable.control depth code code' made made'

theorem literals_length {depth : Nat} {literals literals' : List (String × List Instruction)}
    (literal : Picks (·.kind.literal? = none) (LiteralCode setting depth) (pairs.map Prod.fst) literals)
    (literal' : Picks (·.kind.literal? = none) (LiteralCode setting depth) (pairs'.map Prod.snd)
      literals') : literals'.length = literals.length := by
  have taken (member : LevelTree) (arm : String × List Instruction)
      (made : LiteralCode setting depth member arm) : member.kind.literal?.isSome = true := by
    cases made with
    | mk kind => simp [kind]
  have passed (member : LevelTree) (none : member.kind.literal? = none) :
      member.kind.literal?.isSome = false := by
    simp [none]
  have all := literal.filter (fun member => member.kind.literal?.isSome) passed taken
  have all' := literal'.filter (fun member => member.kind.literal?.isSome) passed taken
  have same : pairs'.filter (fun pair => pair.2.kind.literal?.isSome)
      = pairs'.filter fun pair => pair.1.kind.literal?.isSome := by
    apply List.filter_congr
    intro pair member
    rw [rearranged.kinds pair member]
  rw [← all.length_eq, ← all'.length_eq, List.filter_map, List.filter_map, List.length_map,
    List.length_map, Function.comp_def, Function.comp_def, same]
  exact rearranged.moved.movers.length_eq

/-- A literal leads to arms that are alike. -/
theorem literals_found {depth : Nat} {literals literals' : List (String × List Instruction)}
    (literal : Picks (·.kind.literal? = none) (LiteralCode setting depth) (pairs.map Prod.fst) literals)
    (literal' : Picks (·.kind.literal? = none) (LiteralCode setting depth) (pairs'.map Prod.snd)
      literals') (segment : String) :
    Option.Rel (fun arm arm' => Alike arm.2 arm'.2) (literals.find? (·.1 == segment))
      (literals'.find? (·.1 == segment)) := by
  have found := literal.find (fun member => member.kind.literal? == some segment)
    (fun arm => arm.1 == segment) (fun member none => by simp [none])
    (fun member arm made => by cases made with | mk kind => simp [kind])
  have found' := literal'.find (fun member => member.kind.literal? == some segment)
    (fun arm => arm.1 == segment) (fun member none => by simp [none])
    (fun member arm made => by cases made with | mk kind => simp [kind])
  -- Both searches are searches for a member by its literal, and members with the same literal keep
  -- their order.
  have same : (pairs'.find? fun pair => pair.2.kind.literal? == some segment)
      = pairs'.find? fun pair => pair.1.kind.literal? == some segment := by
    rw [← List.head?_filter, ← List.head?_filter]
    congr 1
    apply List.filter_congr
    intro pair member
    rw [rearranged.kinds pair member]
  rw [List.find?_map, Function.comp_def] at found found'
  rw [same, rearranged.found] at found'
  generalize literals.find? (·.1 == segment) = arm at found
  generalize literals'.find? (·.1 == segment) = arm' at found'
  cases there : pairs.find? fun pair => pair.1.kind.literal? == some segment with
  | none =>
    rw [there] at found found'
    cases found
    cases found'
    exact .none
  | some pair =>
    rw [there] at found found'
    cases found with
    | some both =>
      cases found' with
      | some both' =>
        obtain ⟨-, ⟨kind, inside⟩⟩ := both
        obtain ⟨-, ⟨kind', inside'⟩⟩ := both'
        have interchangeable := rearranged.each pair (List.mem_of_find?_eq_some there)
        exact .some (interchangeable.body _ _ _ inside inside')

theorem returns {returns returns' : List Instruction}
    (returned : Picks (fun member => ∀ attributes, member.kind ≠ .return attributes)
      (ReturnCode setting) (pairs.map Prod.fst) returns)
    (returned' : Picks (fun member => ∀ attributes, member.kind ≠ .return attributes)
      (ReturnCode setting) (pairs'.map Prod.snd) returns') : returns' = returns := by
  have same : List.Forall₂ Eq returns returns' := by
    apply rearranged.picks (fun kind => ∀ attributes, kind ≠ .return attributes) returned returned'
    · rintro kind literal attributes rfl
      cases literal
    · rintro tree code ⟨kind, -⟩ skip
      exact skip _ kind
    · rintro tree other code code' interchangeable ⟨kind, compiled⟩ ⟨kind', compiled'⟩
      rw [interchangeable.kind, kind] at kind'
      cases kind'
      rw [interchangeable.visible] at compiled'
      rw [setting.compilesEntries_unique compiled compiled']
  rw [List.forall₂_eq_eq_eq] at same
  exact same.symm

theorem arms {depth : Nat} {arms arms' : List (List Instruction)}
    (parameterized : Picks (fun member => ∀ pattern id, member.kind ≠ .regexPath pattern id)
      (ArmCode setting depth) (pairs.map Prod.fst) arms)
    (parameterized' : Picks (fun member => ∀ pattern id, member.kind ≠ .regexPath pattern id)
      (ArmCode setting depth) (pairs'.map Prod.snd) arms') : List.Forall₂ Alike arms arms' := by
  apply rearranged.picks (fun kind => ∀ pattern id, kind ≠ .regexPath pattern id)
    parameterized parameterized'
  · rintro kind literal pattern id rfl
    cases literal
  · rintro tree code ⟨kind, -⟩ skip
    exact skip _ _ kind
  · rintro tree other code code' interchangeable ⟨-, inside⟩ ⟨-, inside'⟩
    exact interchangeable.body _ _ _ inside inside'

/-- The groups of both levels are merged from the same patterns, with different marks perhaps. -/
theorem selected {issued issued' : Nat} {groups groups' : List BatchGroup}
    (merged : Batch.merge setting.limit issued (levelPatterns (pairs.map Prod.fst)) = .ok groups)
    (merged' : Batch.merge setting.limit issued' (levelPatterns (pairs'.map Prod.snd)) = .ok groups')
    (segment : String) : select groups' segment = select groups segment := by
  have patterns : levelPatterns (pairs'.map Prod.snd) = levelPatterns (pairs.map Prod.fst) := by
    apply rearranged.filterMap NodeKind.levelPattern?
    intro kind literal
    cases kind <;> first | rfl | cases literal
  rw [patterns] at merged'
  obtain ⟨others, again, alike⟩ := Batch.select_issued merged issued'
  cases again.symm.trans merged'
  exact alike segment

theorem body {id id' : NodeId} {content : NodeContent} {outer : List String} {depth : Nat}
    {code code' : List Instruction}
    (made : BodyCode setting depth (.node id content outer (pairs.map Prod.fst)) code)
    (made' : BodyCode setting depth (.node id' content outer (pairs'.map Prod.snd)) code') :
    Alike code code' := by
  cases made with
  | mk controlled literal merged parameterized returned wrapped =>
    cases made' with
    | mk controlled' literal' merged' parameterized' returned' wrapped' =>
      have paths := Alike.dispatch depth (rearranged.literals_length literal literal')
        (rearranged.literals_found literal literal') (rearranged.selected merged merged')
        (rearranged.arms parameterized parameterized')
      have level (rest : List Instruction) :=
        ((rearranged.controls controlled controlled').append paths).append (.refl rest)
      rw [rearranged.returns returned returned'] at wrapped'
      rcases wrapped with ⟨valueless, rfl⟩ | ⟨valued, bound, compiled, rfl⟩
      · rcases wrapped' with ⟨-, rfl⟩ | ⟨valued, -⟩
        · exact level _
        · exact absurd valueless valued
      · rcases wrapped' with ⟨valueless, -⟩ | ⟨-, bound', compiled', rfl⟩
        · exact absurd valueless valued
        · rw [setting.compilesEntries_unique compiled compiled']
          exact (level _).scope bound'

/-! ### Control nodes -/

theorem arguments : levelArguments (pairs'.map Prod.snd) = levelArguments (pairs.map Prod.fst) := by
  apply rearranged.filterMap NodeKind.argument?
  intro kind literal
  cases kind <;> first | rfl | cases literal

section

variable {id id' : NodeId} {content : NodeContent} {outer : List String}

/-- A switch gets the same value as long as none of its members has been moved. -/
theorem switchValue {stated : Option String} {value value' : SwitchValue} (still : pairs' = pairs)
    (valued : ValueCode setting (.node id content outer (pairs.map Prod.fst)) stated value)
    (valued' : ValueCode setting (.node id' content outer (pairs'.map Prod.snd)) stated value') :
    value' = value := by
  subst still
  cases valued with
  | stated templated =>
    cases valued' with
    | stated templated' => rw [setting.compiles_unique templated templated']
  -- a call that gives the value stands first, so the first members correspond to each other
  | call members kind sited =>
    cases pairs' with
    | nil => cases members
    | cons pair rest =>
      have first := rearranged.each pair List.mem_cons_self
      cases members
      cases valued' with
      | call members' kind' sited' =>
        cases members'
        rw [first.kind, kind] at kind'
        cases kind'
        rw [first.visible, first.arguments] at sited'
        rw [setting.compilesCall_unique _ sited sited']
      | blank callless => exact absurd (first.kind.trans kind) (callless pair.2 rfl _ _)
  | blank callless =>
    cases valued' with
    | call members' kind' sited' =>
      cases pairs' with
      | nil => cases members'
      | cons pair rest =>
        cases members'
        have first := rearranged.each pair List.mem_cons_self
        exact absurd (first.kind.symm.trans kind') (callless pair.1 rfl _ _)
    | blank => rfl

/-- The cases of a switch render the same values, and their bodies are alike. -/
theorem chosen {depth : Nat} {cases cases' : List (CompiledTemplate × List Instruction)}
    {default default' : Option (List Instruction)}
    (chosen : Yields (emitCases setting depth (pairs.map Prod.fst)) (cases, default))
    (chosen' : Yields (emitCases setting depth (pairs'.map Prod.snd)) (cases', default')) :
    List.Forall₂ (fun case case' => case'.1 = case.1 ∧ Alike case.2 case'.2) cases cases' ∧
      Option.Rel Alike default default' := by
  obtain ⟨picked, last⟩ := emitCases_yields chosen
  obtain ⟨picked', last'⟩ := emitCases_yields chosen'
  constructor
  · apply rearranged.picks (fun kind => ∀ source, kind ≠ .case source) picked picked'
    · rintro kind literal source rfl
      cases literal
    · rintro tree case ⟨kind, -, -⟩ skip
      exact skip _ kind
    · rintro tree other case case' interchangeable ⟨kind, templated, inside⟩
        ⟨kind', templated', inside'⟩
      rw [interchangeable.kind, kind] at kind'
      cases kind'
      rw [interchangeable.visible] at templated'
      exact ⟨setting.compiles_unique templated' templated,
        interchangeable.body _ _ _ inside inside'⟩
  · have last := defaultCode_last last
    have last' := defaultCode_last last'
    -- Only the last default counts, and it is the same one on both sides: what has been rearranged
    -- are literals, and a default is none.
    have passed (kind : NodeKind) (literal : kind.literal?.isSome = true) :
        decide (kind = .default) = false := by
      cases kind <;> first | rfl | cases literal
    rw [rearranged.filter (fun kind => kind = .default) passed, List.getLast?_map] at last'
    rw [List.filter_map, List.getLast?_map, Function.comp_def] at last
    cases there : (pairs.filter fun pair => decide (pair.1.kind = .default)).getLast? with
    | none =>
      rw [there] at last last'
      cases last
      cases last'
      exact .none
    | some pair =>
      have interchangeable :=
        rearranged.each pair (List.mem_of_mem_filter (List.mem_of_getLast? there))
      rw [there] at last last'
      cases last with
      | some both =>
        cases last' with
        | some both' => exact .some (interchangeable.body _ _ _ both.2 both'.2)

theorem control {depth : Nat} {code code' : List Instruction}
    (settled : ∀ stated, content.kind = .switch stated → pairs' = pairs)
    (made : ControlCode setting depth (.node id content outer (pairs.map Prod.fst)) code)
    (made' : ControlCode setting depth (.node id' content outer (pairs'.map Prod.snd)) code') :
    Alike code code' := by
  -- the kind is the same on both sides, so the code is made in the same way
  cases made with
  | switch kind valued chosen =>
    cases made' with
    | switch kind' valued' chosen' =>
      cases kind.symm.trans kind'
      rw [rearranged.switchValue (settled _ kind) valued valued']
      obtain ⟨cases, default⟩ := rearranged.chosen chosen chosen'
      exact .switch _ cases default
    | test kind' | call kind' | set kind' => cases kind.symm.trans kind'
    | other kind' => exact absurd kind (kind'.1 _)
  | test kind compiled templated inside =>
    cases made' with
    | test kind' compiled' templated' inside' =>
      cases kind.symm.trans kind'
      cases compiled.symm.trans compiled'
      rw [setting.compiles_unique templated templated']
      exact .test _ _ (rearranged.body (emitBody_yields inside) (emitBody_yields inside'))
    | switch kind' | call kind' | set kind' => cases kind.symm.trans kind'
    | other kind' => exact absurd kind (kind'.2.1 _ _)
  | call kind sited =>
    cases made' with
    | call kind' sited' =>
      cases kind.symm.trans kind'
      dsimp only [LevelTree.members] at sited sited'
      rw [rearranged.arguments] at sited'
      rw [setting.compilesCall_unique _ sited sited']
      exact .refl _
    | switch kind' | test kind' | set kind' => cases kind.symm.trans kind'
    | other kind' => exact absurd kind (kind'.2.2.1 _ _)
  | set kind templated =>
    cases made' with
    | set kind' templated' =>
      cases kind.symm.trans kind'
      rw [setting.compiles_unique templated templated']
      exact .refl _
    | switch kind' | test kind' | call kind' => cases kind.symm.trans kind'
    | other kind' => exact absurd kind (kind'.2.2.2 _ _)
  | other kind =>
    cases made' with
    | other => exact .refl _
    | switch kind' => exact absurd kind' (kind.1 _)
    | test kind' => exact absurd kind' (kind.2.1 _ _)
    | call kind' => exact absurd kind' (kind.2.2.1 _ _)
    | set kind' => exact absurd kind' (kind.2.2.2 _ _)

/-- Nodes that say the same are interchangeable if their members are, side by side, and if nothing has
been moved below a switch. -/
theorem node (id id' : NodeId) (outer : List String)
    (settled : ∀ stated, content.kind = .switch stated → pairs' = pairs) :
    Interchangeable setting (.node id content outer (pairs.map Prod.fst))
      (.node id' content outer (pairs'.map Prod.snd)) where
  content := rfl
  outer := rfl
  arguments := rearranged.arguments
  body := fun _ _ _ made made' => rearranged.body (emitBody_yields made) (emitBody_yields made')
  control := fun _ _ _ made made' => rearranged.control settled made made'

end

end Rearranged

/-- Members that stand side by side with themselves. -/
theorem Rearranged.refl {setting : Setting} {pairs : List (LevelTree × LevelTree)}
    (each : ∀ pair ∈ pairs, Interchangeable setting pair.1 pair.2) :
    Rearranged setting pairs pairs :=
  ⟨each, .refl _ _, fun _ => rfl⟩

mutual

/-- Emitting a tree again gives the same code but for the marks. -/
theorem Interchangeable.refl (setting : Setting) :
    (tree : LevelTree) → Interchangeable setting tree tree
  | .node id content outer members => by
    let pairs := members.map fun member => (member, member)
    have each : ∀ pair ∈ pairs, Interchangeable setting pair.1 pair.2 := by
      intro pair among
      obtain ⟨member, there, rfl⟩ := List.mem_map.mp among
      exact interchangeable_members setting members member there
    have whole : Interchangeable setting (.node id content outer (pairs.map Prod.fst))
        (.node id content outer (pairs.map Prod.snd)) :=
      (Rearranged.refl each).node id id outer fun _ _ => rfl
    simpa [pairs, List.map_map, Function.comp_def] using whole

theorem interchangeable_members (setting : Setting) :
    (members : List LevelTree) → ∀ member ∈ members, Interchangeable setting member member
  | [], _, among => by cases among
  | first :: rest, member, among => by
    rcases List.mem_cons.mp among with same | later
    · rw [same]
      exact Interchangeable.refl setting first
    · exact interchangeable_members setting rest member later

end

end Signpost.Program

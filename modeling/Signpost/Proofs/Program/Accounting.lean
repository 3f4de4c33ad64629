import Signpost.Proofs.Program.Sites

/-!
# Accounting for sites

Every node of a tree that says something to a program has one site in it, and every site belongs to a
node. Emission sorts the members of a level by the places of their code, so sites and nodes correspond
to one another without standing in the same order.
-/
namespace Signpost.Program

open Emission NodeKind

/-! ### The members of a body -/

section

variable {arena : Arena} {setting : Setting} {depth : Nat} {tree member : LevelTree}

/-- A part of a body has code in one of four places. -/
theorem place_of_part {kind : NodeKind} (part : kind.isBodyPart) (solid : kind.isBlank = false)
    (spelled : kind.Spelled) :
    (kind.isControl, kind.literal?.isSome, kind.isParameterized, kind.isReturn) ∈
      [(true, false, false, false), (false, true, false, false), (false, false, true, false),
        (false, false, false, true)] := by
  cases kind with
  | path pattern id =>
    obtain ⟨literal, text⟩ := spelled pattern id rfl
    rw [text]
    simp [isControl, isParameterized, isReturn]
  | blankPath id => cases solid
  | router | block | case | default | arg => cases part
  | _ => simp [isControl, literal?, isParameterized, isReturn]

/-- The members of a body, sorted by the places of their code. -/
theorem sorted_perm {members : List LevelTree}
    (parts : ∀ member ∈ members, member.kind.isBodyPart)
    (solid : ∀ member ∈ members, member.kind.isBlank = false)
    (spelled : ∀ member ∈ members, member.kind.Spelled) :
    (members.filter (·.kind.isControl) ++ (members.filter (·.kind.literal?.isSome)
      ++ (members.filter (·.kind.isParameterized) ++ members.filter (·.kind.isReturn)))).Perm
      members := by
  induction members with
  | nil => exact .refl []
  | cons member rest ih =>
    obtain ⟨part, parts⟩ := List.forall_mem_cons.mp parts
    obtain ⟨filled, solid⟩ := List.forall_mem_cons.mp solid
    obtain ⟨spelt, spelled⟩ := List.forall_mem_cons.mp spelled
    have behind := (ih parts solid spelled).cons member
    have place := place_of_part part filled spelt
    simp only [List.mem_cons, Prod.mk.injEq, List.not_mem_nil, or_false] at place
    -- the member stands in front of those of its own sort, behind those of the sorts before
    rcases place with place | place | place | place
    · simp only [List.filter_cons, place, if_true, Bool.false_eq_true, if_false]
      exact behind
    · simp only [List.filter_cons, place, if_true, Bool.false_eq_true, if_false]
      exact List.perm_middle.trans behind
    · simp only [List.filter_cons, place, if_true, Bool.false_eq_true, if_false]
      rw [List.cons_append]
      exact ((List.perm_middle.append_left _).trans List.perm_middle).trans behind
    · simp only [List.filter_cons, place, if_true, Bool.false_eq_true, if_false]
      rw [← List.append_assoc, ← List.append_assoc]
      refine List.perm_middle.trans ?_
      rw [List.append_assoc, List.append_assoc]
      exact behind

end

/-! ### The sites of a body -/

section

variable {arena : Arena} {setting : Setting} {node : LevelTree}

/-- If a node has a body, the code of that has a site for everything below the node. -/
def Accounted (setting : Setting) (arena : Arena) (node : LevelTree) : Prop :=
  node.kind.isBodied → ∀ code, Yields (emitBody setting (arena.pathDepth node.id) node) code →
    Corresponds (Becomes setting arena) (node.members.flatMap LevelTree.sited)
      (gather Instruction.sites code)

/-- Nodes with bodies have their own sites and those in their bodies. -/
theorem bodies_sited {γ : Type} {made : LevelTree → γ → Prop} {nodes : List LevelTree}
    {parts : List γ} (each : List.Forall₂ made nodes parts)
    (own : ∀ node ∈ nodes, Accounted setting arena node) (site : γ → Site)
    (body : γ → List Instruction)
    (here : ∀ node ∈ nodes, ∀ part, made node part → Becomes setting arena node (site part) ∧
      node.kind.isBodied ∧ Yields (emitBody setting (arena.pathDepth node.id) node) (body part)) :
    Corresponds (Becomes setting arena) (nodes.flatMap LevelTree.sited)
      (parts.map site ++ parts.flatMap fun part => gather Instruction.sites (body part)) := by
  have split : nodes.flatMap LevelTree.sited
      = nodes.flatMap fun node => node :: node.members.flatMap LevelTree.sited := by
    refine List.flatMap_congr fun node among => ?_
    obtain ⟨part, -, becomes⟩ := forall₂_origin each.flip node among
    exact LevelTree.sited_cons (here node among part becomes).1.isSited
  rw [split]
  refine Corresponds.heads each (fun node among part becomes => (here node among part becomes).1) ?_
  intro node among part becomes
  obtain ⟨-, bodied, inside⟩ := here node among part becomes
  exact own node among bodied _ inside

/-- One default at most is the only one. -/
theorem DefaultCode.forall₂ {depth : Nat} {members : List LevelTree}
    {code : Option (List Instruction)} (made : DefaultCode setting depth members code)
    (once : (members.map LevelTree.kind).count .default ≤ 1) :
    List.Forall₂ (fun member => Yields (emitBody setting depth member))
      (members.filter (·.kind = .default)) code.toList := by
  induction made with
  | nil => exact .nil
  | @skip member rest code kind _ ih =>
    rw [List.map_cons, List.count_cons_of_ne kind] at once
    rw [List.filter_cons_of_neg (by simpa using kind)]
    exact ih once
  | @default member rest code body kind inside _ ih =>
    rw [List.map_cons, kind, List.count_cons_self] at once
    have later := ih (by omega)
    have none : rest.filter (·.kind = .default) = [] := by
      refine List.filter_eq_nil_iff.mpr fun other among => ?_
      have absent : NodeKind.default ∉ rest.map LevelTree.kind :=
        List.count_eq_zero.mp (by omega)
      simpa using fun same : other.kind = .default => absent (same ▸ List.mem_map_of_mem among)
    rw [none, List.forall₂_nil_left_iff, Option.toList_eq_nil_iff] at later
    rw [List.filter_cons_of_pos (by simpa using kind), none, later]
    exact .cons inside .nil

variable (linked : arena.Linked)

include linked

/-- Cases, and a default if there is one, have their sites and those of their bodies. -/
theorem choices_sited {switch : LevelTree} {choices : List LevelTree} (mirrors : switch.Mirrors arena)
    (below : choices ⊆ switch.members) (all : ∀ choice ∈ choices, choice.kind.isCase)
    (own : ∀ choice ∈ choices, Accounted setting arena choice)
    {cases_ : List (CompiledTemplate × List Instruction)} {default : Option (List Instruction)}
    (chosen : List.Forall₂ (CaseCode setting (arena.pathDepth switch.id))
      (choices.filter (·.kind.isChoice)) cases_)
    (otherwise : List.Forall₂ (fun choice => Yields (emitBody setting (arena.pathDepth switch.id) choice))
      (choices.filter (·.kind = .default)) default.toList) :
    Corresponds (Becomes setting arena) (choices.flatMap LevelTree.sited)
      (cases_.map (fun case => Site.case case.1 case.2) ++ default.toList.map Site.default
        ++ (cases_.map (·.2) ++ default.toList).flatMap (gather Instruction.sites)) := by
  have depth {choice : LevelTree} (among : choice ∈ choices) :
      arena.pathDepth switch.id = arena.pathDepth choice.id := by
    refine (mirrors.pathDepth_still linked (below among) ?_).symm
    have case := all choice among
    cases same : choice.kind <;> simp_all [isCase, pattern?]
  have first := bodies_sited chosen (fun choice among => own choice (List.mem_of_mem_filter among))
    (fun case => .case case.1 case.2) (·.2) <| by
      rintro choice among ⟨template, body⟩ ⟨kind, templated, inside⟩
      rw [depth (List.mem_of_mem_filter among)] at inside
      exact ⟨.case kind templated inside, by rw [kind]; rfl, inside⟩
  have last := bodies_sited otherwise (fun choice among => own choice (List.mem_of_mem_filter among))
    .default id <| by
      intro choice among body inside
      obtain ⟨among, kind⟩ := List.mem_filter.mp among
      have kind := of_decide_eq_true kind
      rw [depth among] at inside
      exact ⟨.default kind inside, by rw [kind]; rfl, inside⟩
  -- the default may stand anywhere among the cases, but its site comes behind theirs
  have sorted : (choices.filter (·.kind.isChoice) ++ choices.filter (·.kind = .default)).Perm
      choices := by
    have others : choices.filter (·.kind = .default) = choices.filter (!·.kind.isChoice) := by
      refine List.filter_congr fun choice among => ?_
      have case := all choice among
      cases same : choice.kind <;> simp_all [isCase, isChoice]
    rw [others]
    exact List.filter_append_perm _ choices
  have whole := (first.append last).perm
    (List.flatMap_append .. ▸ sorted.flatMap_right LevelTree.sited)
  refine whole.perm_outputs ?_
  rw [List.flatMap_append, List.flatMap_map, List.append_assoc, List.append_assoc]
  exact (List.perm_append_comm_assoc _ _ _).append_left _

section

variable (mirrors : node.Mirrors arena)

include mirrors

theorem literals_sited (bodies : ∀ member ∈ node.members, Accounted setting arena member)
    {literals : List (String × List Instruction)}
    (picks : Picks (·.kind.literal? = none) (LiteralCode setting (arena.pathDepth node.id))
      node.members literals) :
    Corresponds (Becomes setting arena)
      ((node.members.filter (·.kind.literal?.isSome)).flatMap LevelTree.sited)
      (literals.map (fun arm => Site.literal (arena.pathDepth node.id) arm.1 arm.2)
        ++ literals.flatMap fun arm => gather Instruction.sites arm.2) := by
  have each := picks.filter (·.kind.literal?.isSome) (by simp) fun member arm made => by
    obtain ⟨kind, -⟩ := made
    rw [kind]
    rfl
  refine bodies_sited each (fun member among => bodies member (List.mem_of_mem_filter among)) _ _ ?_
  rintro member among ⟨literal, body⟩ ⟨text, inside⟩
  have depth := mirrors.pathDepth linked (List.mem_of_mem_filter among)
  rw [if_pos (Arena.pattern_of_literal text)] at depth
  cases kind : member.kind with
  | path pattern route =>
    rw [kind] at text
    exact ⟨.literal kind text depth inside, rfl, by rwa [depth]⟩
  | _ =>
    rw [kind] at text
    cases text

theorem arms_sited (bodies : ∀ member ∈ node.members, Accounted setting arena member)
    {issued : Nat} {groups : List BatchGroup} {arms : List (List Instruction)}
    (merged : Batch.merge setting.limit issued (levelPatterns node.members) = .ok groups)
    (picks : Picks (fun member => ∀ pattern id, member.kind ≠ .regexPath pattern id)
      (ArmCode setting (arena.pathDepth node.id)) node.members arms) :
    Corresponds (Becomes setting arena)
      ((node.members.filter (·.kind.isParameterized)).flatMap LevelTree.sited)
      (Instruction.sites (.patterns (arena.pathDepth node.id) groups arms)
        ++ arms.flatMap (gather Instruction.sites)) := by
  have partition := Batch.merge_partition merged
  have positions := partition.positions
  rw [← arms_length picks] at positions
  have paired := arms_paired picks partition.names
  -- branches and arms are as many, so pairing them cuts off nothing
  have slots : (groups.flatMap (·.branches)).length = arms.length := by
    have lengths := congrArg List.length positions
    rwa [List.length_map, List.length_range'] at lengths
  have each : ((groups.flatMap (·.branches)).zip arms).map Prod.snd = arms :=
    List.map_snd_zip (Nat.le_of_eq slots.symm)
  have behind : arms.flatMap (gather Instruction.sites)
      = ((groups.flatMap (·.branches)).zip arms).flatMap fun arm => gather Instruction.sites arm.2 := by
    conv_lhs => rw [← each, List.flatMap_map]
  rw [Instruction.sites, armSites_eq positions, behind]
  refine bodies_sited paired (fun member among => bodies member (List.mem_of_mem_filter among)) _ _ ?_
  rintro member among ⟨slot, body⟩ ⟨pattern, route, kind, names, inside⟩
  have depth := mirrors.pathDepth linked (List.mem_of_mem_filter among)
  rw [if_pos (by rw [kind]; rfl)] at depth
  exact ⟨.arm kind names depth inside, by rw [kind]; rfl, by rwa [depth]⟩

end

variable (arranged : arena.Arranged)

include arranged

theorem members_eq_nil (mirrors : node.Mirrors arena)
    (childless : ∀ below, node.kind.Holds below → below = []) : node.members = [] :=
  List.map_eq_nil_iff.mp (childless _ (mirrors.members_holds arranged linked))

/-- A call has one site, and the arguments below it go into that. -/
theorem call_sited (mirrors : node.Mirrors arena) {function : String} {arguments : List String}
    {site : CallSite} (kind : node.kind = .call function arguments)
    (sited : setting.CompilesCall node.visible function
      (arguments ++ levelArguments node.members) site) :
    Corresponds (Becomes setting arena) node.sited [.call site] := by
  have holds := mirrors.members_holds arranged linked
  rw [kind] at holds
  -- arguments have no sites of their own, and nothing stands below them
  have siteless : node.members.flatMap LevelTree.sited = [] := by
    refine List.flatMap_eq_nil_iff.mpr fun member among => ?_
    have argument := holds member.kind (List.mem_map_of_mem among)
    cases same : member.kind with
    | arg value =>
      have childless : member.members = [] :=
        members_eq_nil linked arranged (mirrors.mirrored member among) (by rw [same]; exact fun _ => id)
      rw [LevelTree.sited_eq, childless, same]
      rfl
    | _ =>
      rw [same] at argument
      cases argument
  have solid : ∀ child ∈ (arena.node node.id).children, (arena.node child).kind.isBlank = false := by
    intro child own
    have below := arranged.holds node.id
    rw [← mirrors.kind, kind] at below
    have argument := below _ (List.mem_map_of_mem own)
    cases same : (arena.node child).kind <;> simp_all [isArgument, isBlank]
  have level : levelArguments node.members
      = (arena.node node.id).children.filterMap fun child => (arena.node child).kind.argument? := by
    rw [← Arena.level_of_solid linked solid, ← mirrors.members, List.filterMap_map]
    exact List.filterMap_congr fun member among =>
      congrArg argument? (mirrors.mirrored member among).kind
  rw [LevelTree.sited_cons (by rw [kind]; rfl), siteless]
  rw [level] at sited
  exact .single (.call kind sited)

/-- The value of a switch is stated, or it comes from the call in front of the cases. -/
theorem switch_front (mirrors : node.Mirrors arena) {stated : Option String} {value : SwitchValue}
    (kind : node.kind = .switch stated) (valued : ValueCode setting node stated value) :
    ∃ front choices, node.members = front ++ choices ∧
      (∀ member ∈ front, member.kind.isCase = false) ∧ (∀ choice ∈ choices, choice.kind.isCase) ∧
      Corresponds (Becomes setting arena) (front.flatMap LevelTree.sited) value.sites ∧
      (stated = none → ∃ site, value = .call site) := by
  have holds := mirrors.members_holds arranged linked
  rw [kind] at holds
  generalize kinds : node.members.map LevelTree.kind = below at holds
  -- Either the value is stated and all members are cases, or a call stands in front of them.
  cases holds with
  | stated all once =>
    cases valued
    refine ⟨[], node.members, rfl, by simp, ?_, .nil, nofun⟩
    intro choice among
    exact all choice.kind (kinds ▸ List.mem_map_of_mem among)
  | called all once =>
    obtain ⟨call, choices, members, called, rfl⟩ := List.map_eq_cons_iff.mp kinds
    have among : call ∈ node.members := by
      rw [members]
      exact List.mem_cons_self
    cases valued with
    | @call first _ function arguments site members' kind' sited =>
      rw [members] at members'
      cases members'
      refine ⟨[call], choices, members, by simp [called, isCase], ?_, ?_, fun _ => ⟨site, rfl⟩⟩
      · intro choice among
        exact all choice.kind (List.mem_map_of_mem among)
      · rw [List.flatMap_singleton]
        exact call_sited linked arranged (mirrors.mirrored call among) kind' sited
    | blank callless =>
      rw [members] at callless
      exact absurd called (callless call rfl _ _)

/-- A control node has one site, and more in what it holds. -/
theorem control_sited (mirrors : node.Mirrors arena) (own : Accounted setting arena node)
    (inner : ∀ member ∈ node.members, Accounted setting arena member) {code : List Instruction}
    (made : ControlCode setting (arena.pathDepth node.id) node code) (control : node.kind.isControl) :
    Corresponds (Becomes setting arena) node.sited (gather Instruction.sites code) := by
  have holds := mirrors.members_holds arranged linked
  cases made with
  | @switch stated value cases_ default kind valued chosen =>
    obtain ⟨picked, defaulted⟩ := emitCases_yields chosen
    rw [kind] at holds
    obtain ⟨front, choices, members, apart, all, called, decided⟩ :=
      switch_front linked arranged mirrors kind valued
    -- what gives the switch its value is neither a case nor the default
    have caseless : front.filter (·.kind.isChoice) = [] := by
      refine List.filter_eq_nil_iff.mpr fun member among => ?_
      have other := apart member among
      cases same : member.kind <;> simp_all [isCase, isChoice]
    have defaultless : front.filter (·.kind = .default) = [] := by
      refine List.filter_eq_nil_iff.mpr fun member among => ?_
      have other := apart member among
      cases same : member.kind <;> simp_all [isCase]
    have otherwise := defaulted.forall₂ holds.defaults
    have each := picked.filter (·.kind.isChoice) (fun _ => isChoice_eq_false) fun member case made => by
      obtain ⟨kind, -⟩ := made
      rw [kind]
      rfl
    have itself : Becomes setting arena node (.switch value cases_ default) :=
      .switch kind valued decided picked otherwise
    rw [members, List.filter_append, caseless, List.nil_append] at each
    rw [members, List.filter_append, defaultless, List.nil_append] at otherwise
    have below : choices ⊆ node.members := by
      rw [members]
      exact List.subset_append_right front choices
    have behind := choices_sited linked mirrors below all
      (fun choice among => inner choice (below among)) each otherwise
    rw [LevelTree.sited_cons (by rw [kind]; rfl), members, List.flatMap_append, gather_single,
      Instruction.bodies, Instruction.sites]
    have whole := (Corresponds.single itself).append (called.append behind)
    simpa only [List.append_assoc, List.cons_append, List.nil_append] using whole
  | @test source subject regex template body kind compiled templated inside =>
    rw [kind] at holds
    rw [LevelTree.sited_cons (by rw [kind]; rfl), gather_single, Instruction.bodies,
      List.flatMap_singleton]
    exact (Corresponds.single (.test kind compiled templated inside)).append
      (own (by rw [kind]; rfl) body inside)
  | call kind sited =>
    rw [gather_single]
    exact call_sited linked arranged mirrors kind sited
  | set kind templated =>
    rw [gather_single, LevelTree.sited_cons (by rw [kind]; rfl),
      members_eq_nil linked arranged mirrors (by rw [kind]; exact fun _ => id)]
    exact .single (.set kind templated)
  | other kind =>
    cases same : node.kind <;> simp_all [isControl]

/-- A return states at least its code. -/
theorem return_sited {instruction : Instruction} (mirrors : node.Mirrors arena)
    (made : ReturnCode setting node instruction) :
    Corresponds (Becomes setting arena) node.sited (gather Instruction.sites [instruction]) := by
  have again := made
  cases made with
  | @mk attributes stated kind compiled =>
    rw [LevelTree.sited_cons (by rw [kind]; rfl),
      members_eq_nil linked arranged mirrors (by rw [kind]; exact fun _ => id), gather_single]
    refine .single (.return kind again ?_)
    split
    next coded =>
      rintro rfl
      rw [Attributes.contains, Attributes.get?, List.forall₂_nil_right_iff.mp compiled] at coded
      cases coded
    next => simp

variable (mirrors : node.Mirrors arena)

include mirrors

theorem controls_sited (bodies : ∀ member ∈ node.members, Accounted setting arena member ∧
      ∀ inner ∈ member.members, Accounted setting arena inner) {controls : List (List Instruction)}
    (controlled : List.Forall₂ (ControlCode setting (arena.pathDepth node.id)) node.members controls) :
    Corresponds (Becomes setting arena)
      ((node.members.filter (·.kind.isControl)).flatMap LevelTree.sited)
      (gather Instruction.sites controls.flatten) := by
  rw [gather_flatten]
  refine Corresponds.flatMap_filter controlled _ ?_ ?_
  · intro member among code made control
    have still := mirrors.pathDepth_still linked among
      (by cases same : member.kind <;> simp_all [isControl, pattern?])
    rw [← still] at made
    obtain ⟨own, inner⟩ := bodies member among
    exact control_sited linked arranged (mirrors.mirrored member among) own inner made control
  · intro member code made other
    cases made with
    | other => rfl
    | switch kind | test kind | call kind | set kind =>
      rw [kind] at other
      cases other

theorem returns_sited {returns : List Instruction}
    (picks : Picks (fun member => ∀ attributes, member.kind ≠ .return attributes)
      (ReturnCode setting) node.members returns) :
    Corresponds (Becomes setting arena)
      ((node.members.filter (·.kind.isReturn)).flatMap LevelTree.sited)
      (gather Instruction.sites returns) := by
  have each := picks.filter (·.kind.isReturn) (fun _ => isReturn_eq_false) fun member code made => by
    obtain ⟨kind, -⟩ := made
    rw [kind]
    rfl
  rw [gather_eq_flatMap]
  exact Corresponds.flatMap each fun member among code made =>
    return_sited linked arranged (mirrors.mirrored member (List.mem_of_mem_filter among)) made

/-- Everything below a node has its site in the body of the node. -/
theorem body_accounted (spelled : arena.Spelled)
    (bodies : ∀ member ∈ node.members, Accounted setting arena member ∧
      ∀ inner ∈ member.members, Accounted setting arena inner) : Accounted setting arena node := by
  intro bodied code yields
  have parts := (mirrors.members_holds arranged linked).parts bodied
  have places := sorted_perm (fun member among => parts _ (List.mem_map_of_mem among))
    (mirrors.members_solid linked)
    fun member among => (mirrors.mirrored member among).kind ▸ spelled member.id
  have own (member : LevelTree) (among : member ∈ node.members) := (bodies member among).1
  cases emitBody_yields yields with
  | @mk id content outer members issued controls literals groups arms returns _ controlled literal
      merged parameterized returned wrapped =>
    have level : Corresponds (Becomes setting arena) (members.flatMap LevelTree.sited)
        (gather Instruction.sites
          (controls.flatten ++ dispatch (arena.pathDepth id) literals groups arms ++ returns)) := by
      have whole := (controls_sited linked arranged mirrors bodies controlled).append
        ((literals_sited linked mirrors own literal).append
          ((arms_sited linked mirrors own merged parameterized).append
            (returns_sited linked arranged mirrors returned)))
      rw [gather_append, gather_append, gather_dispatch _ rfl rfl (by rintro rfl; rfl)
        (by rintro rfl; rfl)]
      -- the members are taken from their places back into their own order
      refine (whole.perm ?_).perm_outputs ?_
      · have sorted := places.flatMap_right LevelTree.sited
        simp only [List.flatMap_append] at sorted
        exact sorted
      · simp only [List.append_assoc]
        exact .refl _
    rcases wrapped with ⟨-, rfl⟩ | ⟨-, bound, -, rfl⟩
    · exact level
    · rw [gather_single, Instruction.bodies, List.flatMap_singleton]
      exact level

end

/-- The code of every body has a site for everything below its node, and so have the bodies on its
level. -/
theorem accounted {arena : Arena} {setting : Setting} (linked : arena.Linked)
    (arranged : arena.Arranged) (spelled : arena.Spelled) {tree : LevelTree}
    (mirrors : tree.Mirrors arena) : Accounted setting arena tree ∧
      ∀ member ∈ tree.members, Accounted setting arena member := by
  induction mirrors with
  | node level behind below ih =>
    refine ⟨body_accounted linked arranged (.node level behind below) spelled ih, ?_⟩
    intro member among
    exact (ih member among).1

end Signpost.Program

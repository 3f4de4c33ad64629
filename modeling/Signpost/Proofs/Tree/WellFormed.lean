import Signpost.Proofs.Tree.Conflicts
import Signpost.Proofs.Tree.Coverage
import Signpost.Proofs.Tree.Inlining

/-!
# Well-formed arenas

What can be relied on in an arena that has been built, over all of its nodes, those of blocks included:
how they are linked, what stands below what, and what they say. As every node comes after its parent,
there is one way up from a node, and all walks along links are as long as they have to be, although they
only take as many steps as there are nodes.
-/
namespace Signpost

/-! ### What nodes say -/

/-- A path is spelled out or has parameters, a group binds nothing, and nothing is bound twice. -/
structure NodeContent.Tidy (content : NodeContent) : Prop where
  literal : ∀ pattern id, content.kind = .path pattern id → pattern.isLiteral = true
  parameterized : ∀ pattern id, content.kind = .regexPath pattern id → pattern.isLiteral = false
  group : content.kind.isBlank = true → content.values = []
  names : (content.values.map (·.1)).Nodup

theorem NodeContent.Fresh.tidy {content : NodeContent} (fresh : content.Fresh) : content.Tidy := by
  cases fresh with
  | @segment own _ other =>
    by_cases plain : own.isLiteral = true
    · refine ⟨?_, ?_, fun _ => rfl, List.nodup_nil⟩
      · intro pattern id path
        simp only [RouteTree.segmentContent, if_pos plain] at path
        cases path
        exact plain
      · intro pattern id path
        simp only [RouteTree.segmentContent, if_pos plain] at path
        cases path
    · refine ⟨?_, ?_, fun _ => rfl, List.nodup_nil⟩
      · intro pattern id path
        simp only [RouteTree.segmentContent, if_neg plain] at path
        cases path
      · intro pattern id path
        simp only [RouteTree.segmentContent, if_neg plain] at path
        cases path
        exact Bool.eq_false_iff.mpr plain
  | test =>
    refine ⟨?_, ?_, fun _ => rfl, List.nodup_nil⟩
    · intro pattern id path
      cases path
    · intro pattern id path
      cases path
  | plain segmentless =>
    refine ⟨?_, ?_, fun _ => rfl, List.nodup_nil⟩
    · rintro pattern id rfl
      cases segmentless
    · rintro pattern id rfl
      cases segmentless

namespace Arena

variable {arena grown : Arena}

def Tidy (arena : Arena) : Prop := ∀ id : Nat, (arena.node id).toNodeContent.Tidy

/-- Values are bound at owners, and an owner is no group. -/
theorem Step.tidy (linked : arena.Linked) (rooted : arena.Rooted) (step : Step arena grown)
    (tidy : arena.Tidy) : grown.Tidy := by
  refine step.contents (fun _ fresh => fresh.tidy) ?_ ?_ tidy
  · intro place name value before
    have solid := scopeOwner_solid linked rooted place
    rw [Node.setValue_content]
    refine ⟨?_, ?_, ?_, NodeContent.nodup_bind before.names name value⟩
    · rw [NodeContent.bind_kind]
      exact before.literal
    · rw [NodeContent.bind_kind]
      exact before.parameterized
    · rw [NodeContent.bind_kind, solid]
      nofun
  · intro content value _ before
    exact ⟨nofun, nofun, nofun, before.names⟩

/-! ### Children in order -/

/-- Children stand in the order in which they have been made. -/
def Sorted (arena : Arena) : Prop := ∀ id : Nat, (arena.node id).children.Pairwise (· < ·)

theorem Step.sorted (linked : arena.Linked) (step : Step arena grown) (sorted : arena.Sorted) :
    grown.Sorted := by
  intro id
  cases step with
  | block name =>
    rw [node_alloc]
    split
    · exact .nil
    · exact sorted id
  | @insert _ parent _ _ inside _ inserted =>
    rw [node_insert inside inserted]
    split
    · exact .nil
    · split
      · refine List.pairwise_append.mpr ⟨sorted parent, List.pairwise_singleton _ _, ?_⟩
        intro child member last here
        rw [List.mem_singleton.mp here]
        exact (linked.child member).2
      · exact sorted id
  | bind place name value =>
    rw [setValue_children]
    exact sorted id
  | settle _ value =>
    rw [modify_kind_children]
    exact sorted id

/-- What steps keep about links and about what nodes say. -/
structure Kept (arena : Arena) : Prop where
  linked : arena.Linked
  rooted : arena.Rooted
  tidy : arena.Tidy
  sorted : arena.Sorted

theorem start_kept : start.Kept where
  linked := start_linked
  rooted := start_rooted
  tidy := by
    intro id
    rw [node_start]
    exact (NodeContent.Fresh.plain rfl (by simp)).tidy
  sorted := by
    intro id
    rw [node_start]
    exact .nil

theorem Step.kept (step : Step arena grown) (kept : arena.Kept) : grown.Kept where
  linked := step.linked kept.linked
  rooted := step.rooted kept.rooted
  tidy := step.tidy kept.linked kept.rooted kept.tidy
  sorted := step.sorted kept.linked kept.sorted

theorem Kept.once (kept : arena.Kept) (id : Nat) : (arena.node id).children.Nodup :=
  (kept.sorted id).imp Nat.ne_of_lt

/-! ### Ways up -/

/-- A way from a node to a node that nothing holds, over nodes each of which is held by the next. -/
inductive Way (arena : Arena) : Nat → List Nat → Prop
  | top {id : Nat} (alone : ∀ parent : Nat, id ∉ (arena.node parent).children) : Way arena id [id]
  | up {id parent : Nat} {way : List Nat} (held : id ∈ (arena.node parent).children)
    (above : Way arena parent way) : Way arena id (id :: way)

/-- The lineage of a node is the only way up from it. -/
theorem way_iff (linked : arena.Linked) {id : Nat} (inside : id < arena.size) {way : List Nat} :
    arena.Way id way ↔ way = arena.lineage id := by
  constructor
  · intro walk
    -- A way and a lineage take the same steps, and each leads to a smaller number.
    induction walk with
    | @top id alone =>
      cases up : (arena.node id).parent with
      | none => exact (lineage_root inside up).symm
      | some parent => exact absurd ((linked.down parent id).mpr up) (alone parent)
    | @up id parent way held above ih =>
      have order := linked.child held
      rw [lineage_child linked ((linked.down parent id).mp held), ih (by omega)]
  · rintro rfl
    induction id using Nat.strongRecOn with
    | ind id ih =>
      cases up : (arena.node id).parent with
      | none =>
        rw [lineage_root inside up]
        refine .top fun parent held => ?_
        rw [linked.down, up] at held
        cases held
      | some parent =>
        have order := linked.order parent id up
        rw [lineage_child linked up]
        exact .up ((linked.down parent id).mpr up) (ih parent order.1 (by omega))

/-- An owner is where the groups end on the way up. -/
theorem scopeOwner_splits (linked : arena.Linked) (rooted : arena.Rooted) {id : Nat}
    (inside : id < arena.size) :
    ∃ groups above : List Nat, arena.lineage id = groups ++ arena.scopeOwner id :: above ∧
      (∀ group ∈ groups, (arena.node group).kind.isBlank = true) ∧
      (arena.node (arena.scopeOwner id)).kind.isBlank = false := by
  obtain ⟨owner, found⟩ := exists_owner linked rooted inside
  have same : arena.scopeOwner id = owner := by
    rw [scopeOwner, found, Option.getD_some]
  obtain ⟨solid, groups, above, split, blanks⟩ := List.find?_eq_some_iff_append.mp found
  rw [same]
  exact ⟨groups, above, split, by simpa using blanks, by simpa using solid⟩

/-! ### Well-formedness -/

/-- A walk down from a node. -/
abbrev Reaches (arena : Arena) : Nat → Nat → Prop :=
  Relation.ReflTransGen fun parent child => child ∈ (arena.node parent).children

/-- What holds of all nodes of an arena. -/
structure WellFormed (arena : Arena) : Prop where
  down : ∀ parent child : Nat,
    child ∈ (arena.node parent).children ↔ (arena.node child).parent = some parent
  once : ∀ parent : Nat, (arena.node parent).children.Nodup
  later : ∀ parent child : Nat, child ∈ (arena.node parent).children →
    parent < child ∧ child < arena.size
  increasing : ∀ parent : Nat, (arena.node parent).children.Pairwise (· < ·)
  top : ∀ id : Nat, id < arena.size →
    ((arena.node id).parent = none ↔ id = root ∨ ∃ name, (arena.node id).kind = .block name)
  reached : ∀ id : Nat, arena.Reaches root id → ∀ name, (arena.node id).kind ≠ .block name
  literal : ∀ (id : Nat) (pattern : Pattern) (route : Option String),
    (arena.node id).kind = .path pattern route →
      pattern.isLiteral = true ∧ ∃ text, pattern.literal? = some text
  parameterized : ∀ (id : Nat) (pattern : Pattern) (route : Option String),
    (arena.node id).kind = .regexPath pattern route → pattern.isLiteral = false
  cases : ∀ id : Nat, (arena.node id).kind.isCase → ∃ switch stated,
    (arena.node id).parent = some switch ∧ (arena.node switch).kind = .switch stated
  defaults : ∀ (id : Nat) (stated : Option String), (arena.node id).kind = .switch stated →
    (arena.childKinds id).count .default ≤ 1
  arguments : ∀ id : Nat, (arena.node id).kind.isArgument → ∃ call,
    (arena.node id).parent = some call ∧ (arena.node call).kind.isCall
  called : ∀ id : Nat, (arena.node id).kind = .switch none → ∃ call others,
    (arena.node id).children = call :: others ∧ (arena.node call).kind.isCall
  groups : ∀ id : Nat, (arena.node id).kind.isBlank → (arena.node id).values = []
  names : ∀ id : Nat, ((arena.node id).values.map (·.1)).Nodup
  bound : ∀ id : Nat, ∀ entry ∈ (arena.node id).values, entry.1 ∈ (arena.node id).localVars

/-- Walks along links are not cut off, and there is one way up from each node. -/
structure Walks (arena : Arena) : Prop where
  way : ∀ id : Nat, id < arena.size → ∀ way, arena.Way id way ↔ way = arena.lineage id
  owner : ∀ id : Nat, id < arena.size →
    ∃ groups above : List Nat, arena.lineage id = groups ++ arena.scopeOwner id :: above ∧
      (∀ group ∈ groups, (arena.node group).kind.isBlank = true) ∧
      (arena.node (arena.scopeOwner id)).kind.isBlank = false
  level : ∀ id : Nat, arena.level id = (arena.node id).children.flatMap fun child =>
    if (arena.node child).kind.isBlank then arena.level child else [child]
  subtree : ∀ id : Nat, arena.subtree id
    = .node id (arena.node id).toNodeContent ((arena.node id).children.map arena.subtree)

/-- Every node holds what it may hold, and nothing but the root and blocks is held by none. -/
structure Arranged (arena : Arena) : Prop where
  holds : ∀ id : Nat, (arena.node id).kind.Holds (arena.childKinds id)
  root : (arena.node root).kind = .router
  detached : ∀ id : Nat, id < arena.size → (arena.node id).parent = none →
    id = Arena.root ∨ ∃ name, (arena.node id).kind = .block name

/-- Whatever is neither the root nor a block is held by something. -/
theorem Arranged.held (arranged : arena.Arranged) (linked : arena.Linked) (id : Nat)
    (inner : (arena.node id).kind ≠ .router) (placed : ∀ name, (arena.node id).kind ≠ .block name) :
    ∃ parent : Nat, id ∈ (arena.node parent).children := by
  cases up : (arena.node id).parent with
  | some parent => exact ⟨parent, (linked.down parent id).mpr up⟩
  | none =>
    rcases Nat.lt_or_ge id arena.size with made | outside
    · rcases arranged.detached id made up with rfl | ⟨name, block⟩
      · exact absurd arranged.root inner
      · exact absurd block (placed name)
    · rw [node_of_size_le outside] at inner
      contradiction

/-- Nothing holds the root or a block. -/
theorem Arranged.attached (arranged : arena.Arranged) {parent id : Nat}
    (held : id ∈ (arena.node parent).children) :
    id ≠ Arena.root ∧ ∀ name, (arena.node id).kind ≠ .block name := by
  have attached := (arranged.holds parent).attached (mem_childKinds held)
  refine ⟨?_, attached.2⟩
  rintro rfl
  exact attached.1 arranged.root

theorem Arranged.top (arranged : arena.Arranged) (linked : arena.Linked) {id : Nat}
    (made : id < arena.size) :
    (arena.node id).parent = none ↔
      id = Arena.root ∨ ∃ name, (arena.node id).kind = .block name := by
  refine ⟨arranged.detached id made, fun stands => ?_⟩
  cases up : (arena.node id).parent with
  | none => rfl
  | some parent =>
    have attached := arranged.attached ((linked.down parent id).mpr up)
    rcases stands with same | ⟨name, block⟩
    · exact absurd same attached.1
    · exact absurd block (attached.2 name)

/-- No walk from the root comes to a block. -/
theorem Arranged.reached (arranged : arena.Arranged) {id : Nat} (walk : arena.Reaches Arena.root id)
    (name : String) : (arena.node id).kind ≠ .block name := by
  cases walk with
  | refl =>
    rw [arranged.root]
    nofun
  | tail _ held => exact (arranged.attached held).2 name

theorem Arranged.case (arranged : arena.Arranged) (linked : arena.Linked) {id : Nat}
    (case : (arena.node id).kind.isCase) : ∃ switch stated,
      (arena.node id).parent = some switch ∧ (arena.node switch).kind = .switch stated := by
  obtain ⟨switch, held⟩ := arranged.held linked id
    (by intro router; simp [router, NodeKind.isCase] at case)
    (by intro name block; simp [block, NodeKind.isCase] at case)
  obtain ⟨stated, same⟩ := (arranged.holds switch).case (mem_childKinds held) case
  exact ⟨switch, stated, (linked.down switch id).mp held, same⟩

theorem Arranged.defaults (arranged : arena.Arranged) {id : Nat} {stated : Option String}
    (switch : (arena.node id).kind = .switch stated) :
    (arena.childKinds id).count .default ≤ 1 := by
  have holds := arranged.holds id
  rw [switch] at holds
  exact holds.defaults

theorem Arranged.argument (arranged : arena.Arranged) (linked : arena.Linked) {id : Nat}
    (argument : (arena.node id).kind.isArgument) : ∃ call,
      (arena.node id).parent = some call ∧ (arena.node call).kind.isCall := by
  obtain ⟨call, held⟩ := arranged.held linked id
    (by intro router; simp [router, NodeKind.isArgument] at argument)
    (by intro name block; simp [block, NodeKind.isArgument] at argument)
  have called := (arranged.holds call).argument (mem_childKinds held) argument
  exact ⟨call, (linked.down call id).mp held, called⟩

theorem Arranged.called (arranged : arena.Arranged) {id : Nat}
    (switch : (arena.node id).kind = .switch none) : ∃ call others,
      (arena.node id).children = call :: others ∧ (arena.node call).kind.isCall := by
  have holds := arranged.holds id
  rw [switch] at holds
  obtain ⟨first, others, below, isCall⟩ := holds.call_first
  obtain ⟨call, rest, children, rfl, -⟩ := List.map_eq_cons_iff.mp below
  exact ⟨call, rest, children, isCall⟩

end Arena

namespace RouteTree

open Arena

theorem build_kept {spec : SpecNode} {tree : RouteTree} (built : build spec = .ok tree) :
    tree.arena.Kept :=
  (build_steps built).keeps Step.kept start_kept

theorem build_arranged {spec : SpecNode} {tree : RouteTree} (built : build spec = .ok tree) :
    tree.arena.Arranged := by
  obtain ⟨-, body, -⟩ := build_ok_iff.mp built
  obtain ⟨yield, inside, grows⟩ := buildChildren_grows start_site Keeps.none _ body
  have orderly := elaborateAll_orderly (@Keeps.none start root).orderly _ inside
  -- The root is the only node that was there before the document, so all others have been made in
  -- order.
  have each (id : Nat) (other : id ≠ root) (made : id < tree.arena.size) :
      tree.arena.Orderly id :=
    grows.orderly (fun part member => (orderly part member).1) id
      (Nat.one_le_iff_ne_zero.mpr other) made
  have kind : (tree.arena.node root).kind = .router := by
    rw [grows.kind start_site.inside]
    rfl
  have shape := shape_root grows
  rw [shape_eq grows.linked] at shape
  obtain ⟨-, below⟩ := Shape.node.inj shape
  refine ⟨?_, kind, ?_⟩
  · intro id
    rcases Nat.lt_or_ge id tree.arena.size with made | outside
    · by_cases top : id = root
      · rw [top, kind]
        intro part member
        obtain ⟨child, held, rfl⟩ := List.mem_map.mp member
        have among : tree.arena.shape child ∈ yield.shapes := below ▸ List.mem_map_of_mem held
        rw [← shape_kind grows.linked]
        exact (orderly _ among).2
      · exact (each id top made).holds
    · rw [childKinds, node_of_size_le outside]
      intro part member
      cases member
  · intro id made alone
    by_cases top : id = root
    · exact .inl top
    · exact .inr ((each id top made).detached alone)

/-- The arena of every document that can be built is well-formed, and walks in it are complete. -/
theorem build_wellFormed {spec : SpecNode} {tree : RouteTree} (built : build spec = .ok tree) :
    tree.arena.WellFormed ∧ tree.arena.Walks := by
  have kept := build_kept built
  have arranged := build_arranged built
  have linked := kept.linked
  have literal (id : Nat) (pattern : Pattern) (route : Option String)
      (path : (tree.arena.node id).kind = .path pattern route) :
      pattern.isLiteral = true ∧ ∃ text, pattern.literal? = some text := by
    obtain ⟨text, spelt⟩ := build_spelled built id pattern route path
    rw [path] at spelt
    exact ⟨(kept.tidy id).literal pattern route path, text, spelt⟩
  refine ⟨{
    down := linked.down
    once := kept.once
    later := fun parent child => linked.child
    increasing := kept.sorted
    top := fun id made => arranged.top linked made
    reached := fun id walk => arranged.reached walk
    literal := literal
    parameterized := fun id => (kept.tidy id).parameterized
    cases := fun id case => arranged.case linked case
    defaults := fun id stated switch => arranged.defaults switch
    arguments := fun id argument => arranged.argument linked argument
    called := fun id switch => arranged.called switch
    groups := fun id => (kept.tidy id).group
    names := fun id => (kept.tidy id).names
    bound := fun id => (build_covered built id).values }, {
    way := fun id inside way => way_iff linked inside
    owner := fun id inside => scopeOwner_splits linked kept.rooted inside
    level := level_eq linked
    subtree := subtree_eq linked }⟩

/-- A block with a group in it, copied below a path and below the default of a switch over a call. -/
def marketSpec : SpecNode :=
  let stand := (SpecNode.block "stand").withChild (SpecNode.group.withChildren
    [SpecNode.arg "owner" "guild", (SpecNode.path "sign").withChild SpecNode.returning])
  let goods := SpecNode.switch.withChildren
    [(SpecNode.ofKind .value).withChild
        ((SpecNode.call "lower").withChild (SpecNode.arg "text" "\x7bgood\x7d")),
      (SpecNode.case "fish").withChild SpecNode.returning,
      SpecNode.defaultCase.withChild (SpecNode.reference "stand")]
  SpecNode.router.withChildren
    [stand, (SpecNode.path "market/\x7bgood\x7d").withChildren [SpecNode.reference "stand", goods]]

theorem build_wellFormed_market : ∃ tree, build marketSpec = .ok tree ∧ tree.arena.size = 19 ∧
    tree.arena.WellFormed ∧ tree.arena.Walks := by
  have succeeds : ((build marketSpec).toOption.filter fun tree =>
      tree.arena.size = 19).isSome = true := by decide +kernel
  obtain ⟨tree, found⟩ := Option.isSome_iff_exists.mp succeeds
  obtain ⟨built, size⟩ := Option.filter_eq_some_iff.mp found
  have built := ok_of_toOption built
  exact ⟨tree, built, of_decide_eq_true size, build_wellFormed built⟩

end RouteTree

end Signpost

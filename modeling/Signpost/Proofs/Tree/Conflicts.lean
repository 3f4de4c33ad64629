import Mathlib.Data.List.Nodup
import Signpost.Proofs.Pattern.Parts
import Signpost.Proofs.Tree.Growth

/-!
# Literals do not conflict

A level is made of the nodes whose parents have one owner, so the literals of a level differ if any
two nodes with one literal stand under places with different owners. Every step of building keeps it
that way, whether it adds a node to the tree, to a block or to a group that other nodes surround
already, because a node is only made where its literal is free for the owner of its place.
-/
namespace Signpost

/-- A path that is not parameterized has a text. -/
def NodeKind.Spelled (kind : NodeKind) : Prop :=
  ∀ pattern id, kind = .path pattern id → ∃ literal, kind.literal? = some literal

theorem NodeContent.Fresh.spelled {content : NodeContent} (fresh : content.Fresh) :
    content.kind.Spelled := by
  intro pattern id path
  cases fresh with
  | @segment own arises other =>
    by_cases plain : own.isLiteral = true
    · obtain ⟨literal, text⟩ := arises.literal plain
      exact ⟨literal, by simp [RouteTree.segmentContent, plain, NodeKind.literal?, text]⟩
    · simp [RouteTree.segmentContent, plain] at path
  | test => cases path
  | plain segmentless =>
    cases path
    cases segmentless

namespace Arena

variable {arena grown : Arena}

def Spelled (arena : Arena) : Prop := ∀ id : Nat, (arena.node id).kind.Spelled

theorem start_spelled : start.Spelled := by
  intro id
  rw [node_start]
  rintro pattern id ⟨⟩

theorem Step.spelled (step : Step arena grown) (spelled : arena.Spelled) : grown.Spelled := by
  refine @Step.contents _ _ (fun content => content.kind.Spelled) (fun _ fresh => fresh.spelled)
    ?_ ?_ step spelled
  · intro place name value before
    rw [(Node.setValue_links _ name value).2.2]
    exact before
  · rintro content value - - pattern id ⟨⟩

/-! ### Nodes of one literal -/

/-- A node with a literal stands under a place with an owner. -/
structure Spells (arena : Arena) (owner id : Nat) (literal : String) : Prop where
  text : (arena.node id).kind.literal? = some literal
  place : ∃ parent, (arena.node id).parent = some parent ∧ arena.scopeOwner parent = owner

/-- No owner has two nodes with one literal, and no node has the same child twice. -/
structure Apart (arena : Arena) : Prop where
  linked : arena.Linked
  rooted : arena.Rooted
  unique : ∀ (owner first second : Nat) (literal : String),
    arena.Spells owner first literal → arena.Spells owner second literal → first = second
  children : ∀ id : Nat, (arena.node id).children.Nodup

theorem start_apart : start.Apart := by
  refine ⟨start_linked, start_rooted, ?_, ?_⟩
  · rintro owner first second literal ⟨text, -⟩
    rw [node_start] at text
    cases text
  · intro id
    rw [node_start]
    exact List.nodup_nil

/-- A change that leaves links, literals and owners alone keeps literals apart. -/
theorem Apart.of_same (apart : arena.Apart) (linked : grown.Linked) (rooted : grown.Rooted)
    (parents : ∀ id : Nat, (grown.node id).parent = (arena.node id).parent)
    (children : ∀ id : Nat, (grown.node id).children = (arena.node id).children)
    (literals : ∀ id : Nat, (grown.node id).kind.literal? = (arena.node id).kind.literal?)
    (owners : ∀ id : Nat, id < arena.size → grown.scopeOwner id = arena.scopeOwner id) :
    grown.Apart := by
  have before {owner id : Nat} {literal : String} (spells : grown.Spells owner id literal) :
      arena.Spells owner id literal := by
    obtain ⟨text, parent, up, owned⟩ := spells
    rw [parents] at up
    have order := apart.linked.order parent id up
    exact ⟨literals id ▸ text, parent, up, owners parent (Nat.lt_trans order.1 order.2) ▸ owned⟩
  refine ⟨linked, rooted, ?_, ?_⟩
  · intro owner first second literal one other
    exact apart.unique owner first second literal (before one) (before other)
  · intro id
    rw [children]
    exact apart.children id

theorem alloc_apart {content : NodeContent} (apart : arena.Apart)
    (solid : content.kind.isBlank = false) (textless : content.kind.literal? = none) :
    (arena.alloc content).1.Apart := by
  have fresh : arena.node arena.size = { kind := .router } := node_of_size_le (Nat.le_refl _)
  refine apart.of_same (alloc_linked apart.linked content) (alloc_rooted apart.rooted solid)
    (alloc_parent content) ?_ ?_ fun id => scopeOwner_alloc apart.linked apart.rooted solid
  · intro id
    rw [node_alloc]
    split
    next new => rw [new, fresh]
    next => rfl
  · intro id
    rw [node_alloc]
    split
    next new =>
      rw [new, fresh]
      exact textless
    next => rfl

section Inserting

variable {parent made owner id : Nat} {content : NodeContent} {literal : String}

/-- A node that was there before has not got another literal or another owner. -/
theorem Spells.old (apart : arena.Apart) (inside : parent < arena.size)
    (inserted : arena.insert parent content = .ok (grown, made))
    (spells : grown.Spells owner id literal) (known : id < arena.size) :
    arena.Spells owner id literal := by
  obtain ⟨text, above, up, owned⟩ := spells
  have order := (insert_linked apart.linked inside inserted).order above id up
  rw [scopeOwner_insert apart.linked apart.rooted inside inserted (by omega)] at owned
  have same := Grows.insert_old inside inserted known
  rw [same.1] at up
  have kind : (grown.node id).kind = (arena.node id).kind := congrArg NodeContent.kind same.2.1
  rw [kind] at text
  exact ⟨text, above, up, owned⟩

/-- The node that is made has its literal for the owner of the place that it is made at. -/
theorem Spells.new (apart : arena.Apart) (inside : parent < arena.size)
    (inserted : arena.insert parent content = .ok (grown, made))
    (spells : grown.Spells owner arena.size literal) :
    content.kind.literal? = some literal ∧ owner = arena.scopeOwner parent := by
  have own : grown.node arena.size = { content with parent := some parent } := by
    rw [node_insert inside inserted, if_pos rfl]
  obtain ⟨text, above, up, owned⟩ := spells
  rw [own] at text up
  cases up
  rw [scopeOwner_insert apart.linked apart.rooted inside inserted inside] at owned
  exact ⟨text, owned.symm⟩

/-- The node that is made shares its literal with none that was there before. -/
theorem Spells.clash (apart : arena.Apart) (inside : parent < arena.size)
    (inserted : arena.insert parent content = .ok (grown, made))
    (fresh : grown.Spells owner arena.size literal) (spells : grown.Spells owner id literal) :
    arena.size ≤ id := by
  by_contra known
  obtain ⟨text, rfl⟩ := fresh.new apart inside inserted
  obtain ⟨taken, above, up, owned⟩ := spells.old apart inside inserted (Nat.lt_of_not_le known)
  have free := (insert_iff apart.linked apart.rooted inside).mp
    ⟨grown, made_insert inserted ▸ inserted⟩ literal text
  have there := (hasLiteral_iff apart.linked apart.rooted inside).mpr ⟨id, above, taken, up, owned⟩
  rw [free] at there
  cases there

/-- Two nodes with one literal were there before one was made, because it was free for the new one. -/
theorem insert_apart (apart : arena.Apart) (inside : parent < arena.size)
    (inserted : arena.insert parent content = .ok (grown, made)) : grown.Apart := by
  have linked := insert_linked apart.linked inside inserted
  have size := size_insert inserted
  have bound {owner id : Nat} {literal : String} (spells : grown.Spells owner id literal) :
      id = arena.size ∨ id < arena.size := by
    obtain ⟨-, above, up, -⟩ := spells
    have order := linked.order above id up
    omega
  refine ⟨linked, insert_rooted apart.rooted inside inserted, ?_, ?_⟩
  · intro owner first second literal one other
    -- of two nodes with one literal, the new one clashes with every other, and old ones differ
    rcases bound one with rfl | known
    · rcases bound other with rfl | known
      · rfl
      · exact absurd (one.clash apart inside inserted other) (Nat.not_le_of_lt known)
    · rcases bound other with rfl | known'
      · exact absurd (other.clash apart inside inserted one) (Nat.not_le_of_lt known)
      · exact apart.unique owner first second literal (one.old apart inside inserted known)
          (other.old apart inside inserted known')
  · intro id
    have unused : arena.size ∉ (arena.node parent).children := by
      intro member
      exact absurd (apart.linked.child member).2 (Nat.lt_irrefl _)
    rw [node_insert inside inserted]
    split
    · exact List.nodup_nil
    · split
      · exact List.nodup_append.mpr ⟨apart.children parent, List.pairwise_singleton _ _, by
          rintro child own _ here rfl
          exact unused (List.mem_singleton.mp here ▸ own)⟩
      · exact apart.children id

end Inserting

/-- Owners depend on parents and on which nodes are blank paths. -/
theorem scopeOwner_of_same (size : grown.size = arena.size)
    (parents : ∀ id, (grown.node id).parent = (arena.node id).parent)
    (blanks : ∀ id, (grown.node id).kind.isBlank = (arena.node id).kind.isBlank) (place : NodeId) :
    grown.scopeOwner place = arena.scopeOwner place := by
  simp only [scopeOwner, lineage, size, lineageFrom_congr parents, blanks]

theorem Step.apart (step : Step arena grown) (apart : arena.Apart) : grown.Apart := by
  have linked := step.linked apart.linked
  have rooted := step.rooted apart.rooted
  cases step with
  | block name => exact alloc_apart apart rfl rfl
  | insert inside _ inserted => exact insert_apart apart inside inserted
  | bind place name value =>
    exact apart.of_same linked rooted (fun _ => setValue_parent name value)
      (fun _ => setValue_children name value)
      (fun _ => congrArg NodeKind.literal? (setValue_kind name value))
      fun id _ => scopeOwner_setValue arena _ id name value
  | @settle switch unsettled value =>
    -- a switch is neither a literal nor a blank path, before it gets its value and after
    have same (id : Nat) :
        ((arena.modify switch fun node => { node with kind := .switch (some value) }).node
            id).kind.literal? = (arena.node id).kind.literal? ∧
          ((arena.modify switch fun node => { node with kind := .switch (some value) }).node
            id).kind.isBlank = (arena.node id).kind.isBlank := by
      rw [node_modify]
      split
      next here =>
        rw [here.1, unsettled]
        exact ⟨rfl, rfl⟩
      next => exact ⟨rfl, rfl⟩
    exact apart.of_same linked rooted (fun _ => modify_kind_parent _)
      (fun _ => modify_kind_children _) (fun id => (same id).1)
      fun id _ => scopeOwner_of_same (size_modify _) (fun _ => modify_kind_parent _)
        (fun id => (same id).2) id

/-! ### Levels -/

/-- A walk up to a node or one of its ancestors. -/
def Ascends (arena : Arena) (id parent : Nat) : Prop := (arena.node id).parent = some parent

theorem ascends_le (linked : arena.Linked) {id above : Nat}
    (walk : Relation.ReflTransGen arena.Ascends id above) : above ≤ id := by
  induction walk with
  | refl => exact Nat.le_refl _
  | @tail middle above _ step ih => exact Nat.le_trans (Nat.le_of_lt (linked.order above middle step).1) ih

theorem level_ascends (linked : arena.Linked) {id member : Nat} (among : member ∈ arena.level id) :
    Relation.ReflTransGen arena.Ascends member id := by
  obtain ⟨-, parent, up, walk⟩ := (mem_level_iff linked).mp among
  exact .head up (Relation.ReflTransGen.mono (fun _ _ (step : arena.Climbs _ _) => step.2) _ _ walk)

theorem ascends_functional (arena : Arena) : Relator.RightUnique arena.Ascends := by
  intro id above upper one another
  exact Option.some.inj (one.symm.trans another)

/-- There is one way up from a node, so it passes through at most one child of another node. -/
theorem child_unique (linked : arena.Linked) {id child other below : Nat}
    (up : arena.Ascends child id) (up' : arena.Ascends other id)
    (walk : Relation.ReflTransGen arena.Ascends below child)
    (walk' : Relation.ReflTransGen arena.Ascends below other) : child = other := by
  -- from one child to another the way would lead through their parent, which stands before both
  have same {child other : Nat} (up : arena.Ascends child id) (up' : arena.Ascends other id)
      (walk : Relation.ReflTransGen arena.Ascends child other) : child = other := by
    rcases walk.cases_head with same | ⟨next, step, further⟩
    · exact same
    · cases arena.ascends_functional up step
      have low := ascends_le linked further
      have high := (linked.order id other up').1
      exact absurd high (Nat.not_lt.mpr low)
  rcases Relation.ReflTransGen.total_of_right_unique arena.ascends_functional walk walk'
    with down | down
  · exact same up up' down
  · exact (same up' up down).symm

/-- A node stands on a level once. -/
theorem level_nodup (linked : arena.Linked) (children : ∀ id : Nat, (arena.node id).children.Nodup)
    (id : Nat) : (arena.level id).Nodup := by
  -- the induction goes down the tree, where the numbers of nodes grow up to the size of the arena
  induction depth : arena.size - id using Nat.strongRecOn generalizing id with
  | ind depth ih =>
    subst depth
    rw [level_eq linked, List.nodup_flatMap]
    constructor
    · intro child own
      have order := linked.child own
      split
      · exact ih _ (by omega) child rfl
      · exact List.pairwise_singleton _ _
    · refine (children id).imp_of_mem ?_
      intro child other own own' apart member among among'
      have reached {child : Nat} (among : member ∈
          if (arena.node child).kind.isBlank then arena.level child else [child]) :
          Relation.ReflTransGen arena.Ascends member child := by
        split at among
        · exact level_ascends linked among
        · rw [List.mem_singleton.mp among]
      exact apart (child_unique linked ((linked.down id child).mp own)
        ((linked.down id other).mp own') (reached among) (reached among'))

/-- The literals of a level, in the order of its nodes. -/
def levelLiterals (arena : Arena) (id : NodeId) : List String :=
  (arena.level id).filterMap fun member => (arena.node member).kind.literal?

theorem Apart.literals_nodup (apart : arena.Apart) (id : Nat) : (arena.levelLiterals id).Nodup := by
  have spells {member : Nat} {literal : String} (among : member ∈ arena.level id)
      (text : (arena.node member).kind.literal? = some literal) :
      arena.Spells (arena.scopeOwner id) member literal := by
    obtain ⟨-, parent, up, walk⟩ := (mem_level_iff apart.linked).mp among
    exact ⟨text, parent, up, scopeOwner_of_climbs apart.linked apart.rooted walk⟩
  refine List.pairwise_filterMap.mpr
    ((level_nodup apart.linked apart.children id).imp_of_mem ?_)
  rintro first second among among' different literal text _ text' rfl
  exact different (apart.unique _ first second literal (spells among text) (spells among' text'))

end Arena

namespace RouteTree

variable {spec : SpecNode} {tree : RouteTree}

theorem build_apart (built : build spec = .ok tree) : tree.arena.Apart :=
  (build_steps built).keeps Arena.Step.apart Arena.start_apart

theorem build_spelled (built : build spec = .ok tree) : tree.arena.Spelled :=
  (build_steps built).keeps Arena.Step.spelled Arena.start_spelled

end RouteTree

end Signpost

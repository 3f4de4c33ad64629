import Signpost.Proofs.Tree.RouteListing

/-!
# Copies

A copy of a subtree has the shape of the subtree and consists of new nodes only, numbered in the order
of a walk. Nothing else changes but the children of its parent. So what is built later at the place of a
copy, inside of the copy or above it does not reach what the copy was made of, nor a copy elsewhere.
Nodes are read as the copy grows, which comes to the same as copying a subtree that has been read off
before; only a place below the source itself would be copied without end.
-/
namespace Signpost.Arena

variable {arena grown : Arena} {parent : Nat}

/-- A subtree depends only on the nodes that are reached. -/
theorem subtree_congr {other : Arena} (linked : arena.Linked) (linked' : other.Linked) {id : Nat}
    (same : ∀ below : Nat, arena.Reaches id below →
      (other.node below).toNodeContent = (arena.node below).toNodeContent ∧
      (other.node below).children = (arena.node below).children) :
    other.subtree id = arena.subtree id := by
  induction id using linked.below_induction with
  | node id ih =>
    obtain ⟨content, children⟩ := same id .refl
    rw [subtree_eq linked', subtree_eq linked, content, children]
    refine congrArg (Subtree.node id _) (List.map_congr_left fun child own => ?_)
    exact ih child own fun below walk => same below (.head own walk)

/-- A walk from a node of an arena stays among its nodes. -/
theorem Reaches.lt_size (linked : arena.Linked) {id below : Nat} (inside : id < arena.size)
    (walk : arena.Reaches id below) : below < arena.size := by
  induction walk with
  | refl => exact inside
  | tail _ own => exact (linked.child own).2

/-! ### Numbers -/

/-- Trees that are added at a place leave alone what does not reach the place. -/
theorem Grows.subtree {shapes : List Shape} (grows : Grows arena grown parent { shapes })
    (linked : arena.Linked) {id : Nat} (old : id < arena.size) (apart : ¬ arena.Reaches id parent) :
    grown.subtree id = arena.subtree id := by
  refine subtree_congr linked grows.linked fun below walk => ?_
  have known := walk.lt_size linked old
  obtain ⟨fresh, -, -, children⟩ := grows.children
  refine ⟨?_, ?_⟩
  · rw [grows.content below known]
    exact ite_self _
  · rw [children below known, if_neg (by rintro rfl; exact apart walk)]

mutual

/-- The nodes of a copy are numbered in the order of a walk. -/
theorem copy_numbers {arena grown : Arena} {parent : Nat} (linked : arena.Linked)
    (rooted : arena.Rooted) (inside : parent < arena.size) :
    (tree : Subtree) → arena.copy parent tree = .ok grown →
      grown.size = arena.size + tree.preorder.length ∧
      (grown.node parent).children = (arena.node parent).children ++ [arena.size] ∧
      grown.preorder arena.size = List.range' arena.size tree.preorder.length
  | .node id content children, copied => by
    rw [copy, bind_ok_iff] at copied
    obtain ⟨⟨middle, made⟩, inserted, rest⟩ := copied
    have there := made_lt inserted
    have new := made_insert inserted
    have linked' := insert_linked linked inside inserted
    have rooted' := insert_rooted rooted inside inserted
    obtain ⟨size, roots, below, numbers⟩ := copyAll_numbers linked' rooted' there children rest
    have grows := copyAll_grows linked' rooted' there children rest
    obtain ⟨fresh, -, -, kept⟩ := grows.children
    rw [size_insert inserted] at size numbers
    -- The copy takes the next number, and what has been copied below it the numbers behind that
    -- one.
    have first : (middle.node made).children = [] := by
      rw [node_insert inside inserted, if_pos new]
    refine ⟨?_, ?_, ?_⟩
    · rw [size, Subtree.preorder, List.length_cons]
      omega
    · rw [kept parent (by omega), if_neg (by omega), node_insert inside inserted,
        if_neg (Nat.ne_of_lt inside), if_pos rfl]
    · subst new
      rw [preorder_eq grows.linked, below, first, List.nil_append, numbers, Subtree.preorder,
        List.length_cons, List.range'_succ]

theorem copyAll_numbers {arena grown : Arena} {parent : Nat} (linked : arena.Linked)
    (rooted : arena.Rooted) (inside : parent < arena.size) :
    (trees : List Subtree) → arena.copyAll parent trees = .ok grown →
      grown.size = arena.size + (Subtree.preorderAll trees).length ∧
      ∃ roots, (grown.node parent).children = (arena.node parent).children ++ roots ∧
        roots.flatMap grown.preorder
          = List.range' arena.size (Subtree.preorderAll trees).length
  | [], copied => by
    rw [copyAll] at copied
    cases copied
    exact ⟨rfl, [], (List.append_nil _).symm, rfl⟩
  | tree :: rest, copied => by
    rw [copyAll, bind_ok_iff] at copied
    obtain ⟨middle, first, later⟩ := copied
    have grows := copy_grows linked rooted inside tree first
    obtain ⟨size, here, numbers⟩ := copy_numbers linked rooted inside tree first
    have inside' := Nat.lt_of_lt_of_le inside grows.size
    obtain ⟨size', roots, others, numbers'⟩ :=
      copyAll_numbers grows.linked grows.rooted inside' rest later
    have grows' := copyAll_grows grows.linked grows.rooted inside' rest later
    -- the rest is copied beside the first copy, not below it
    have apart : ¬ middle.Reaches arena.size parent := by
      intro walk
      have above := ascends_le grows.linked (walk.ascends grows.linked)
      omega
    have made : arena.size < middle.size := by
      have order := grows.linked.child (here ▸ List.mem_append_right _ (List.mem_singleton_self _))
      exact order.2
    have kept : grown.preorder arena.size = middle.preorder arena.size :=
      congrArg Subtree.preorder (grows'.subtree grows.linked made apart)
    refine ⟨?_, arena.size :: roots, ?_, ?_⟩
    · rw [size', size, Subtree.preorderAll, List.length_append]
      omega
    · rw [others, here, List.append_assoc]
      rfl
    · rw [List.flatMap_cons, kept, numbers, numbers', size, Subtree.preorderAll, List.length_append]
      exact List.range'_append_1

end

/-! ### What a copy is -/

/-- An arena has grown by a copy of the nodes below a source. -/
structure CopyOf (arena grown : Arena) (source parent : Nat) : Prop where
  shape : grown.shape arena.size = arena.shape source
  once : (arena.preorder source).Nodup
  numbers : grown.preorder arena.size = List.range' arena.size (arena.preorder source).length
  size : grown.size = arena.size + (arena.preorder source).length
  placed : (grown.node arena.size).parent = some parent
  old : ∀ id : Nat, id < arena.size → grown.node id
    = if id = parent then
        { arena.node parent with children := (arena.node parent).children ++ [arena.size] }
      else arena.node id

theorem copy_copyOf (kept : arena.Kept) {source : Nat} (inside : parent < arena.size)
    (copied : arena.copy parent (arena.subtree source) = .ok grown) :
    arena.CopyOf grown source parent := by
  obtain ⟨size, here, numbers⟩ := copy_numbers kept.linked kept.rooted inside _ copied
  have grows := copy_grows kept.linked kept.rooted inside _ copied
  obtain ⟨fresh, -, shapes, children⟩ := grows.children
  -- what has been added to the parent is the one node with the next number
  have first : fresh = [arena.size] := by
    have both := children parent inside
    rw [here, if_pos rfl] at both
    exact (List.append_cancel_left both).symm
  subst first
  refine ⟨(List.cons.inj shapes).1, ?_, numbers, size, ?_, ?_⟩
  · exact preorder_nodup kept.linked (fun id => (kept.sorted id).imp Nat.ne_of_lt) source
  · apply (grows.linked.down parent arena.size).mp
    rw [here]
    exact List.mem_append_right _ (List.mem_singleton_self _)
  · intro id old
    have content := grows.content id old
    rw [show (arena.node id).toNodeContent.bindAll [] = (arena.node id).toNodeContent from rfl,
      ite_self] at content
    have same : grown.node id
        = { (grown.node id).toNodeContent with
            parent := (grown.node id).parent, children := (grown.node id).children } := rfl
    rw [same, content, grows.parents id old, children id old]
    split
    next up => rw [up]
    next => rfl

/-! ### What is built later -/

/-- A step of building at a place of a site. Nodes without a place, which blocks are, can always be made.
-/
inductive StepAt (site : Nat → Prop) : Arena → Arena → Prop
  | block (arena : Arena) (name : String) : StepAt site arena (arena.alloc { kind := .block name }).1
  | insert {arena grown : Arena} {place made : Nat} {content : NodeContent} (within : site place)
      (inside : place < arena.size) (inserted : arena.insert place content = .ok (grown, made)) :
    StepAt site arena grown
  | bind (arena : Arena) {place : Nat} (within : site place) (name value : String) :
    StepAt site arena (arena.setValue (arena.scopeOwner place) name value)
  | settle {arena : Arena} {switch : Nat} (within : site switch) (value : String) :
    StepAt site arena (arena.modify switch fun node => { node with kind := .switch (some value) })

abbrev StepsAt (site : Nat → Prop) : Arena → Arena → Prop := Relation.ReflTransGen (StepAt site)

/-- With a node a site has everything above it. -/
def Upward (arena : Arena) (site : Nat → Prop) : Prop :=
  ∀ id above : Nat, site id → (arena.node id).parent = some above → site above

theorem Upward.scopeOwner {site : Nat → Prop} (upward : arena.Upward site) {place : Nat}
    (within : site place) : site (arena.scopeOwner place) := by
  have lineage (fuel : Nat) : ∀ above ∈ arena.lineageFrom fuel place, site above := by
    induction fuel generalizing place with
    | zero => simp [lineageFrom]
    | succ fuel ih =>
      intro above member
      rw [lineageFrom] at member
      rcases List.mem_cons.mp member with rfl | further
      · exact within
      · split at further
        next next up => exact ih (upward place next within up) above further
        next => cases further
  rw [Arena.scopeOwner]
  cases found : (arena.lineage place).find? fun ancestor => !(arena.node ancestor).kind.isBlank with
  | none => exact within
  | some owner => exact lineage _ owner (List.mem_of_find?_eq_some found)

/-- What is built at a site stays at the site. -/
structure Confined (site : Nat → Prop) (arena later : Arena) : Prop where
  linked : later.Linked
  size : arena.size ≤ later.size
  upward : later.Upward site
  outside : ∀ id : Nat, ¬ site id → later.node id = arena.node id

/-- A change of what a node of the site says. -/
theorem Confined.modify {site : Nat → Prop} {middle : Arena} (confined : Confined site arena middle)
    {place : Nat} (within : site place) {change : Node → Node} (links : ∀ node : Node,
      (change node).parent = node.parent ∧ (change node).children = node.children) :
    Confined site arena (middle.modify place change) := by
  have parents (id : Nat) : ((middle.modify place change).node id).parent = (middle.node id).parent :=
    modify_keeps Node.parent fun node => (links node).1
  refine ⟨?_, by simpa using confined.size, ?_, ?_⟩
  · exact confined.linked.of_same (by simp) parents
      fun _ => modify_keeps Node.children fun node => (links node).2
  · intro id above here up
    exact confined.upward id above here (parents id ▸ up)
  · intro id apart
    rw [node_modify, if_neg (by rintro ⟨rfl, -⟩; exact apart within)]
    exact confined.outside id apart

theorem Confined.step {site : Nat → Prop} {middle later : Arena}
    (fresh : ∀ id : Nat, arena.size ≤ id → site id) (confined : Confined site arena middle)
    (step : StepAt site middle later) : Confined site arena later := by
  have size := confined.size
  cases step with
  | block name =>
    refine ⟨alloc_linked confined.linked _, by rw [size_alloc]; omega, ?_, ?_⟩
    · intro id above within up
      rw [node_alloc] at up
      split at up
      · cases up
      · exact confined.upward id above within up
    · intro id apart
      rw [node_alloc, if_neg fun new => apart (fresh id (by omega))]
      exact confined.outside id apart
  | insert within inside inserted =>
    refine ⟨insert_linked confined.linked inside inserted, by rw [size_insert inserted]; omega, ?_, ?_⟩
    · intro id above here up
      rw [node_insert inside inserted] at up
      split at up
      · cases up
        exact within
      · split at up
        next same => exact confined.upward id above here (same ▸ up)
        next => exact confined.upward id above here up
    · intro id apart
      rw [node_insert inside inserted, if_neg fun new => apart (fresh id (by omega)),
        if_neg (by rintro rfl; exact apart within)]
      exact confined.outside id apart
  | bind within name value =>
    exact confined.modify (confined.upward.scopeOwner within) fun node =>
      ⟨(node.setValue_links name value).1, (node.setValue_links name value).2.1⟩
  | settle within value => exact confined.modify within fun _ => ⟨rfl, rfl⟩

/-- What is built at a site in any number of steps stays at the site. -/
theorem StepsAt.confined {site : Nat → Prop} {later : Arena} (linked : arena.Linked)
    (upward : arena.Upward site) (fresh : ∀ id : Nat, arena.size ≤ id → site id)
    (steps : StepsAt site arena later) : Confined site arena later := by
  induction steps with
  | refl => exact ⟨linked, Nat.le_refl _, upward, fun _ _ => rfl⟩
  | tail _ step ih => exact ih.step fresh step

/-- What is built at a site does not reach a subtree beside it. -/
theorem Confined.subtree {site : Nat → Prop} {later : Arena} (linked : arena.Linked)
    (confined : Confined site arena later) {id : Nat}
    (apart : ∀ below : Nat, arena.Reaches id below → ¬ site below) :
    later.subtree id = arena.subtree id := by
  refine subtree_congr linked confined.linked fun below walk => ?_
  rw [confined.outside below (apart below walk)]
  exact ⟨rfl, rfl⟩

theorem scopeOwner_reaches (linked : arena.Linked) (place : Nat) :
    arena.Reaches (arena.scopeOwner place) place := by
  have upward : arena.Upward fun above => arena.Reaches above place :=
    fun id above walk up => .head ((linked.down above id).mpr up) walk
  exact upward.scopeOwner .refl

section

variable {yield : Yield} (linked : arena.Linked) (grows : Grows arena grown parent yield)

include linked grows

/-- A place with everything above it and everything new. -/
theorem Grows.site_upward : grown.Upward fun id => arena.size ≤ id ∨ arena.Reaches id parent := by
  intro id above within up
  by_cases new : arena.size ≤ above
  · exact .inl new
  have known : above < arena.size := Nat.lt_of_not_le new
  by_cases place : above = parent
  · exact .inr (place ▸ .refl)
  obtain ⟨fresh, -, -, children⟩ := grows.children
  have own : id ∈ (arena.node above).children := by
    have member := (grows.linked.down above id).mpr up
    rwa [children above known, if_neg place] at member
  rcases within with made | walk
  · exact absurd (linked.child own).2 (Nat.not_lt.mpr made)
  · exact .inr (.head own walk)

/-- What is built later at a place, at anything new or above the place does not reach what stands
elsewhere. -/
theorem Grows.spares {later : Arena}
    (steps : StepsAt (fun id => arena.size ≤ id ∨ arena.Reaches id parent) grown later) {other : Nat}
    (known : other < arena.size) (apart : ¬ arena.Reaches other parent) :
    later.subtree other = arena.subtree other := by
  have confined := steps.confined grows.linked (grows.site_upward linked)
    fun id new => .inl (Nat.le_trans grows.size new)
  refine subtree_congr linked confined.linked fun below walk => ?_
  -- what is reached from the other node is old and, like it, does not stand above the place
  have old := walk.lt_size linked known
  have elsewhere : ¬ arena.Reaches below parent := fun onward => apart (walk.trans onward)
  have outside : ¬ (arena.size ≤ below ∨ arena.Reaches below parent) := by
    rintro (new | onward)
    · exact absurd old (Nat.not_lt.mpr new)
    · exact elsewhere onward
  rw [confined.outside below outside]
  apply grows.apart old
  · rintro rfl
    exact elsewhere .refl
  · rintro rfl
    exact elsewhere (scopeOwner_reaches linked parent)

end

namespace CopyOf

variable {source : Nat} (copy : arena.CopyOf grown source parent)

include copy

/-- What is built later anywhere but inside of a copy does not reach the copy. -/
theorem spared (linked' : grown.Linked) {later : Arena}
    (steps : StepsAt (fun id => id ∉ grown.preorder arena.size) grown later) :
    later.subtree arena.size = grown.subtree arena.size := by
  have inside : arena.size < grown.size :=
    (linked'.order parent arena.size copy.placed).2
  refine (steps.confined linked' ?_ ?_).subtree linked' ?_
  · intro id above apart up within
    rw [mem_preorder_iff linked'] at apart within
    exact apart (within.tail ((linked'.down above id).mpr up))
  · intro id new within
    exact absurd (((mem_preorder_iff linked').mp within).lt_size linked' inside) (Nat.not_lt.mpr new)
  · intro below walk apart
    exact apart ((mem_preorder_iff linked').mpr walk)

end CopyOf

/-! ### Reading while the copy grows -/

/-- Nodes are copied under a parent one after another. Each is read when its turn comes, from an arena in
which what has been copied before it is there already. -/
inductive CopiesInTurn : Arena → Nat → List Nat → Arena → Prop
  | nil {arena : Arena} {parent : Nat} : CopiesInTurn arena parent [] arena
  | cons {arena middle after grown : Arena} {parent made source : Nat} {others : List Nat}
    (inserted : arena.insert parent (arena.node source).toNodeContent = .ok (middle, made))
    (below : CopiesInTurn middle made (arena.node source).children after)
    (rest : CopiesInTurn after parent others grown) :
    CopiesInTurn arena parent (source :: others) grown

theorem insert_grows {middle : Arena} {made : Nat} {content : NodeContent} (linked : arena.Linked)
    (rooted : arena.Rooted) (inside : parent < arena.size)
    (inserted : arena.insert parent content = .ok (middle, made)) :
    Grows arena middle parent { shapes := [.node content []] } := by
  refine copy_grows linked rooted inside (.node 0 content []) ?_
  rw [copy, inserted]
  rfl

/-- Whatever has grown at a place, what did not reach the place reaches the same nodes as before. -/
theorem Grows.reaches_iff {shapes : List Shape} (grows : Grows arena grown parent { shapes })
    (linked : arena.Linked) {id : Nat} (old : id < arena.size) (apart : ¬ arena.Reaches id parent)
    {below : Nat} : grown.Reaches id below ↔ arena.Reaches id below := by
  rw [← mem_preorder_iff grows.linked, ← mem_preorder_iff linked, preorder, preorder,
    grows.subtree linked old apart]

/-- Links stay. -/
theorem Grows.reaches {yield : Yield} (grows : Grows arena grown parent yield) (linked : arena.Linked)
    {id below : Nat} (walk : arena.Reaches id below) : grown.Reaches id below := by
  refine Relation.ReflTransGen.mono (fun above child own => ?_) _ _ walk
  obtain ⟨fresh, -, -, children⟩ := grows.children
  have known : above < arena.size :=
    Nat.lt_trans (linked.child own).1 (linked.child own).2
  rw [children above known]
  split
  · exact List.mem_append_left _ own
  · exact own

/-- What has been copied in turn below a new node is the subtree of its source, and no child of the source
holds the place. -/
theorem copy_of_below {middle after : Arena} {made source : Nat} (linked : arena.Linked)
    (rooted : arena.Rooted) (inside : parent < arena.size)
    (inserted : arena.insert parent (arena.node source).toNodeContent = .ok (middle, made))
    (below : middle.copyAll made ((arena.node source).children.map middle.subtree) = .ok after)
    (away : ∀ child ∈ (arena.node source).children, ¬ middle.Reaches child made) :
    arena.copy parent (arena.subtree source) = .ok after ∧
      ∀ child ∈ (arena.node source).children, ¬ arena.Reaches child parent := by
  have grows := insert_grows linked rooted inside inserted
  -- a child that held the place would hold the node that has just been made there
  have placed : made ∈ (middle.node parent).children := by
    rw [node_insert inside inserted, if_neg (Nat.ne_of_lt inside), if_pos rfl, made_insert inserted]
    exact List.mem_append_right _ (List.mem_singleton_self _)
  have apart : ∀ child ∈ (arena.node source).children, ¬ arena.Reaches child parent :=
    fun child own walk => away child own ((grows.reaches linked walk).tail placed)
  have same : (arena.node source).children.map arena.subtree
      = (arena.node source).children.map middle.subtree := by
    refine List.map_congr_left fun child own => ?_
    exact (grows.subtree linked (linked.child own).2 (apart child own)).symm
  refine ⟨?_, apart⟩
  rw [subtree_eq linked, copy, inserted, same]
  exact below

/-- Copying in turn copies subtrees, and none of them holds the place. -/
theorem CopiesInTurn.copyAll {sources : List Nat}
    (copied : CopiesInTurn arena parent sources grown) (linked : arena.Linked)
    (rooted : arena.Rooted) (inside : parent < arena.size)
    (old : ∀ source ∈ sources, source < arena.size ∧ source ≠ parent) :
    arena.copyAll parent (sources.map arena.subtree) = .ok grown ∧
      ∀ source ∈ sources, ¬ arena.Reaches source parent := by
  induction copied with
  | nil => exact ⟨rfl, by simp⟩
  | @cons arena middle after grown parent made source others inserted _ _ ihBelow ihRest =>
    obtain ⟨⟨-, other⟩, oldOthers⟩ := List.forall_mem_cons.mp old
    have grows := insert_grows linked rooted inside inserted
    have new := made_insert inserted
    obtain ⟨below, away⟩ := ihBelow grows.linked grows.rooted (made_lt inserted) fun child own => by
      have order := linked.child own
      have size := grows.size
      exact ⟨by omega, by omega⟩
    obtain ⟨first, apart⟩ := copy_of_below linked rooted inside inserted below away
    have grows' := copy_grows linked rooted inside _ first
    obtain ⟨rest, awayRest⟩ := ihRest grows'.linked grows'.rooted
      (Nat.lt_of_lt_of_le inside grows'.size) fun source member => by
        obtain ⟨known, other⟩ := oldOthers source member
        exact ⟨Nat.lt_of_lt_of_le known grows'.size, other⟩
    have apartRest : ∀ source ∈ others, ¬ arena.Reaches source parent :=
      fun source member walk => awayRest source member (grows'.reaches linked walk)
    refine ⟨?_, List.forall_mem_cons.mpr ⟨?_, apartRest⟩⟩
    · -- the others are read before the first copy is made, and they are still the same behind it
      have same : others.map arena.subtree = others.map after.subtree :=
        List.map_congr_left fun source member =>
          (grows'.subtree linked (oldOthers source member).1 (apartRest source member)).symm
      rw [List.map_cons, Arena.copyAll, first, same]
      exact rest
    · intro walk
      rcases Relation.ReflTransGen.cases_head walk with same | ⟨child, own, onward⟩
      · exact other same
      · exact apart child own onward

mutual

/-- The subtree of a source is copied in turn if none of its children holds the place. -/
theorem copy_inTurn {arena grown : Arena} {parent source : Nat} (linked : arena.Linked)
    (rooted : arena.Rooted) (inside : parent < arena.size)
    (apart : ∀ child ∈ (arena.node source).children, ¬ arena.Reaches child parent) :
    (tree : Subtree) → tree = arena.subtree source → arena.copy parent tree = .ok grown →
      CopiesInTurn arena parent [source] grown
  | .node id content children, read, copied => by
    rw [subtree_eq linked, Subtree.node.injEq] at read
    obtain ⟨rfl, rfl, read⟩ := read
    rw [copy, bind_ok_iff] at copied
    obtain ⟨⟨middle, made⟩, inserted, rest⟩ := copied
    have grows := insert_grows linked rooted inside inserted
    have new := made_insert inserted
    -- the children read the same after a node has been made at a place that they do not hold
    have again : children = (arena.node id).children.map middle.subtree := by
      rw [read]
      refine List.map_congr_left fun child own => ?_
      exact (grows.subtree linked (linked.child own).2 (apart child own)).symm
    refine .cons inserted (copyAll_inTurn grows.linked grows.rooted (made_lt inserted) ?_ children again
      rest) .nil
    intro child own
    have order := linked.child own
    refine ⟨Nat.lt_of_lt_of_le order.2 grows.size, fun walk => ?_⟩
    rw [grows.reaches_iff linked order.2 (apart child own)] at walk
    have bound := walk.lt_size linked order.2
    omega

theorem copyAll_inTurn {arena grown : Arena} {parent : Nat} {sources : List Nat}
    (linked : arena.Linked) (rooted : arena.Rooted) (inside : parent < arena.size)
    (apart : ∀ source ∈ sources, source < arena.size ∧ ¬ arena.Reaches source parent) :
    (trees : List Subtree) → trees = sources.map arena.subtree →
      arena.copyAll parent trees = .ok grown → CopiesInTurn arena parent sources grown
  | [], read, copied => by
    rw [List.map_eq_nil_iff.mp read.symm]
    rw [copyAll] at copied
    cases copied
    exact .nil
  | tree :: rest, read, copied => by
    obtain ⟨source, others, rfl, here, later⟩ := List.map_eq_cons_iff.mp read.symm
    obtain ⟨⟨known, away⟩, apartOthers⟩ := List.forall_mem_cons.mp apart
    rw [copyAll, bind_ok_iff] at copied
    obtain ⟨middle, first, next⟩ := copied
    have grows := copy_grows linked rooted inside tree first
    have inTurn := copy_inTurn linked rooted inside (fun child own walk => away (.head own walk)) tree
      here.symm first
    cases inTurn with
    | cons inserted below done =>
      cases done
      refine .cons inserted below (copyAll_inTurn grows.linked grows.rooted
        (Nat.lt_of_lt_of_le inside grows.size) ?_ rest ?_ next)
      · intro source member
        obtain ⟨known, away⟩ := apartOthers source member
        exact ⟨Nat.lt_of_lt_of_le known grows.size,
          fun walk => away ((grows.reaches_iff linked known away).mp walk)⟩
      · rw [← later]
        refine List.map_congr_left fun source member => ?_
        obtain ⟨known, away⟩ := apartOthers source member
        exact (grows.subtree linked known away).symm

end

/-- Copying in turn gets done exactly when no child of the source holds the place, and it comes to the
subtree of the source. -/
theorem copiesInTurn_iff {source : Nat} (linked : arena.Linked) (rooted : arena.Rooted)
    (inside : parent < arena.size) :
    CopiesInTurn arena parent [source] grown ↔
      arena.copy parent (arena.subtree source) = .ok grown ∧
        ∀ child ∈ (arena.node source).children, ¬ arena.Reaches child parent := by
  constructor
  · intro copied
    cases copied with
    | cons inserted below done =>
      cases done
      have grows := insert_grows linked rooted inside inserted
      have new := made_insert inserted
      obtain ⟨copied, away⟩ := below.copyAll grows.linked grows.rooted (made_lt inserted)
        fun child own => by
          have order := linked.child own
          have size := grows.size
          exact ⟨by omega, by omega⟩
      exact copy_of_below linked rooted inside inserted copied away
  · rintro ⟨copied, apart⟩
    exact copy_inTurn linked rooted inside apart _ rfl copied

/-- Blocks that are known at a place do not hold the place. -/
theorem Aside.apart {place block : Nat} {yield : Yield} (aside : arena.Aside place block yield) :
    ¬ arena.Reaches block place := by
  obtain ⟨kept, here, known, closed⟩ := aside.part
  intro walk
  have within : kept place := by
    clear known aside
    induction walk with
    | refl => exact here
    | tail _ own ih => exact closed _ ih _ own
  exact (known place within).2.1 rfl

/-- A copy is faithful and stands by itself. It has the shape of its source and is made of new nodes, as
many as the source has, numbered in the order of a walk; it is the last child of its parent, and no other
old node changes. Whatever is built later at its place, inside of it or above it leaves alone what stands
elsewhere, blocks in particular; whatever is built elsewhere leaves the copy alone. Reading the source
while the copy grows comes to the same. -/
theorem copy_isolated {arena : Arena} (steps : Steps .start arena) (source : Nat) {parent : Nat}
    (inside : parent < arena.size) :
    (∀ grown, CopiesInTurn arena parent [source] grown ↔
      arena.copy parent (arena.subtree source) = .ok grown ∧
        ∀ child ∈ (arena.node source).children, ¬ arena.Reaches child parent) ∧
    (∀ block yield, arena.Aside parent block yield → ¬ arena.Reaches block parent) ∧
    ∀ grown, arena.copy parent (arena.subtree source) = .ok grown →
      arena.CopyOf grown source parent ∧
      (∀ later, StepsAt (fun id => arena.size ≤ id ∨ arena.Reaches id parent) grown later →
        ∀ other < arena.size, ¬ arena.Reaches other parent →
          later.subtree other = arena.subtree other) ∧
      ∀ later, StepsAt (fun id => id ∉ grown.preorder arena.size) grown later →
        later.subtree arena.size = grown.subtree arena.size := by
  have kept := steps.keeps Step.kept start_kept
  refine ⟨fun grown => copiesInTurn_iff kept.linked kept.rooted inside,
    fun block yield aside => aside.apart, fun grown copied => ?_⟩
  have grows := copy_grows kept.linked kept.rooted inside _ copied
  have copy := copy_copyOf kept inside copied
  refine ⟨copy, fun later built other known apart => ?_, fun later built => ?_⟩
  · exact grows.spares kept.linked built known apart
  · exact copy.spared grows.linked built

/-- A block with a chain of two paths in a group, known to a path that has not referred to it yet. -/
def shelfDocument : List SpecNode :=
  [(SpecNode.block "shelf").withChild (SpecNode.group.withChild
      ((SpecNode.path "shelf/{number}").withChildren
        [SpecNode.set "kind" "shelf", SpecNode.returning])),
    SpecNode.path "archive"]

theorem copy_isolated_shelf : ∃ arena grown, Steps .start arena ∧ arena.size = 8 ∧
    arena.copy (7 : Nat) (arena.subtree (2 : Nat)) = .ok grown ∧ grown.size = 13 ∧
    arena.CopyOf grown 2 7 ∧ CopiesInTurn arena 7 [2] grown ∧
    ∀ later, StepsAt (fun id => arena.size ≤ id ∨ arena.Reaches id 7) grown later →
      later.subtree (1 : Nat) = arena.subtree (1 : Nat) := by
  have inside : (root : Nat) < Arena.start.size := by decide
  have succeeds : ((RouteTree.buildChildren [] .start root shelfDocument).toOption.filter fun arena =>
      arena.size = 8 ∧ 7 ∉ arena.preorder 1 ∧
      ((arena.copy (7 : Nat) (arena.subtree (2 : Nat))).toOption.any fun grown =>
        grown.size = 13) = true ∧
      ∀ child ∈ (arena.node (2 : Nat)).children, 7 ∉ arena.preorder child).isSome = true := by
    decide +kernel
  obtain ⟨arena, found⟩ := Option.isSome_iff_exists.mp succeeds
  obtain ⟨built, facts⟩ := Option.filter_eq_some_iff.mp found
  obtain ⟨size, beside, copies, apart⟩ := of_decide_eq_true facts
  have steps := RouteTree.buildChildren_steps shelfDocument (ok_of_toOption built) inside
  have linked := (steps.keeps Step.kept start_kept).linked
  obtain ⟨grown, copied, grownSize⟩ := (Option.any_eq_true ..).mp copies
  have copied := ok_of_toOption copied
  obtain ⟨inTurn, -, isolated⟩ :=
    copy_isolated steps 2 (show 7 < arena.size by omega)
  obtain ⟨copy, spares, -⟩ := isolated grown copied
  refine ⟨arena, grown, steps, size, copied, of_decide_eq_true grownSize, copy, ?_, ?_⟩
  · refine (inTurn grown).mpr ⟨copied, fun child own walk => ?_⟩
    exact apart child own ((mem_preorder_iff linked).mpr walk)
  · intro later built
    refine spares later built 1 (by omega) fun walk => ?_
    exact beside ((mem_preorder_iff linked).mpr walk)

end Signpost.Arena

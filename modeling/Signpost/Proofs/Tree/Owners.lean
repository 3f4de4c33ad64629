import Signpost.Proofs.Tree.Links

/-!
# Owners

The owner of a place is the nearest node above it that is no blank path. A blank path always has a
parent, so owners exist, and the dispatch level of an owner consists of the nodes whose parents it
owns. Whether a literal is taken at a place is thereby a matter of single links, which makes it easy
to follow through a change.
-/
namespace Signpost

/-- A node that stands under something if it is a blank path. -/
def Node.Anchored (node : Node) : Prop :=
  node.kind.isBlank = true → ∃ parent, node.parent = some parent

namespace Arena

/-- Every blank path stands under something. -/
def Rooted (arena : Arena) : Prop := ∀ id : Nat, (arena.node id).Anchored

theorem start_rooted : start.Rooted := by
  intro id blank
  rw [node_start] at blank
  cases blank

theorem insert_rooted {arena grown : Arena} {parent made : Nat} {content : NodeContent}
    (rooted : arena.Rooted) (inside : parent < arena.size)
    (inserted : arena.insert parent content = .ok (grown, made)) : grown.Rooted := by
  intro id
  rw [node_insert inside inserted]
  split
  · exact fun _ => ⟨parent, rfl⟩
  · split
    · exact rooted parent
    · exact rooted id

theorem setValue_rooted {arena : Arena} (rooted : arena.Rooted) (place : Nat)
    (name value : String) : (arena.setValue place name value).Rooted := by
  intro id
  rw [Node.Anchored, setValue_parent, setValue_kind]
  exact rooted id

theorem alloc_rooted {arena : Arena} {content : NodeContent} (rooted : arena.Rooted)
    (solid : content.kind.isBlank = false) : (arena.alloc content).1.Rooted := by
  intro id
  rw [node_alloc]
  split
  · exact fun blank => by simp [solid] at blank
  · exact rooted id

theorem Step.rooted {arena grown : Arena} (step : Step arena grown) (rooted : arena.Rooted) :
    grown.Rooted := by
  cases step with
  | block name => exact alloc_rooted rooted rfl
  | insert inside _ inserted => exact insert_rooted rooted inside inserted
  | bind place name value => exact setValue_rooted rooted _ name value
  | settle _ value =>
    intro id
    rw [node_modify]
    split
    · exact fun blank => by cases blank
    · exact rooted id

/-! ### Lineages -/

variable {arena other : Arena}

theorem lineageFrom_eq (linked : arena.Linked) (fuel more : Nat) (id : Nat)
    (enough : id < fuel) (enough' : id < more) :
    arena.lineageFrom fuel id = arena.lineageFrom more id := by
  induction fuel generalizing more id with
  | zero => omega
  | succ fuel ih =>
    cases more with
    | zero => omega
    | succ more =>
      rw [lineageFrom, lineageFrom]
      cases above : (arena.node id).parent with
      | none => rfl
      | some parent =>
        have order := linked.order parent id above
        simp only [ih more parent (by omega) (by omega)]

theorem lineage_root {id : Nat} (inside : id < arena.size)
    (top : (arena.node id).parent = none) : arena.lineage id = [id] := by
  rw [lineage]
  obtain ⟨fuel, size⟩ : ∃ fuel, arena.size = fuel + 1 := ⟨arena.size - 1, by omega⟩
  rw [size, lineageFrom, top]

theorem lineage_child (linked : arena.Linked) {id parent : Nat}
    (up : (arena.node id).parent = some parent) :
    arena.lineage id = id :: arena.lineage parent := by
  have order := linked.order parent id up
  rw [lineage]
  obtain ⟨fuel, size⟩ : ∃ fuel, arena.size = fuel + 1 := ⟨arena.size - 1, by omega⟩
  rw [size, lineageFrom, up, lineage]
  exact congrArg (id :: ·) (lineageFrom_eq linked _ _ parent (by omega) (by omega))

theorem scopeOwner_of_solid {id : Nat} (inside : id < arena.size)
    (solid : (arena.node id).kind.isBlank = false) : arena.scopeOwner id = id := by
  rw [scopeOwner, lineage]
  obtain ⟨fuel, size⟩ : ∃ fuel, arena.size = fuel + 1 := ⟨arena.size - 1, by omega⟩
  rw [size, lineageFrom, List.find?_cons, solid]
  rfl

/-- Some node of every lineage is no blank path. -/
theorem exists_owner (linked : arena.Linked) (rooted : arena.Rooted) {id : Nat}
    (inside : id < arena.size) :
    ∃ owner, (arena.lineage id).find?
      (fun ancestor => !(arena.node ancestor).kind.isBlank) = some owner := by
  induction id using Nat.strongRecOn with
  | ind id ih =>
    cases blank : (arena.node id).kind.isBlank with
    | false =>
      rw [lineage]
      obtain ⟨fuel, size⟩ : ∃ fuel, arena.size = fuel + 1 := ⟨arena.size - 1, by omega⟩
      rw [size, lineageFrom, List.find?_cons, blank]
      exact ⟨id, rfl⟩
    | true =>
      obtain ⟨parent, up⟩ := rooted id blank
      have order := linked.order parent id up
      obtain ⟨owner, found⟩ := ih parent order.1 (by omega)
      refine ⟨owner, ?_⟩
      rw [lineage_child linked up, List.find?_cons, blank]
      exact found

theorem scopeOwner_of_blank (linked : arena.Linked) (rooted : arena.Rooted) {id parent : Nat}
    (blank : (arena.node id).kind.isBlank = true) (up : (arena.node id).parent = some parent) :
    arena.scopeOwner id = arena.scopeOwner parent := by
  have order := linked.order parent id up
  obtain ⟨owner, found⟩ := exists_owner linked rooted (Nat.lt_trans order.1 order.2)
  rw [scopeOwner, scopeOwner, lineage_child linked up, List.find?_cons, blank]
  simp only [Bool.not_true, found, Option.getD_some]

/-- An owner is no blank path; past the end of an arena every place owns itself. -/
theorem scopeOwner_solid (linked : arena.Linked) (rooted : arena.Rooted) (id : Nat) :
    (arena.node (arena.scopeOwner id)).kind.isBlank = false := by
  rw [scopeOwner]
  cases found : (arena.lineage id).find? fun ancestor => !(arena.node ancestor).kind.isBlank with
  | some owner => simpa using List.find?_some found
  | none =>
    rcases Nat.lt_or_ge id arena.size with inside | outside
    · obtain ⟨owner, some⟩ := exists_owner linked rooted inside
      rw [found] at some
      cases some
    · rw [Option.getD_none, node_of_size_le outside]
      rfl

theorem scopeOwner_le (linked : arena.Linked) (rooted : arena.Rooted) {id : Nat}
    (inside : id < arena.size) : (arena.scopeOwner id : Nat) ≤ id := by
  induction id using Nat.strongRecOn with
  | ind id ih =>
    cases blank : (arena.node id).kind.isBlank with
    | false => exact Nat.le_of_eq (scopeOwner_of_solid inside blank)
    | true =>
      obtain ⟨parent, up⟩ := rooted id blank
      have order := linked.order parent id up
      rw [scopeOwner_of_blank linked rooted blank up]
      exact Nat.le_trans (ih parent order.1 (by omega)) (Nat.le_of_lt order.1)

/-- Places have the same owners in two arenas that agree on kinds and parents. -/
theorem scopeOwner_congr (linked : arena.Linked) (linked' : other.Linked) (rooted : arena.Rooted)
    (rooted' : other.Rooted) (size : arena.size ≤ other.size)
    (kinds : ∀ id : Nat, id < arena.size → (other.node id).kind = (arena.node id).kind)
    (parents : ∀ id : Nat, id < arena.size → (other.node id).parent = (arena.node id).parent)
    {id : Nat} (inside : id < arena.size) : other.scopeOwner id = arena.scopeOwner id := by
  induction id using Nat.strongRecOn with
  | ind id ih =>
    cases blank : (arena.node id).kind.isBlank with
    | false =>
      rw [scopeOwner_of_solid inside blank,
        scopeOwner_of_solid (by omega) (by rw [kinds id inside, blank])]
    | true =>
      obtain ⟨parent, up⟩ := rooted id blank
      have order := linked.order parent id up
      rw [scopeOwner_of_blank linked rooted blank up,
        scopeOwner_of_blank linked' rooted' (by rw [kinds id inside, blank])
          (by rw [parents id inside, up])]
      exact ih parent order.1 (by omega)

/-! ### Levels -/

theorem level_eq (linked : arena.Linked) (id : Nat) :
    arena.level id = (arena.node id).children.flatMap fun child =>
      if (arena.node child).kind.isBlank then arena.level child else [child] := by
  by_cases inside : id < arena.size
  · rw [level]
    obtain ⟨fuel, size⟩ : ∃ fuel, arena.size = fuel + 1 := ⟨arena.size - 1, by omega⟩
    rw [size, levelFrom]
    refine List.flatMap_congr ?_
    intro child member
    have order := linked.child member
    split
    · exact levelFrom_level linked (by omega)
    · rfl
  · rw [level, levelFrom_eq linked arena.size 0 id (by omega) (by omega), levelFrom,
      node_of_size_le (by omega)]
    rfl

/-- A walk up from a blank path. -/
def Climbs (arena : Arena) (id parent : Nat) : Prop :=
  (arena.node id).kind.isBlank = true ∧ (arena.node id).parent = some parent

theorem climbs_scopeOwner (linked : arena.Linked) (rooted : arena.Rooted) {id : Nat}
    (inside : id < arena.size) :
    Relation.ReflTransGen arena.Climbs id (arena.scopeOwner id : Nat) := by
  induction id using Nat.strongRecOn with
  | ind id ih =>
    cases blank : (arena.node id).kind.isBlank with
    | false =>
      rw [scopeOwner_of_solid inside blank]
    | true =>
      obtain ⟨parent, up⟩ := rooted id blank
      have order := linked.order parent id up
      rw [scopeOwner_of_blank linked rooted blank up]
      exact .head ⟨blank, up⟩ (ih parent order.1 (by omega))

theorem scopeOwner_of_climbs (linked : arena.Linked) (rooted : arena.Rooted) {id owner : Nat}
    (walk : Relation.ReflTransGen arena.Climbs id owner) :
    arena.scopeOwner id = arena.scopeOwner owner := by
  induction walk using Relation.ReflTransGen.head_induction_on with
  | refl => rfl
  | head step _ ih => rw [scopeOwner_of_blank linked rooted step.1 step.2, ih]

/-- The level of a node holds the nodes from whose parents blank paths lead up to it. -/
theorem mem_level_iff (linked : arena.Linked) {id member : Nat} :
    member ∈ arena.level id ↔ (arena.node member).kind.isBlank = false ∧
      ∃ parent, (arena.node member).parent = some parent ∧
        Relation.ReflTransGen arena.Climbs parent id := by
  constructor
  · rw [level]
    generalize arena.size = fuel
    intro met
    -- down the tree: every blank path on the way is one step of the walk up
    induction fuel generalizing id with
    | zero => cases met
    | succ fuel ih =>
      rw [levelFrom, List.mem_flatMap] at met
      obtain ⟨child, own, met⟩ := met
      have up := (linked.down id child).mp own
      split at met
      next blank =>
        obtain ⟨solid, parent, above, walk⟩ := ih met
        exact ⟨solid, parent, above, walk.tail ⟨blank, up⟩⟩
      next solid =>
        cases List.mem_singleton.mp met
        exact ⟨by simpa using solid, id, up, .refl⟩
  · rintro ⟨solid, parent, up, walk⟩
    induction walk with
    | refl =>
      rw [level_eq linked, List.mem_flatMap]
      exact ⟨member, (linked.down parent member).mpr up, by simp [solid]⟩
    | @tail middle above _ step ih =>
      rw [level_eq linked, List.mem_flatMap]
      refine ⟨middle, (linked.down above middle).mpr step.2, ?_⟩
      rw [if_pos step.1]
      exact ih

/-- A literal is taken at a place if a node with it stands under a place with the same owner. -/
theorem hasLiteral_iff (linked : arena.Linked) (rooted : arena.Rooted) {place : Nat}
    {literal : String} (inside : place < arena.size) :
    arena.hasLiteral place literal = true ↔
      ∃ member parent : Nat, (arena.node member).kind.literal? = some literal ∧
        (arena.node member).parent = some parent ∧
        arena.scopeOwner parent = arena.scopeOwner place := by
  have owned := scopeOwner_le linked rooted inside
  have solid := scopeOwner_solid linked rooted place
  have itself := scopeOwner_of_solid (Nat.lt_of_le_of_lt owned inside) solid
  rw [hasLiteral, List.any_eq_true]
  constructor
  · rintro ⟨member, met, text⟩
    obtain ⟨-, parent, up, walk⟩ := (mem_level_iff linked).mp met
    refine ⟨member, parent, by simpa using text, up, ?_⟩
    rw [scopeOwner_of_climbs linked rooted walk, itself]
  · rintro ⟨member, parent, text, up, same⟩
    have order := linked.order parent member up
    have kept : (arena.node member).kind.isBlank = false := by
      cases kind : (arena.node member).kind with
      | blankPath id =>
        rw [kind] at text
        cases text
      | _ => rfl
    refine ⟨member, (mem_level_iff linked).mpr ⟨kept, parent, up, ?_⟩, by simp [text]⟩
    rw [← same]
    exact climbs_scopeOwner linked rooted (Nat.lt_trans order.1 order.2)

theorem solid_of_literal {kind : NodeKind} {literal : String}
    (text : kind.literal? = some literal) : kind.isBlank = false := by
  cases kind with
  | blankPath id => cases text
  | _ => rfl

/-! ### Owners after a change -/

/-- Literals are taken at the same places in two arenas that agree on kinds and parents. -/
theorem hasLiteral_congr (linked : arena.Linked) (linked' : other.Linked) (rooted : arena.Rooted)
    (rooted' : other.Rooted) (size : arena.size ≤ other.size)
    (kinds : ∀ id : Nat, (other.node id).parent ≠ none →
      (other.node id).kind = (arena.node id).kind)
    (parents : ∀ id : Nat, (other.node id).parent = (arena.node id).parent)
    (owners : ∀ id : Nat, id < arena.size → other.scopeOwner id = arena.scopeOwner id)
    {place : Nat} {literal : String} (inside : place < arena.size) :
    other.hasLiteral place literal = arena.hasLiteral place literal := by
  rw [Bool.eq_iff_iff, hasLiteral_iff linked' rooted' (by omega), hasLiteral_iff linked rooted inside,
    owners place inside]
  refine exists_congr fun member => exists_congr fun parent => ?_
  rw [parents]
  constructor
  · rintro ⟨text, up, same⟩
    have order := linked.order parent member up
    rw [owners parent (by omega)] at same
    rw [kinds member (by rw [parents, up]; simp)] at text
    exact ⟨text, up, same⟩
  · rintro ⟨text, up, same⟩
    have order := linked.order parent member up
    rw [owners parent (by omega), kinds member (by rw [parents, up]; simp)]
    exact ⟨text, up, same⟩

section

variable {grown : Arena} {parent made : Nat} {content : NodeContent}

theorem alloc_parent (content : NodeContent) (id : Nat) :
    ((arena.alloc content).1.node id).parent = (arena.node id).parent := by
  rw [node_alloc]
  split
  next new => rw [new, node_of_size_le (Nat.le_refl _)]
  next => rfl

theorem scopeOwner_alloc (linked : arena.Linked) (rooted : arena.Rooted)
    (solid : content.kind.isBlank = false) {place : Nat} (inside : place < arena.size) :
    (arena.alloc content).1.scopeOwner place = arena.scopeOwner place := by
  refine scopeOwner_congr linked (alloc_linked linked content) rooted (alloc_rooted rooted solid)
    (by simp) ?_ (fun id _ => alloc_parent content id) inside
  intro id old
  rw [node_alloc, if_neg (by omega)]

theorem hasLiteral_alloc (linked : arena.Linked) (rooted : arena.Rooted)
    (solid : content.kind.isBlank = false) {place : Nat} {literal : String}
    (inside : place < arena.size) :
    (arena.alloc content).1.hasLiteral place literal = arena.hasLiteral place literal := by
  refine hasLiteral_congr linked (alloc_linked linked content) rooted (alloc_rooted rooted solid)
    (by simp) ?_ (alloc_parent content) (fun id => scopeOwner_alloc linked rooted solid) inside
  intro id up
  rw [node_alloc, if_neg]
  intro new
  rw [alloc_parent, new, node_of_size_le (Nat.le_refl _)] at up
  exact up rfl

/-- A node can be made exactly when its literal is not taken. -/
theorem insert_iff (linked : arena.Linked) (rooted : arena.Rooted) (inside : parent < arena.size) :
    (∃ grown, arena.insert parent content = .ok (grown, arena.size)) ↔
      ∀ literal, content.kind.literal? = some literal →
        arena.hasLiteral parent literal = false := by
  constructor
  · rintro ⟨grown, inserted⟩ literal text
    rw [← (insert_ok_iff.mp inserted).1 literal text]
    exact (hasLiteral_alloc linked rooted (solid_of_literal text) inside).symm
  · intro free
    refine ⟨_, insert_ok_iff.mpr ⟨fun literal text => ?_, rfl, rfl⟩⟩
    rw [hasLiteral_alloc linked rooted (solid_of_literal text) inside, free literal text]

variable (linked : arena.Linked) (rooted : arena.Rooted) (inside : parent < arena.size)
  (inserted : arena.insert parent content = .ok (grown, made))

include linked rooted inside inserted

theorem scopeOwner_insert {place : Nat} (old : place < arena.size) :
    grown.scopeOwner place = arena.scopeOwner place := by
  refine scopeOwner_congr linked (insert_linked linked inside inserted) rooted
    (insert_rooted rooted inside inserted) (by rw [size_insert inserted]; omega) ?_ ?_ old
  · intro id old
    rw [node_insert inside inserted, if_neg (by omega)]
    split
    next up => rw [up]
    next => rfl
  · intro id old
    rw [node_insert inside inserted, if_neg (by omega)]
    split
    next up => rw [up]
    next => rfl

theorem scopeOwner_made_blank (blank : content.kind.isBlank = true) :
    grown.scopeOwner made = arena.scopeOwner parent := by
  have own : grown.node made = { content with parent := some parent } := by
    rw [node_insert inside inserted, if_pos (made_insert inserted)]
  rw [scopeOwner_of_blank (insert_linked linked inside inserted)
    (insert_rooted rooted inside inserted) (by rw [own]; exact blank) (by rw [own]),
    scopeOwner_insert linked rooted inside inserted inside]

theorem hasLiteral_insert {place : Nat} {literal : String} (old : place < arena.size) :
    grown.hasLiteral place literal = true ↔ arena.hasLiteral place literal = true ∨
      (arena.scopeOwner place = arena.scopeOwner parent ∧
        content.kind.literal? = some literal) := by
  have size := size_insert inserted
  have owners {id : Nat} (old : id < arena.size) :=
    scopeOwner_insert linked rooted inside inserted old
  have kept {id : Nat} (old : id < arena.size) :
      (grown.node id).kind = (arena.node id).kind ∧
        (grown.node id).parent = (arena.node id).parent := by
    rw [node_insert inside inserted, if_neg (by omega)]
    split
    next up =>
      rw [up]
      exact ⟨rfl, rfl⟩
    next => exact ⟨rfl, rfl⟩
  have new : grown.node arena.size = { content with parent := some parent } := by
    rw [node_insert inside inserted, if_pos rfl]
  rw [hasLiteral_iff (insert_linked linked inside inserted) (insert_rooted rooted inside inserted)
    (by omega), hasLiteral_iff linked rooted old, owners old]
  constructor
  · rintro ⟨member, above, text, up, same⟩
    have order := (insert_linked linked inside inserted).order above member up
    -- a node with the literal is the new one, or an old one that has kept its place
    by_cases fresh : member = arena.size
    · subst fresh
      rw [new] at text up
      cases up
      exact .inr ⟨(owners inside ▸ same).symm, text⟩
    · have known : member < arena.size := by omega
      rw [(kept known).1] at text
      rw [(kept known).2] at up
      rw [owners (by omega)] at same
      exact .inl ⟨member, above, text, up, same⟩
  · rintro (⟨member, above, text, up, same⟩ | ⟨same, text⟩)
    · have order := linked.order above member up
      refine ⟨member, above, ?_, ?_, ?_⟩
      · rw [(kept order.2).1, text]
      · rw [(kept order.2).2, up]
      · rw [owners (by omega), same]
    · refine ⟨arena.size, parent, ?_, ?_, ?_⟩
      · rw [new]
        exact text
      · rw [new]
      · rw [owners inside, same]

theorem hasLiteral_made_blank {literal : String} (blank : content.kind.isBlank = true) :
    grown.hasLiteral made literal = arena.hasLiteral parent literal := by
  have new := made_insert inserted
  have same : grown.scopeOwner made = grown.scopeOwner parent := by
    rw [scopeOwner_made_blank linked rooted inside inserted blank,
      scopeOwner_insert linked rooted inside inserted inside]
  have textless : content.kind.literal? = none := by
    cases text : content.kind.literal? with
    | none => rfl
    | some literal =>
      rw [solid_of_literal text] at blank
      cases blank
  have levels : grown.hasLiteral made literal = grown.hasLiteral parent literal := by
    rw [hasLiteral, hasLiteral, same]
  rw [levels, Bool.eq_iff_iff, hasLiteral_insert linked rooted inside inserted inside, textless]
  simp

omit rooted in
theorem hasLiteral_made_solid {literal : String} (solid : content.kind.isBlank = false) :
    grown.hasLiteral made literal = false := by
  have new := made_insert inserted
  have size := size_insert inserted
  have own : grown.node made = { content with parent := some parent } := by
    rw [node_insert inside inserted, if_pos new]
  have alone : grown.level made = [] := by
    rw [level_eq (insert_linked linked inside inserted), own]
    rfl
  rw [hasLiteral, scopeOwner_of_solid (by omega) (by rw [own]; exact solid), alone]
  rfl

end

end Arena

end Signpost

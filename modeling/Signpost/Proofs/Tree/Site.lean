import Signpost.Proofs.Tree.Elaboration

/-!
# Sites

A site is a place where elements can be built. Making a node opens a site below it: what is built there
comes to a node around it at the place itself. Blocks lie aside of the sites where they are known, so
they stay what they are whatever is built.
-/
namespace Signpost

namespace Arena

/-- A place for elements, and whether it declares parameters. -/
structure Site (arena : Arena) (place : Nat) (declares : Bool) : Prop where
  linked : arena.Linked
  rooted : arena.Rooted
  inside : place < arena.size
  uncalled : (arena.node place).kind.isCall = false
  declares : (arena.node place).kind.pattern?.isSome = declares

/-- A block with what it yields, in a part of the arena that nothing at the place reaches. -/
structure Aside (arena : Arena) (place block : Nat) (yield : Yield) : Prop where
  part : ∃ kept : Nat → Prop, kept block ∧
    (∀ id, kept id → id < arena.size ∧ id ≠ place ∧ id ≠ arena.scopeOwner place) ∧
    ∀ id, kept id → ∀ child ∈ (arena.node id).children, kept child
  values : ∃ base : NodeContent, base.values = [] ∧
    (arena.node block).values = (base.bindAll yield.values).values
  shapes : (arena.node block).children.map arena.shape = yield.shapes
  orderly : yield.Orderly

/-- A site below a place: what is built there is wrapped into what is built at the place. -/
structure Opens (arena middle : Arena) (place made : Nat) (declares : Bool)
    (wrap : Yield → Yield) : Prop where
  site : middle.Site made declares
  grows : ∀ {grown : Arena} {body : Yield}, Grows middle grown made body →
    Grows arena grown place (wrap body)
  room : ∀ body : Yield, arena.Fits place (wrap body).shapes → middle.Fits made body.shapes
  aside : ∀ {block : Nat} {yield : Yield}, arena.Aside place block yield →
    middle.Aside made block yield

variable {arena middle grown : Arena} {place made block : Nat} {declares : Bool}
  {content : NodeContent} {yield body : Yield}

theorem Site.owned (site : arena.Site place declares) :
    (arena.scopeOwner place : Nat) < arena.size :=
  Nat.lt_of_le_of_lt (scopeOwner_le site.linked site.rooted site.inside) site.inside

theorem Site.grow (site : arena.Site place declares) (grows : Grows arena grown place yield) :
    grown.Site place declares where
  linked := grows.linked
  rooted := grows.rooted
  inside := Nat.lt_of_lt_of_le site.inside grows.size
  uncalled := by rw [grows.kind site.inside, site.uncalled]
  declares := by rw [grows.kind site.inside, site.declares]

/-! ### Room -/

theorem Fits.mono {shapes others : List Shape} (fits : arena.Fits place (shapes ++ others)) :
    arena.Fits place shapes := by
  refine ⟨?_, ?_, fun shape member => fits.distinct shape (List.mem_append_left _ member)⟩
  · have apart := fits.apart
    rw [Shape.literalsAll_append] at apart
    exact (List.nodup_append.mp apart).1
  · intro literal member
    refine fits.free literal ?_
    rw [Shape.literalsAll_append]
    exact List.mem_append_left _ member

theorem Fits.textless {content : NodeContent} (text : content.kind.literal? = none) :
    arena.Fits place [.node content []] := by
  have none : Shape.literalsAll [.node content []] = [] := by
    simp [Shape.literalsAll, Shape.literals, text]
  refine ⟨by simp [none], by simp [none], ?_⟩
  intro shape member
  cases List.mem_singleton.mp member
  exact .node (by simp) (by simp [Shape.literalsAll])

/-- What grows first leaves room for the rest. -/
theorem Fits.behind (inside : place < arena.size) (grows : Grows arena grown place yield)
    {shapes : List Shape} (fits : arena.Fits place (yield.shapes ++ shapes)) :
    grown.Fits place shapes := by
  have apart := fits.apart
  rw [Shape.literalsAll_append] at apart
  obtain ⟨-, own, disjoint⟩ := List.nodup_append.mp apart
  refine ⟨own, ?_, fun shape member => fits.distinct shape (List.mem_append_right _ member)⟩
  intro literal member
  rw [← Bool.not_eq_true, grows.taken place literal inside]
  rintro (taken | ⟨-, both⟩)
  · have free := fits.free literal (by
      rw [Shape.literalsAll_append]
      exact List.mem_append_right _ member)
    rw [free] at taken
    cases taken
  · exact disjoint literal both literal member rfl

/-! ### Making a node -/

theorem Aside.transfer {other : Arena} {next : Nat} (linked : arena.Linked)
    (linked' : other.Linked) (size : arena.size ≤ other.size)
    (same : ∀ id : Nat, id < arena.size → id ≠ place → id ≠ arena.scopeOwner place →
      (other.node id).toNodeContent = (arena.node id).toNodeContent ∧
        (other.node id).children = (arena.node id).children)
    (apart : ∀ id : Nat, id < arena.size → id ≠ place → id ≠ arena.scopeOwner place →
      id ≠ next ∧ id ≠ other.scopeOwner next)
    (aside : arena.Aside place block yield) : other.Aside next block yield := by
  obtain ⟨kept, own, known, closed⟩ := aside.part
  have alike (id : Nat) (within : kept id) :
      (other.node id).toNodeContent = (arena.node id).toNodeContent ∧
        (other.node id).children = (arena.node id).children :=
    same id (known id within).1 (known id within).2.1 (known id within).2.2
  refine ⟨⟨kept, own, ?_, ?_⟩, ?_, ?_, aside.orderly⟩
  · intro id within
    obtain ⟨old, here, owned⟩ := known id within
    exact ⟨Nat.lt_of_lt_of_le old size, apart id old here owned⟩
  · intro id within child member
    rw [(alike id within).2] at member
    exact closed id within child member
  · obtain ⟨base, empty, values⟩ := aside.values
    exact ⟨base, empty, by rw [(alike block own).1, values]⟩
  · rw [(alike block own).2, ← aside.shapes]
    refine List.map_congr_left fun child member => ?_
    exact shape_congr linked linked' closed alike (closed block own child member)

theorem Aside.grow (site : arena.Site place declares) (grows : Grows arena grown place body)
    (aside : arena.Aside place block yield) : grown.Aside place block yield := by
  have owner := grows.scopeOwner site.linked site.rooted site.inside
  refine aside.transfer site.linked grows.linked grows.size (fun id => grows.apart) ?_
  intro id _ here owned
  exact ⟨here, owner ▸ owned⟩

section

variable (site : arena.Site place declares)
  (inserted : arena.insert place content = .ok (middle, made))

include site inserted

/-- What a node was to hold has room inside of it once it has been made: a blank path passes the room
around it on, and any other node opens a level of its own. -/
theorem Fits.below (fits : arena.Fits place (RouteTree.nodeYield content body).shapes) :
    middle.Fits made body.shapes := by
  have ⟨linked, rooted, inside, _, _⟩ := site
  rw [RouteTree.nodeYield] at fits
  split at fits
  next blank =>
    have text : Shape.literalsAll [.node content body.shapes] = Shape.literalsAll body.shapes := by
      simp [Shape.literalsAll, Shape.literals, blank]
    refine ⟨text ▸ fits.apart, ?_, ?_⟩
    · intro literal member
      rw [hasLiteral_made_blank linked rooted inside inserted blank]
      exact fits.free literal (text ▸ member)
    · cases fits.distinct _ List.mem_cons_self with
      | node below => exact below
  next solid =>
    have solid : content.kind.isBlank = false := by simpa using solid
    cases fits.distinct _ List.mem_cons_self with
    | node below apart =>
      refine ⟨apart (by simpa using solid), ?_, below⟩
      exact fun literal _ => hasLiteral_made_solid linked inside inserted solid

/-- What lies aside of a place lies aside of a node that has been made there. -/
theorem Aside.below (aside : arena.Aside place block yield) : middle.Aside made block yield := by
  have ⟨linked, rooted, inside, _, _⟩ := site
  have new := made_insert inserted
  have size := size_insert inserted
  refine aside.transfer linked (insert_linked linked inside inserted) (by omega) ?_ ?_
  · intro id old here _
    obtain ⟨-, same, children⟩ := Grows.insert_old inside inserted old
    exact ⟨same, by rw [children, if_neg here]⟩
  · intro id old _ owned
    refine ⟨by omega, ?_⟩
    cases blank : content.kind.isBlank with
    | true =>
      rw [scopeOwner_made_blank linked rooted inside inserted blank]
      exact owned
    | false =>
      rw [scopeOwner_of_solid (by omega) (by rw [Grows.insert_new inside inserted]; exact blank)]
      exact (by omega : id ≠ made)

/-- A new node opens a site. -/
theorem insert_opens (uncalled : content.kind.isCall = false) :
    Opens arena middle place made content.kind.pattern?.isSome (RouteTree.nodeYield content) := by
  have ⟨linked, rooted, inside, _, _⟩ := site
  have own := Grows.insert_new inside inserted
  refine ⟨⟨insert_linked linked inside inserted, insert_rooted rooted inside inserted,
    made_lt inserted, by rw [own]; exact uncalled, by rw [own]⟩, ?_,
    fun body fits => fits.below site inserted, fun aside => aside.below site inserted⟩
  intro grown body below
  rw [RouteTree.nodeYield]
  split
  next blank => exact Grows.nest_blank linked rooted inside inserted blank below
  next solid =>
    exact Grows.nest_solid linked rooted inside inserted (by simpa using solid) below

end

/-- A node can be made where there is room for it. -/
theorem Fits.insert (site : arena.Site place declares)
    (fits : arena.Fits place (RouteTree.nodeYield content body).shapes) :
    ∃ middle made, arena.insert place content = .ok (middle, made) := by
  suffices free : ∀ literal, content.kind.literal? = some literal →
      arena.hasLiteral place literal = false by
    obtain ⟨middle, inserted⟩ := (insert_iff site.linked site.rooted site.inside).mpr free
    exact ⟨middle, arena.size, inserted⟩
  intro literal text
  have solid := solid_of_literal text
  refine fits.free literal ?_
  simp [RouteTree.nodeYield, Shape.literalsAll, Shape.literals, solid, text]

theorem Opens.trans {deeper : Arena} {last : Nat} {declares' : Bool} {wrap within : Yield → Yield}
    (outer : Opens arena middle place made declares wrap)
    (inner : Opens middle deeper made last declares' within) :
    Opens arena deeper place last declares' fun body => wrap (within body) where
  site := inner.site
  grows := fun below => outer.grows (inner.grows below)
  room := fun body fits => inner.room body (outer.room (within body) fits)
  aside := fun aside => inner.aside (outer.aside aside)

/-- What has been built at a site already comes before what is still to be built there. -/
theorem Opens.grow {wrap : Yield → Yield} (opens : Opens arena middle place made declares wrap)
    (grows : Grows middle grown made yield) :
    Opens arena grown place made declares fun body => wrap (yield.append body) where
  site := opens.site.grow grows
  grows := fun below => opens.grows
    (grows.trans opens.site.linked opens.site.rooted opens.site.inside below)
  room := fun body fits => (opens.room (yield.append body) fits).behind opens.site.inside grows
  aside := fun aside => (opens.aside aside).grow opens.site grows

/-! ### Blocks -/

/-- A block is a site that stands nowhere. -/
theorem Site.detached (site : arena.Site place declares) (name : String) :
    (arena.alloc { kind := .block name }).1.Site arena.size false := by
  have own : (arena.alloc { kind := .block name }).1.node arena.size = { kind := .block name } := by
    rw [node_alloc, if_pos rfl]
  exact ⟨alloc_linked site.linked _, alloc_rooted site.rooted rfl, by simp, by rw [own]; rfl,
    by rw [own]; rfl⟩

theorem Aside.detached (site : arena.Site place declares) (name : String)
    (aside : arena.Aside place block yield) :
    (arena.alloc { kind := .block name }).1.Aside arena.size block yield := by
  have site' := site.detached name
  have own : (arena.alloc { kind := .block name }).1.scopeOwner arena.size = arena.size :=
    scopeOwner_of_solid (by simp) (by rw [node_alloc, if_pos rfl]; rfl)
  refine aside.transfer site.linked site'.linked (by simp) ?_ ?_
  · intro id old _ _
    rw [node_alloc, if_neg (by omega)]
    exact ⟨rfl, rfl⟩
  · intro id old _ _
    rw [own]
    exact ⟨by omega, (by omega : id ≠ arena.size)⟩

section

variable {name : String} (site : arena.Site place declares)
  (within : Grows (arena.alloc { kind := .block name }).1 grown arena.size body)
  (orderly : body.Orderly)

include site within orderly

/-- What is built in a block is nothing at the place. -/
theorem Grows.elsewhere : Grows arena grown place {} := by
  have own : (arena.alloc { kind := .block name }).1.scopeOwner arena.size = arena.size :=
    scopeOwner_of_solid (by simp) (by rw [node_alloc, if_pos rfl]; rfl)
  have kept {id : Nat} (old : id < arena.size) :
      (arena.alloc { kind := .block name }).1.node id = arena.node id := by
    rw [node_alloc, if_neg (by omega)]
  have block : (arena.alloc { kind := .block name }).1.node arena.size
      = { kind := .block name } := by
    rw [node_alloc, if_pos rfl]
  obtain ⟨fresh, -, shapes, children⟩ := within.children
  refine ⟨within.linked, within.rooted, ?_, ?_, ?_, ⟨[], by simp, rfl, ?_⟩, ?_,
    ⟨by simp [Shape.literalsAll], by simp [Shape.literalsAll], by simp⟩, ?_⟩
  · have size := within.size
    rw [size_alloc] at size
    omega
  · intro id old
    rw [within.parents id (by simp; omega), kept old]
  · intro id old
    rw [within.content id (by simp; omega), own, if_neg (by omega), kept old]
    exact (ite_self _).symm
  · intro id old
    rw [children id (by simp; omega), if_neg (by omega), kept old]
    simp
  · intro other literal old
    have low := scopeOwner_le site.linked site.rooted old
    rw [within.taken other literal (by simp; omega), own,
      hasLiteral_alloc site.linked site.rooted rfl old,
      scopeOwner_alloc site.linked site.rooted rfl old]
    have apart : arena.scopeOwner other ≠ arena.size := fun same => by
      rw [same] at low
      exact absurd old (Nat.not_lt.mpr low)
    simp [apart, Shape.literalsAll]
  -- the block itself is the only new node that is not among what has been built in it
  · intro _ id new old
    by_cases first : id = arena.size
    · subst first
      have kinds : grown.childKinds arena.size = body.shapes.map Shape.kind := by
        rw [childKinds, children arena.size (by simp), if_pos rfl, block, ← shapes, List.map_map]
        exact List.map_congr_left fun child _ => (shape_kind within.linked child).symm
      have kind : (grown.node arena.size).kind = .block name := by
        rw [within.kind (by simp), block]
      refine ⟨?_, fun _ => ⟨name, kind⟩⟩
      rw [kinds, kind]
      intro part member
      obtain ⟨shape, among, rfl⟩ := List.mem_map.mp member
      exact (orderly shape among).2
    · exact within.orderly (fun shape member => (orderly shape member).1) id (by simp; omega) old

/-- A block lies aside once it has been built. -/
theorem Grows.aside : grown.Aside place arena.size body := by
  have own : (arena.alloc { kind := .block name }).1.scopeOwner arena.size = arena.size :=
    scopeOwner_of_solid (by simp) (by rw [node_alloc, if_pos rfl]; rfl)
  have block : (arena.alloc { kind := .block name }).1.node arena.size
      = { kind := .block name } := by
    rw [node_alloc, if_pos rfl]
  have size := within.size
  rw [size_alloc] at size
  have owner : grown.scopeOwner place = arena.scopeOwner place :=
    (Grows.elsewhere site within orderly).scopeOwner site.linked site.rooted site.inside
  have owned := site.owned
  have there := site.inside
  obtain ⟨fresh, -, shapes, children⟩ := within.children
  refine ⟨⟨fun id => arena.size ≤ id ∧ id < grown.size, ⟨Nat.le_refl _, by omega⟩, ?_, ?_⟩,
    ⟨{ kind := .block name }, rfl, ?_⟩, ?_, orderly⟩
  · rintro id ⟨low, high⟩
    refine ⟨high, by omega, ?_⟩
    rw [owner]
    rintro rfl
    exact absurd owned (Nat.not_lt.mpr low)
  · rintro id ⟨low, -⟩ child member
    have order := within.linked.child member
    exact ⟨by omega, order.2⟩
  · rw [within.content arena.size (by simp), own, if_pos rfl, block]
  · rw [children arena.size (by simp), if_pos rfl, block, ← shapes]
    rfl

end

end Arena

end Signpost

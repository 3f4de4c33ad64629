import Signpost.Proofs.Tree.Owners
import Signpost.Proofs.Tree.Placement

/-!
# Growth

What building at a place comes to, whatever it takes: values are bound at the owner of the place,
trees of some shape are added to its children, and nothing else changes among the nodes that were
there before. Such growth composes, one thing after another and one thing below another. It also
keeps account of literals: what has grown had room on its level, and it takes that room. And if the
trees that have been added are in order, every node that has been made is, in blocks as well.
-/
namespace Signpost

/-- What is built at a place: values for its owner and trees for the place itself. -/
structure Yield where
  values : List (String × String) := []
  shapes : List Shape := []

def Yield.append (first rest : Yield) : Yield :=
  ⟨first.values ++ rest.values, first.shapes ++ rest.shapes⟩

/-- Trees in order that may stand in a body. -/
def Yield.Orderly (yield : Yield) : Prop :=
  ∀ shape ∈ yield.shapes, shape.Orderly ∧ shape.kind.isBodyPart

namespace Arena

/-- There is room for trees at a place. -/
structure Fits (arena : Arena) (place : Nat) (shapes : List Shape) : Prop where
  apart : (Shape.literalsAll shapes).Nodup
  free : ∀ literal ∈ Shape.literalsAll shapes, arena.hasLiteral place literal = false
  distinct : ∀ shape ∈ shapes, shape.Distinct

/-- An arena has grown at a place. -/
structure Grows (arena grown : Arena) (place : Nat) (yield : Yield) : Prop where
  linked : grown.Linked
  rooted : grown.Rooted
  size : arena.size ≤ grown.size
  parents : ∀ id : Nat, id < arena.size → (grown.node id).parent = (arena.node id).parent
  content : ∀ id : Nat, id < arena.size → (grown.node id).toNodeContent
    = if id = arena.scopeOwner place then (arena.node id).toNodeContent.bindAll yield.values
      else (arena.node id).toNodeContent
  children : ∃ fresh : List Nat, (∀ id ∈ fresh, arena.size ≤ id) ∧
    fresh.map grown.shape = yield.shapes ∧
    ∀ id : Nat, id < arena.size → (grown.node id).children
      = if id = place then (arena.node id).children ++ fresh else (arena.node id).children
  taken : ∀ (other : Nat) (literal : String), other < arena.size →
    (grown.hasLiteral other literal = true ↔ arena.hasLiteral other literal = true ∨
      (arena.scopeOwner other = arena.scopeOwner place ∧
        literal ∈ Shape.literalsAll yield.shapes))
  fits : arena.Fits place yield.shapes
  orderly : (∀ shape ∈ yield.shapes, shape.Orderly) →
    ∀ id : Nat, arena.size ≤ id → id < grown.size → grown.Orderly id

variable {arena middle grown : Arena} {place : Nat} {first rest yield : Yield}

namespace Grows

theorem kind (grows : Grows arena grown place yield) {id : Nat} (old : id < arena.size) :
    (grown.node id).kind = (arena.node id).kind := by
  have content := congrArg NodeContent.kind (grows.content id old)
  split at content
  · rw [content, NodeContent.bindAll_kind]
  · exact content

theorem scopeOwner (grows : Grows arena grown place yield) (linked : arena.Linked)
    (rooted : arena.Rooted) {id : Nat} (old : id < arena.size) :
    grown.scopeOwner id = arena.scopeOwner id :=
  scopeOwner_congr linked grows.linked rooted grows.rooted grows.size (fun _ => grows.kind)
    grows.parents old

/-- Growth leaves alone what is neither the place nor its owner. -/
theorem apart (grows : Grows arena grown place yield) {id : Nat} (old : id < arena.size)
    (other : id ≠ place) (unowned : id ≠ arena.scopeOwner place) :
    (grown.node id).toNodeContent = (arena.node id).toNodeContent ∧
      (grown.node id).children = (arena.node id).children := by
  obtain ⟨fresh, -, -, children⟩ := grows.children
  exact ⟨by rw [grows.content id old, if_neg unowned], by rw [children id old, if_neg other]⟩

/-- Whole trees that hold neither the place nor its owner keep their shapes. -/
theorem shape (grows : Grows arena grown place yield) (linked : arena.Linked) (kept : Nat → Prop)
    (known : ∀ id, kept id → id < arena.size ∧ id ≠ place ∧ id ≠ arena.scopeOwner place)
    (closed : ∀ id, kept id → ∀ child ∈ (arena.node id).children, kept child)
    {id : Nat} (within : kept id) : grown.shape id = arena.shape id := by
  refine shape_congr linked grows.linked closed ?_ within
  intro other inside
  obtain ⟨old, here, owned⟩ := known other inside
  exact grows.apart old here owned

theorem refl (linked : arena.Linked) (rooted : arena.Rooted) (place : Nat) :
    Grows arena arena place {} where
  linked := linked
  rooted := rooted
  size := Nat.le_refl _
  parents := fun _ _ => rfl
  content := fun id _ => (ite_self _).symm
  children := ⟨[], by simp, rfl, by simp⟩
  taken := by simp [Shape.literalsAll]
  fits := ⟨by simp [Shape.literalsAll], by simp [Shape.literalsAll], by simp⟩
  orderly := fun _ _ new old => absurd old (Nat.not_lt.mpr new)

/-- Nodes in order stay so while something else grows. -/
theorem keeps_orderly (grows : Grows arena grown place yield) (linked : arena.Linked) {id : Nat}
    (old : id < arena.size) (other : id ≠ place) (orderly : arena.Orderly id) :
    grown.Orderly id := by
  obtain ⟨fresh, -, -, children⟩ := grows.children
  have same : grown.childKinds id = arena.childKinds id := by
    rw [childKinds, children id old, if_neg other]
    exact List.map_congr_left fun child own => grows.kind (linked.child own).2
  refine ⟨?_, ?_⟩
  · rw [same, grows.kind old]
    exact orderly.holds
  · rw [grows.parents id old, grows.kind old]
    exact orderly.detached

/-- Growing twice at one place is growing by both yields. -/
theorem trans (linked : arena.Linked) (rooted : arena.Rooted) (inside : place < arena.size)
    (before : Grows arena middle place first) (after : Grows middle grown place rest) :
    Grows arena grown place (first.append rest) := by
  have size := before.size
  have owner : middle.scopeOwner place = arena.scopeOwner place :=
    before.scopeOwner linked rooted inside
  have owned : (arena.scopeOwner place : Nat) < arena.size :=
    Nat.lt_of_le_of_lt (scopeOwner_le linked rooted inside) inside
  obtain ⟨fresh, new, shapes, children⟩ := before.children
  obtain ⟨more, newer, others, further⟩ := after.children
  have bounded : ∀ id ∈ fresh, arena.size ≤ id ∧ id < middle.size := by
    intro id member
    have own : id ∈ (middle.node place).children := by
      rw [children place inside, if_pos rfl]
      exact List.mem_append_right _ member
    exact ⟨new id member, (before.linked.child own).2⟩
  -- What grew first stands behind all old nodes, so growing again does not reach into it.
  have kept : ∀ id ∈ fresh, grown.shape id = middle.shape id := by
    intro id member
    refine after.shape before.linked (fun id => arena.size ≤ id ∧ id < middle.size) ?_ ?_
      (bounded id member)
    · intro other within
      refine ⟨within.2, by omega, ?_⟩
      rw [owner]
      exact fun same => absurd owned (Nat.not_lt.mpr (same ▸ within.1))
    · intro other within child own
      have order := before.linked.child own
      exact ⟨by omega, order.2⟩
  refine ⟨after.linked, after.rooted, Nat.le_trans size after.size, ?_, ?_,
    ⟨fresh ++ more, ?_, ?_, ?_⟩, ?_, ?_, ?_⟩
  · intro id old
    rw [after.parents id (by omega), before.parents id old]
  · intro id old
    rw [after.content id (by omega), owner, before.content id old]
    split
    · exact (NodeContent.bindAll_append _ first.values rest.values).symm
    · rfl
  · intro id member
    rcases List.mem_append.mp member with early | late
    · exact new id early
    · exact Nat.le_trans size (newer id late)
  · rw [List.map_append, List.map_congr_left kept, shapes, others]
    rfl
  · intro id old
    rw [further id (by omega), children id old]
    split
    · rw [List.append_assoc]
    · rfl
  · intro other literal old
    rw [after.taken other literal (by omega), before.taken other literal old, owner,
      before.scopeOwner linked rooted old, or_assoc, ← and_or_left, Yield.append,
      Shape.literalsAll_append, List.mem_append]
  · have room : ∀ literal ∈ Shape.literalsAll rest.shapes,
        arena.hasLiteral place literal = false ∧
          literal ∉ Shape.literalsAll first.shapes := by
      intro literal member
      have free := after.fits.free literal member
      rw [← Bool.not_eq_true, before.taken place literal inside] at free
      exact ⟨by simpa using fun taken => free (.inl taken), fun both => free (.inr ⟨rfl, both⟩)⟩
    refine ⟨?_, ?_, ?_⟩
    · rw [Yield.append, Shape.literalsAll_append]
      refine List.nodup_append.mpr ⟨before.fits.apart, after.fits.apart, ?_⟩
      rintro literal early other late rfl
      exact (room literal late).2 early
    · intro literal member
      rw [Yield.append, Shape.literalsAll_append] at member
      rcases List.mem_append.mp member with early | late
      · exact before.fits.free literal early
      · exact (room literal late).1
    · intro shape member
      rcases List.mem_append.mp member with early | late
      · exact before.fits.distinct shape early
      · exact after.fits.distinct shape late
  · intro both id new old
    obtain ⟨early, late⟩ := List.forall_mem_append.mp both
    by_cases first : id < middle.size
    · exact after.keeps_orderly before.linked first (by omega) (before.orderly early id new first)
    · exact after.orderly late id (by omega) old

/-- Binding a value at the owner of a place. -/
theorem bind (linked : arena.Linked) (rooted : arena.Rooted) (inside : place < arena.size)
    (name value : String) :
    Grows arena (arena.setValue (arena.scopeOwner place) name value) place
      { values := [(name, value)] } := by
  have owned : (arena.scopeOwner place : Nat) < arena.size :=
    Nat.lt_of_le_of_lt (scopeOwner_le linked rooted inside) inside
  have linked' := (Step.bind arena place name value).linked linked
  have rooted' := setValue_rooted rooted (arena.scopeOwner place) name value
  refine ⟨linked', rooted', by simp, fun _ _ => setValue_parent name value, ?_,
    ⟨[], by simp, rfl, fun _ _ => by simp⟩, ?_,
    ⟨by simp [Shape.literalsAll], by simp [Shape.literalsAll], by simp⟩, ?_⟩
  · intro id old
    rw [node_setValue]
    by_cases same : id = arena.scopeOwner place
    · rw [if_pos ⟨same, owned⟩, if_pos same, Node.setValue_content]
      rfl
    · rw [if_neg (fun both => same both.1), if_neg same]
  · intro other literal old
    rw [hasLiteral_congr linked linked' rooted rooted' (by simp) (fun _ _ => setValue_kind name value)
      (fun _ => setValue_parent name value) (fun id _ => scopeOwner_setValue arena _ id name value) old]
    simp [Shape.literalsAll]
  · intro _ id new old
    rw [size_setValue] at old
    exact absurd old (Nat.not_lt.mpr new)

theorem bindAll (linked : arena.Linked) (rooted : arena.Rooted) (inside : place < arena.size)
    (values : List (String × String)) :
    Grows arena (arena.setValues (arena.scopeOwner place) values) place { values } := by
  induction values generalizing arena with
  | nil => exact refl linked rooted place
  | cons entry rest ih =>
    have first := bind linked rooted inside entry.1 entry.2
    have later := ih first.linked first.rooted (by simpa using inside)
    rw [scopeOwner_setValue] at later
    exact trans linked rooted inside first later

section

variable {made : Nat} {content : NodeContent} (linked : arena.Linked) (rooted : arena.Rooted)
  (inside : place < arena.size)
  (inserted : arena.insert place content = .ok (middle, made))

include inside inserted in
/-- What has been made is one more child of its parent, and old nodes are otherwise as before. -/
theorem insert_old {id : Nat} (old : id < arena.size) :
    (middle.node id).parent = (arena.node id).parent ∧
      (middle.node id).toNodeContent = (arena.node id).toNodeContent ∧
      (middle.node id).children
        = if id = place then (arena.node id).children ++ [made] else (arena.node id).children := by
  rw [node_insert inside inserted, if_neg (by omega), made_insert inserted]
  by_cases up : id = place
  · subst up
    simp
  · simp [up]

include inside inserted in
theorem insert_new :
    middle.node made = { content with parent := some place } := by
  rw [node_insert inside inserted, if_pos (made_insert inserted)]

include inside inserted in
/-- A new node is in order if the tree that it has become is. -/
theorem orderly_new (below : Grows middle grown made yield) {content' : NodeContent}
    (shape : grown.shape made = .node content' yield.shapes)
    (orderly : (Shape.node content' yield.shapes).Orderly) :
    ∀ id : Nat, arena.size ≤ id → id < grown.size → grown.Orderly id := by
  intro id new old
  have made_ := made_insert inserted
  have size := size_insert inserted
  by_cases first : id = made
  · subst first
    refine ⟨holds_of_shape below.linked (shape ▸ orderly), fun top => ?_⟩
    rw [below.parents id (by omega), insert_new inside inserted] at top
    cases top
  · cases orderly with
    | node _ within => exact below.orderly within id (by omega) old

include inside inserted in
/-- The tree that a new node has become holds what has grown below it. -/
theorem shape_made (below : Grows middle grown made yield) :
    grown.shape made = .node
      (if made = middle.scopeOwner made then content.bindAll yield.values else content)
      yield.shapes := by
  have new := made_lt inserted
  obtain ⟨fresh, -, shapes, children⟩ := below.children
  rw [shape_eq below.linked, below.content made new, children made new, if_pos rfl,
    insert_new inside inserted, ← shapes]
  rfl

include inside inserted in
/-- Growth below a new node leaves open what it says about the owner of the place: the values bound
there, and the literals taken there. -/
theorem nest_of_owner (below : Grows middle grown made yield) {content' : NodeContent}
    {values : List (String × String)} (shape : grown.shape made = .node content' yield.shapes)
    (bound : ∀ id : Nat, id < arena.size → (grown.node id).toNodeContent
      = if id = arena.scopeOwner place then (arena.node id).toNodeContent.bindAll values
        else (arena.node id).toNodeContent)
    (taken : ∀ (other : Nat) (literal : String), other < arena.size →
      (grown.hasLiteral other literal = true ↔ arena.hasLiteral other literal = true ∨
        (arena.scopeOwner other = arena.scopeOwner place ∧
          literal ∈ Shape.literalsAll [.node content' yield.shapes])))
    (fits : arena.Fits place [.node content' yield.shapes]) :
    Grows arena grown place { values, shapes := [.node content' yield.shapes] } := by
  have new := made_insert inserted
  have size := size_insert inserted
  obtain ⟨fresh, -, -, children⟩ := below.children
  refine ⟨below.linked, below.rooted, by have := below.size; omega, ?_, bound,
    ⟨[made], by simp [new], by simp [shape], ?_⟩, taken, fits, fun orderly =>
      orderly_new inside inserted below shape (orderly _ List.mem_cons_self)⟩
  · intro id old
    rw [below.parents id (by omega), (insert_old inside inserted old).1]
  · intro id old
    rw [children id (by omega), if_neg (by omega), (insert_old inside inserted old).2.2]

include linked rooted inside inserted

/-- Growth below a new node that is no blank path is one more tree at the place. -/
theorem nest_solid (solid : content.kind.isBlank = false)
    (below : Grows middle grown made yield) :
    Grows arena grown place
      { shapes := [.node (content.bindAll yield.values) yield.shapes] } := by
  have new := made_insert inserted
  have size := size_insert inserted
  have own := insert_new inside inserted
  -- the new node owns itself, so the values that have been bound below are its own
  have owner : middle.scopeOwner made = made :=
    scopeOwner_of_solid (by omega) (by rw [own]; exact solid)
  have elsewhere {id : Nat} (old : id < arena.size) : middle.scopeOwner id ≠ made := by
    rw [scopeOwner_insert linked rooted inside inserted old]
    have low := scopeOwner_le linked rooted old
    intro same
    rw [same, new] at low
    exact absurd low (Nat.not_le.mpr old)
  have text : Shape.literalsAll [.node (content.bindAll yield.values) yield.shapes]
      = content.kind.literal?.toList := by
    simp [Shape.literalsAll, Shape.literals, solid]
  have shape := shape_made inside inserted below
  rw [if_pos owner.symm] at shape
  refine nest_of_owner inside inserted below shape ?_ ?_ ?_
  · intro id old
    rw [below.content id (by omega), owner, if_neg (by omega),
      (insert_old inside inserted old).2.1]
    exact (ite_self _).symm
  · intro other literal old
    rw [below.taken other literal (by omega), owner,
      hasLiteral_insert linked rooted inside inserted old, text, Option.mem_toList]
    simp [elsewhere old]
  · refine ⟨?_, ?_, ?_⟩
    · rw [text]
      cases content.kind.literal? <;> simp
    · intro literal member
      rw [text, Option.mem_toList] at member
      exact (insert_iff linked rooted inside).mp ⟨middle, new ▸ inserted⟩ literal member
    · intro shape member
      cases List.mem_singleton.mp member
      exact .node below.fits.distinct fun _ => below.fits.apart

/-- Growth below a new blank path is one more tree at the place, but the values go further up. -/
theorem nest_blank (blank : content.kind.isBlank = true)
    (below : Grows middle grown made yield) :
    Grows arena grown place
      { values := yield.values, shapes := [.node content yield.shapes] } := by
  have new := made_insert inserted
  have size := size_insert inserted
  -- the owner of the place owns the new node as well, so the values below have gone there
  have owner : middle.scopeOwner made = arena.scopeOwner place :=
    scopeOwner_made_blank linked rooted inside inserted blank
  have owned : (arena.scopeOwner place : Nat) < arena.size :=
    Nat.lt_of_le_of_lt (scopeOwner_le linked rooted inside) inside
  have apart : made ≠ arena.scopeOwner place := by
    intro same
    rw [← same, new] at owned
    exact absurd owned (Nat.lt_irrefl _)
  have text : Shape.literalsAll [.node content yield.shapes]
      = Shape.literalsAll yield.shapes := by
    simp [Shape.literalsAll, Shape.literals, blank]
  have shape := shape_made inside inserted below
  rw [owner, if_neg apart] at shape
  refine nest_of_owner inside inserted below shape ?_ ?_ ?_
  · intro id old
    rw [below.content id (by omega), owner, (insert_old inside inserted old).2.1]
  · intro other literal old
    have textless : content.kind.literal? ≠ some literal := by
      intro text
      rw [solid_of_literal text] at blank
      cases blank
    rw [below.taken other literal (by omega), owner,
      hasLiteral_insert linked rooted inside inserted old,
      scopeOwner_insert linked rooted inside inserted old, text]
    simp [textless]
  · refine ⟨text ▸ below.fits.apart, ?_, ?_⟩
    · intro literal member
      rw [← hasLiteral_made_blank linked rooted inside inserted blank]
      exact below.fits.free literal (text ▸ member)
    · intro shape member
      cases List.mem_singleton.mp member
      exact .node below.fits.distinct fun solid => by simp [blank] at solid

/-- A new node with nothing below it. -/
theorem leaf : Grows arena middle place { shapes := [.node content []] } := by
  have still := refl (insert_linked linked inside inserted) (insert_rooted rooted inside inserted) made
  cases blank : content.kind.isBlank with
  | false => exact nest_solid linked rooted inside inserted blank still
  | true => exact nest_blank linked rooted inside inserted blank still

/-- Growth without values below a new node of any kind. -/
theorem nest {shapes : List Shape} (below : Grows middle grown made { shapes }) :
    Grows arena grown place { shapes := [.node content shapes] } := by
  cases blank : content.kind.isBlank with
  | false => exact nest_solid linked rooted inside inserted blank below
  | true => exact nest_blank linked rooted inside inserted blank below

end

end Grows

mutual

/-- A copy grows the tree that it was made from. -/
theorem copy_grows {arena grown : Arena} {place : Nat} (linked : arena.Linked)
    (rooted : arena.Rooted) (inside : place < arena.size) :
    (tree : Subtree) → arena.copy place tree = .ok grown →
      Grows arena grown place { shapes := [tree.shape] }
  | .node _ content children, copied => by
    rw [copy, bind_ok_iff] at copied
    obtain ⟨⟨middle, made⟩, inserted, rest⟩ := copied
    have there : made < middle.size := by
      rw [made_insert inserted, size_insert inserted]
      exact Nat.lt_succ_self _
    exact Grows.nest linked rooted inside inserted
      (copyAll_grows (insert_linked linked inside inserted) (insert_rooted rooted inside inserted)
        there children rest)

theorem copyAll_grows {arena grown : Arena} {place : Nat} (linked : arena.Linked)
    (rooted : arena.Rooted) (inside : place < arena.size) :
    (trees : List Subtree) → arena.copyAll place trees = .ok grown →
      Grows arena grown place { shapes := Subtree.shapeAll trees }
  | [], copied => by
    rw [copyAll] at copied
    cases copied
    exact .refl linked rooted place
  | tree :: rest, copied => by
    rw [copyAll, bind_ok_iff] at copied
    obtain ⟨middle, first, later⟩ := copied
    have before := copy_grows linked rooted inside tree first
    exact before.trans linked rooted inside
      (copyAll_grows before.linked before.rooted (Nat.lt_of_lt_of_le inside before.size) rest later)

end

end Arena

end Signpost

import Signpost.Proofs.Tree.Building
import Signpost.Proofs.Tree.Hygiene
import Signpost.Proofs.Tree.Order
import Signpost.Proofs.Tree.RouteWalk

/-!
# References as copies

A block is built once, off the tree, and a reference copies it. The tree of a document is nevertheless
the one of the document with its references written out, whatever the names in it.
-/
namespace Signpost

theorem Subtree.shape_eq (tree : Subtree) : tree.shape = .node tree.content (shapeAll tree.children) := by
  cases tree
  rfl

namespace RouteTree

open Arena

variable {arena middle grown : Arena} {place made : Nat} {declares : Bool} {spec : SpecNode}

/-- Blocks as they have been kept, with what they yield. -/
abbrev Keeps (arena : Arena) (place : Nat) (blocks : Blocks) (known : Yields) : Prop :=
  Entrywise (fun block yield => arena.Aside place block yield) blocks known

theorem Keeps.grow {blocks : Blocks} {known : Yields} {yield : Yield}
    (site : arena.Site place declares) (grows : Grows arena grown place yield)
    (keeps : Keeps arena place blocks known) : Keeps grown place blocks known :=
  keeps.imp fun _ _ aside => aside.grow site grows

theorem Keeps.opens {blocks : Blocks} {known : Yields} {declares' : Bool} {wrap : Yield → Yield}
    (opens : Opens arena middle place made declares' wrap)
    (keeps : Keeps arena place blocks known) : Keeps middle made blocks known :=
  keeps.imp fun _ _ aside => opens.aside aside

/-- Blocks that have been kept yield what is in order. -/
theorem Keeps.orderly {blocks : Blocks} {known : Yields} (keeps : Keeps arena place blocks known) :
    known.Orderly := by
  intro entry member
  obtain ⟨_, -, -, aside⟩ := forall₂_origin keeps entry member
  exact aside.orderly

/-- Values that have been collected at a node bind what they have been collected from. -/
theorem Grows.uncollect {base : NodeContent} (empty : base.values = [])
    {values : List (String × String)} {shapes : List Shape}
    (grows : Grows arena grown place { values := (base.bindAll values).values, shapes }) :
    Grows arena grown place { values, shapes } where
  linked := grows.linked
  rooted := grows.rooted
  size := grows.size
  parents := grows.parents
  content := by
    intro id old
    rw [grows.content id old, NodeContent.bindAll_collected _ empty]
  children := grows.children
  taken := grows.taken
  fits := grows.fits
  orderly := grows.orderly

/-- A reference grows what its block has yielded. -/
theorem placeReference_grows {blocks : Blocks} {known : Yields} (site : arena.Site place declares)
    (keeps : Keeps arena place blocks known)
    (placed : placeReference blocks arena place spec = .ok grown) :
    ∃ name yield, spec.attribute? "name" = some name ∧ known.lookup name = some yield ∧
      Grows arena grown place yield := by
  obtain ⟨name, named, block, found, placed⟩ := placeReference_ok_iff.mp placed
  obtain ⟨yield, there, aside⟩ := keeps.lookup found
  refine ⟨name, yield, named, there, ?_⟩
  obtain ⟨base, empty, values⟩ := aside.values
  have bound := Grows.bindAll site.linked site.rooted site.inside (arena.node block).values
  have copied := copyAll_grows bound.linked bound.rooted
    (Nat.lt_of_lt_of_le site.inside bound.size)
    ((arena.setValues (arena.scopeOwner place) (arena.node block).values).subtree block).children
    placed
  -- Binding the values first has left the block as it is, so its own shapes are copied.
  have shapes : Subtree.shapeAll
      ((arena.setValues (arena.scopeOwner place) (arena.node block).values).subtree block).children
        = yield.shapes := by
    rw [← (aside.grow site bound).shapes]
    have whole := shape_eq bound.linked block
    rw [Arena.shape, Subtree.shape_eq] at whole
    exact (Shape.node.inj whole).2
  have both := bound.trans site.linked site.rooted site.inside copied
  rw [shapes, values] at both
  refine Grows.uncollect empty ?_
  simpa [Yield.append] using both

mutual

/-- What an element has built is what it yields. -/
theorem buildNode_grows {blocks found : Blocks} {known : Yields} {arena grown : Arena} {place : Nat}
    {declares : Bool} (site : arena.Site place declares) (keeps : Keeps arena place blocks known) :
    (spec : SpecNode) → buildNode blocks arena place spec = .ok (found, grown) →
      ∃ behind yield, elaborate known declares spec = some (behind, yield) ∧
        Grows arena grown place yield ∧ Keeps grown place found behind
  | ⟨kind, attributes, text, children⟩, built => by
    cases kind with
    | block =>
      obtain ⟨name, named, body, rfl⟩ := buildNode_block_iff.mp built
      have inner : Keeps _ arena.size blocks known :=
        keeps.imp fun _ _ aside => aside.detached site name
      obtain ⟨yield, inside, within⟩ := buildChildren_grows (site.detached name) inner children body
      have orderly := elaborateAll_orderly keeps.orderly children inside
      have grows := Grows.elsewhere site within orderly
      refine ⟨(name, yield) :: known, {}, ?_, grows, ?_⟩
      · exact elaborate_block_iff.mpr ⟨name, named, yield, inside, rfl, rfl⟩
      · exact .cons ⟨rfl, Grows.aside site within orderly⟩ (keeps.grow site grows)
    | ref =>
      obtain ⟨placed, rfl⟩ := buildNode_ref_iff.mp built
      obtain ⟨name, yield, named, there, grows⟩ := placeReference_grows site keeps placed
      exact ⟨known, yield, elaborate_ref_iff.mpr ⟨name, named, there, rfl⟩, grows,
        keeps.grow site grows⟩
    | path =>
      -- here and below: the element opens a site, and what grows there is wrapped into its yield
      obtain ⟨after, path, placed, body, rfl⟩ := buildNode_path_iff.mp built
      obtain ⟨_, _, expected, opens⟩ := (placePath_enters site).sound after path placed
      obtain ⟨patterns, read, same⟩ := Option.map_eq_some_iff.mp expected
      cases same
      obtain ⟨yield, inside, within⟩ :=
        buildChildren_grows opens.site (keeps.opens opens) children body
      have grows := opens.grows within
      refine ⟨known, _, elaborate_path_iff.mpr ?_, grows, keeps.grow site grows⟩
      exact ⟨patterns, toOption_some_iff.mp read, yield, inside, rfl, rfl⟩
    | switch =>
      obtain ⟨after, switch, placed, body, rfl⟩ := buildNode_switch_iff.mp built
      obtain ⟨_, _, expected, opens⟩ := (placeSwitch_enters site).sound after switch placed
      obtain ⟨settled, read, same⟩ := Option.map_eq_some_iff.mp expected
      cases same
      obtain ⟨shapes, inside, within⟩ :=
        buildCases_grows opens.site (keeps.opens opens) children body
      have grows := opens.grows within
      refine ⟨known, _, elaborate_switch_iff.mpr ?_, grows, keeps.grow site grows⟩
      exact ⟨settled, read, shapes, inside, rfl, rfl⟩
    | test =>
      obtain ⟨after, test, placed, body, rfl⟩ := buildNode_test_iff.mp built
      obtain ⟨_, _, expected, opens⟩ := (placeTest_enters site).sound after test placed
      obtain ⟨content, read, same⟩ := Option.map_eq_some_iff.mp expected
      cases same
      obtain ⟨yield, inside, within⟩ :=
        buildChildren_grows opens.site (keeps.opens opens) children body
      have grows := opens.grows within
      refine ⟨known, _, elaborate_test_iff.mpr ?_, grows, keeps.grow site grows⟩
      exact ⟨content, read, yield, inside, rfl, rfl⟩
    | parameter =>
      obtain ⟨allowed, rfl, rfl⟩ := buildNode_parameter_iff.mp built
      rw [site.declares] at allowed
      exact ⟨known, {}, elaborate_parameter_iff.mpr ⟨allowed, rfl, rfl⟩,
        .refl site.linked site.rooted place, keeps⟩
    | set | arg | «return» | call =>
      obtain ⟨placed, rfl⟩ := (buildNode_simple_iff (by simp)).mp built
      obtain ⟨yield, expected, grows⟩ := (placeSimple_agrees site).sound _ placed
      exact ⟨known, yield, (elaborate_simple_iff (by simp)).mpr ⟨expected, rfl⟩, grows,
        keeps.grow site grows⟩
    | _ => simp [buildNode, unexpected] at built

theorem buildChildren_grows {blocks : Blocks} {known : Yields} {arena grown : Arena} {place : Nat}
    {declares : Bool} (site : arena.Site place declares) (keeps : Keeps arena place blocks known) :
    (specs : List SpecNode) → buildChildren blocks arena place specs = .ok grown →
      ∃ yield, elaborateAll known declares specs = some yield ∧ Grows arena grown place yield
  | [], built => by
    rw [buildChildren] at built
    cases built
    exact ⟨{}, by rw [elaborateAll], .refl site.linked site.rooted place⟩
  | spec :: rest, built => by
    obtain ⟨found, middle, first, later⟩ := buildChildren_cons_iff.mp built
    obtain ⟨behind, yield, here, grows, keeps'⟩ := buildNode_grows site keeps spec first
    obtain ⟨others, rest, further⟩ := buildChildren_grows (site.grow grows) keeps' rest later
    refine ⟨yield.append others, ?_, grows.trans site.linked site.rooted site.inside further⟩
    exact elaborateAll_cons_iff.mpr ⟨behind, yield, here, others, rest, rfl⟩

theorem buildCases_grows {blocks : Blocks} {known : Yields} {hasDefault : Bool}
    {arena grown : Arena} {switch : Nat} {declares : Bool} (site : arena.Site switch declares)
    (keeps : Keeps arena switch blocks known) :
    (specs : List SpecNode) → buildCases blocks hasDefault arena switch specs = .ok grown →
      ∃ shapes, elaborateCases known hasDefault specs = some shapes ∧
        Grows arena grown switch { shapes }
  | [], built => by
    rw [buildCases] at built
    cases built
    exact ⟨[], by rw [elaborateCases], .refl site.linked site.rooted switch⟩
  | ⟨kind, attributes, text, children⟩ :: rest, built => by
    cases kind with
    | value =>
      rw [buildCases_value] at built
      obtain ⟨shapes, others, grows⟩ := buildCases_grows site keeps rest built
      exact ⟨shapes, by rw [elaborateCases_value, others], grows⟩
    | case =>
      obtain ⟨value, read, middle, case, inserted, after, body, later⟩ :=
        buildCases_case_iff.mp built
      have opens : Opens arena middle switch case false (nodeYield { kind := .case value }) :=
        insert_opens site inserted rfl
      obtain ⟨yield, inside, within⟩ :=
        buildChildren_grows opens.site (keeps.opens opens) children body
      have grows := opens.grows within
      obtain ⟨shapes, others, further⟩ :=
        buildCases_grows (site.grow grows) (keeps.grow site grows) rest later
      refine ⟨_, elaborateCases_case_iff.mpr ?_,
        grows.trans site.linked site.rooted site.inside further⟩
      exact ⟨value, read, yield, inside, shapes, others, rfl⟩
    | default =>
      obtain ⟨first, middle, case, inserted, after, body, later⟩ := buildCases_default_iff.mp built
      have opens : Opens arena middle switch case false (nodeYield { kind := .default }) :=
        insert_opens site inserted rfl
      obtain ⟨yield, inside, within⟩ :=
        buildChildren_grows opens.site (keeps.opens opens) children body
      have grows := opens.grows within
      obtain ⟨shapes, others, further⟩ :=
        buildCases_grows (site.grow grows) (keeps.grow site grows) rest later
      refine ⟨_, elaborateCases_default_iff.mpr ?_,
        grows.trans site.linked site.rooted site.inside further⟩
      exact ⟨first, yield, inside, shapes, others, rfl⟩
    | _ => simp [buildCases, unexpected] at built

end

/-! ### Building what has been read off -/

/-- What is expected to be made is made where it fits, with room inside for what it was to hold. -/
theorem Enters.opens {result : Except TreeError (Arena × Nat)}
    {expected : Option (Bool × (Yield → Yield))} {declares : Bool} {wrap : Yield → Yield}
    (enters : Enters arena place result expected) (same : expected = some (declares, wrap))
    {body : Yield} (fits : arena.Fits place (wrap body).shapes) :
    ∃ middle made, result = .ok (middle, made) ∧ Opens arena middle place made declares wrap ∧
      middle.Fits made body.shapes := by
  obtain ⟨middle, made, done⟩ := enters.complete declares wrap same body fits
  obtain ⟨_, _, again, opens⟩ := enters.sound middle made done
  cases same.symm.trans again
  exact ⟨middle, made, done, opens, opens.room body fits⟩

/-- Nothing is known where a document is written out. -/
theorem Keeps.none : Keeps arena place [] [] := .nil

mutual

/-- Where there is room for what an element yields, the element can be built. -/
theorem buildNode_complete {found : Yields} {arena : Arena} {place : Nat} {declares : Bool}
    {yield : Yield} (site : arena.Site place declares) :
    (spec : SpecNode) → spec.Plain → elaborate [] declares spec = some (found, yield) →
      arena.Fits place yield.shapes → ∃ grown, buildNode [] arena place spec = .ok ([], grown)
  | ⟨kind, attributes, text, children⟩, plain, expected, fits => by
    cases kind with
    | block => exact absurd rfl plain.solid
    | ref =>
      -- no block is known, so there is nothing that a reference could yield
      obtain ⟨name, -, ⟨⟩, -⟩ := elaborate_ref_iff.mp expected
    | path =>
      obtain ⟨patterns, read, body, inside, rfl, rfl⟩ := elaborate_path_iff.mp expected
      obtain ⟨middle, path, placed, opens, room⟩ :=
        (placePath_enters site).opens (by rw [read]; rfl) fits
      obtain ⟨grown, built⟩ :=
        buildChildren_complete opens.site children (plain.children (by simp) (by simp)) inside room
      exact ⟨grown, buildNode_path_iff.mpr ⟨middle, path, placed, built, rfl⟩⟩
    | switch =>
      obtain ⟨settled, read, cases_, inside, rfl, rfl⟩ := elaborate_switch_iff.mp expected
      obtain ⟨middle, switch, placed, opens, room⟩ :=
        (placeSwitch_enters site).opens (by rw [read]; rfl) fits
      obtain ⟨grown, built⟩ :=
        buildCases_complete opens.site children (plain.children (by simp) (by simp)) inside room
      exact ⟨grown, buildNode_switch_iff.mpr ⟨middle, switch, placed, built, rfl⟩⟩
    | test =>
      obtain ⟨content, read, body, inside, rfl, rfl⟩ := elaborate_test_iff.mp expected
      obtain ⟨middle, test, placed, opens, room⟩ :=
        (placeTest_enters site).opens (by rw [read]; rfl) fits
      obtain ⟨grown, built⟩ :=
        buildChildren_complete opens.site children (plain.children (by simp) (by simp)) inside room
      exact ⟨grown, buildNode_test_iff.mpr ⟨middle, test, placed, built, rfl⟩⟩
    | parameter =>
      obtain ⟨allowed, -, -⟩ := elaborate_parameter_iff.mp expected
      rw [← site.declares] at allowed
      exact ⟨arena, buildNode_parameter_iff.mpr ⟨allowed, rfl, rfl⟩⟩
    | set | arg | «return» | call =>
      obtain ⟨read, -⟩ := (elaborate_simple_iff (by simp)).mp expected
      obtain ⟨grown, placed⟩ := (placeSimple_agrees site).complete yield read fits
      exact ⟨grown, (buildNode_simple_iff (by simp)).mpr ⟨placed, rfl⟩⟩
    | _ =>
      rw [elaborate] at expected
      cases expected

theorem buildChildren_complete {arena : Arena} {place : Nat} {declares : Bool} {yield : Yield}
    (site : arena.Site place declares) :
    (specs : List SpecNode) → (∀ spec ∈ specs, spec.Plain) →
      elaborateAll [] declares specs = some yield → arena.Fits place yield.shapes →
      ∃ grown, buildChildren [] arena place specs = .ok grown
  | [], _, _, _ => ⟨arena, by rw [buildChildren]⟩
  | spec :: rest, plain, expected, fits => by
    obtain ⟨found, first, here, later, behind, rfl⟩ := elaborateAll_cons_iff.mp expected
    have here' := plain spec List.mem_cons_self
    cases elaborate_known here'.solid here
    obtain ⟨middle, built⟩ := buildNode_complete site spec here' here fits.mono
    obtain ⟨_, _, again, grows, -⟩ := buildNode_grows site Keeps.none spec built
    cases here.symm.trans again
    obtain ⟨grown, more⟩ := buildChildren_complete (site.grow grows) rest
      (fun other member => plain other (List.mem_cons_of_mem _ member)) behind
      (fits.behind site.inside grows)
    exact ⟨grown, buildChildren_cons_iff.mpr ⟨[], middle, built, more⟩⟩

theorem buildCases_complete {hasDefault : Bool} {arena : Arena} {switch : Nat} {declares : Bool}
    {shapes : List Shape} (site : arena.Site switch declares) :
    (specs : List SpecNode) → (∀ spec ∈ specs, spec.Plain) →
      elaborateCases [] hasDefault specs = some shapes → arena.Fits switch shapes →
      ∃ grown, buildCases [] hasDefault arena switch specs = .ok grown
  | [], _, _, _ => ⟨arena, by rw [buildCases]⟩
  | ⟨kind, attributes, text, children⟩ :: rest, plain, expected, fits => by
    have others := fun other member => plain other (List.mem_cons_of_mem _ member)
    have here := plain _ List.mem_cons_self
    cases kind with
    | value =>
      rw [elaborateCases_value] at expected
      obtain ⟨grown, built⟩ := buildCases_complete site rest others expected fits
      exact ⟨grown, buildCases_value.trans built⟩
    | case =>
      obtain ⟨value, read, body, inside, later, behind, rfl⟩ := elaborateCases_case_iff.mp expected
      obtain ⟨middle, case, inserted, opens, room⟩ :=
        (insert_enters site { kind := .case value } rfl).opens rfl fits.mono
      obtain ⟨after, built⟩ := buildChildren_complete opens.site children
        (here.children (by simp) (by simp)) inside room
      obtain ⟨_, again, within⟩ := buildChildren_grows opens.site Keeps.none children built
      cases inside.symm.trans again
      have grows := opens.grows within
      obtain ⟨grown, more⟩ := buildCases_complete (site.grow grows) rest others behind
        (fits.behind site.inside grows)
      refine ⟨grown, buildCases_case_iff.mpr ?_⟩
      exact ⟨value, read, middle, case, inserted, after, built, more⟩
    | default =>
      obtain ⟨first, body, inside, later, behind, rfl⟩ := elaborateCases_default_iff.mp expected
      obtain ⟨middle, case, inserted, opens, room⟩ :=
        (insert_enters site { kind := .default } rfl).opens rfl fits.mono
      obtain ⟨after, built⟩ := buildChildren_complete opens.site children
        (here.children (by simp) (by simp)) inside room
      obtain ⟨_, again, within⟩ := buildChildren_grows opens.site Keeps.none children built
      cases inside.symm.trans again
      have grows := opens.grows within
      obtain ⟨grown, more⟩ := buildCases_complete (site.grow grows) rest others behind
        (fits.behind site.inside grows)
      refine ⟨grown, buildCases_default_iff.mpr ?_⟩
      exact ⟨first, middle, case, inserted, after, built, more⟩
    | _ =>
      rw [elaborateCases] at expected
      cases expected
      all_goals simp

end

end RouteTree

/-! ### Whole documents -/

namespace RouteTree

open Arena

theorem start_site : start.Site root false where
  linked := start_linked
  rooted := start_rooted
  inside := by simp [root]
  uncalled := rfl
  declares := rfl

/-- What the root becomes is settled by what its children yield. -/
theorem shape_root {grown : Arena} {yield : Yield} (grows : Grows start grown root yield) :
    grown.shape root
      = .node (({ kind := .router } : NodeContent).bindAll yield.values) yield.shapes := by
  have owner : start.scopeOwner root = root :=
    scopeOwner_of_solid start_site.inside rfl
  obtain ⟨fresh, -, shapes, children⟩ := grows.children
  rw [Arena.shape_eq grows.linked, grows.content root start_site.inside, owner, if_pos rfl,
    children root start_site.inside, if_pos rfl, ← shapes]
  rfl

/-- A reference means its block, written out. A document that can be built can be built with its
references written out, and its tree and its routes are the same. A document with a reference to
nothing cannot be built. -/
theorem build_expanded :
    (∀ (document : SpecNode) (tree : RouteTree), build document = .ok tree →
      ∃ other : RouteTree, build document.expanded = .ok other ∧
        other.arena.shape root = tree.arena.shape root ∧ other.routes = tree.routes) ∧
    ∀ document : SpecNode, SpecNode.DanglesAmong [] document.children →
      ∃ problem, build document = .error problem := by
  constructor
  · intro document tree built
    obtain ⟨router, body, collected⟩ := build_ok_iff.mp built
    obtain ⟨yield, read, grows⟩ := buildChildren_grows start_site Keeps.none document.children body
    have plain := document.expanded_plain
    -- The document written out yields the same, and there is room for it since there was before.
    obtain ⟨same, -⟩ := elaborateAll_expand SpecNode.Bodies.Plain.none .nil document.children read
    obtain ⟨arena, again⟩ := buildChildren_complete start_site _ plain same grows.fits
    obtain ⟨_, unique, grows'⟩ := buildChildren_grows start_site Keeps.none _ again
    cases same.symm.trans unique
    have shape : arena.shape root = tree.arena.shape root := by
      rw [shape_root grows, shape_root grows']
    refine ⟨⟨arena, tree.routes⟩, build_ok_iff.mpr ⟨router, again, ?_⟩, shape, rfl⟩
    rw [← collected]
    exact RouteTable.collect_congr shape
  · intro document dangling
    cases built : build document with
    | error problem => exact ⟨problem, rfl⟩
    | ok tree =>
      obtain ⟨-, body, -⟩ := build_ok_iff.mp built
      obtain ⟨_, read, -⟩ := buildChildren_grows start_site Keeps.none document.children body
      rw [(elaborateAll_dangles dangling [] rfl).1 false] at read
      cases read

/-- Two blocks of one name: the first is meant on the page and, through a block that refers to it,
below the shelf; the second only within that block. -/
def shelvedSpec : SpecNode :=
  let item := (SpecNode.block "item").withChildren
    [SpecNode.arg "part" "spine", (SpecNode.path "cover").withChild SpecNode.returning]
  let shelf := (SpecNode.block "shelf").withChildren
    [(SpecNode.path "top").withChild (SpecNode.reference "item"),
      (SpecNode.block "item").withChild ((SpecNode.path "label").withChild SpecNode.returning),
      SpecNode.reference "item"]
  SpecNode.router.withChildren
    [item, shelf, (SpecNode.path "shelf").withChild (SpecNode.reference "shelf"),
      (SpecNode.path "page").withChild (SpecNode.group.withChild (SpecNode.reference "item"))]

theorem build_expanded_shelved :
    (∃ tree other, build shelvedSpec = .ok tree ∧ build shelvedSpec.expanded = .ok other ∧
      other.arena.shape root = tree.arena.shape root ∧ other.routes = tree.routes) ∧
    ∃ problem, build (SpecNode.router.withChild
      (SpecNode.group.withChild (SpecNode.reference "shelf"))) = .error problem := by
  have succeeds : (build shelvedSpec).toOption.isSome = true := by decide +kernel
  obtain ⟨tree, found⟩ := Option.isSome_iff_exists.mp succeeds
  have built := ok_of_toOption found
  obtain ⟨other, again, same⟩ := build_expanded.1 shelvedSpec tree built
  refine ⟨⟨tree, other, built, again, same⟩, build_expanded.2 _ ?_⟩
  exact .here (.nested rfl (.here (.reference rfl (by simp))))

end RouteTree

end Signpost

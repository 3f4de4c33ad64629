import Mathlib.Logic.Relation
import Signpost.Proofs.Pattern.Origin
import Signpost.Proofs.Tree.Elements

/-!
# Building in steps

Whatever an element asks for, a tree of routes is built by four kinds of steps: a node is made for a
block, a node is made under a parent, a value is bound at the owner of a place, and a switch gets its
value. What every step keeps is therefore kept by building as a whole, and nothing else about the
builder has to be known for it.
-/
namespace Signpost

/-- What a node says when an element has just made it. -/
inductive NodeContent.Fresh : NodeContent → Prop
  | segment {pattern : Pattern} (arises : pattern.Arises) (id : Option String) :
    Fresh (RouteTree.segmentContent pattern id)
  | test {source subject : String} {regex : Regex} (compiled : Regex.compile? source = some regex) :
    Fresh {
      kind := .test source subject
      localVars :=
        ((List.range (regex.groupCount + 1)).map toString ++ regex.groupNames).eraseDups }
  | plain {kind : NodeKind} (segmentless : kind.pattern? = none)
      (testless : ∀ source subject, kind ≠ .test source subject) : Fresh { kind }

namespace Arena

/-- A step of building. A node is made either for an element or as a copy of another node. -/
inductive Step : Arena → Arena → Prop
  | block (arena : Arena) (name : String) : Step arena (arena.alloc { kind := .block name }).1
  | insert {arena grown : Arena} {parent made : Nat} {content : NodeContent}
      (inside : parent < arena.size)
      (known : content.Fresh ∨ ∃ id : Nat, content = (arena.node id).toNodeContent)
      (inserted : arena.insert parent content = .ok (grown, made)) : Step arena grown
  | bind (arena : Arena) (place : Nat) (name value : String) :
    Step arena (arena.setValue (arena.scopeOwner place) name value)
  | settle {arena : Arena} {switch : Nat} (open_ : (arena.node switch).kind = .switch none)
      (value : String) :
    Step arena (arena.modify switch fun node => { node with kind := .switch (some value) })

abbrev Steps : Arena → Arena → Prop := Relation.ReflTransGen Step

theorem Step.size_le {arena grown : Arena} (step : Step arena grown) : arena.size ≤ grown.size := by
  cases step with
  | block name => simp
  | insert _ _ inserted => simp [size_insert inserted]
  | bind => simp
  | settle => simp

/-- What every step keeps is kept by any number of them. -/
theorem Steps.keeps {arena grown : Arena} {kept : Arena → Prop}
    (each : ∀ {before after : Arena}, Step before after → kept before → kept after)
    (steps : Steps arena grown) (initial : kept arena) : kept grown := by
  induction steps with
  | refl => exact initial
  | tail _ step ih => exact each step ih

/-- Every node keeps a property that fresh contents have and that neither a value for the owner of a
place nor the value of a switch takes away. -/
theorem Step.contents {arena grown : Arena} {holds : NodeContent → Prop}
    (fresh : ∀ content : NodeContent, content.Fresh → holds content)
    (bind : ∀ (place : Nat) (name value : String),
      holds (arena.node (arena.scopeOwner place)).toNodeContent →
      holds ((arena.node (arena.scopeOwner place)).setValue name value).toNodeContent)
    (settle : ∀ (content : NodeContent) (value : String), content.kind = .switch none →
      holds content → holds { content with kind := .switch (some value) })
    (step : Step arena grown) (all : ∀ id : Nat, holds (arena.node id).toNodeContent) (id : Nat) :
    holds (grown.node id).toNodeContent := by
  cases step with
  | block name =>
    rw [node_alloc]
    split
    · exact fresh _ (.plain rfl (by simp))
    · exact all id
  | insert inside known inserted =>
    rw [node_insert inside inserted]
    split
    · rcases known with new | ⟨origin, rfl⟩
      · -- the node is new or a copy, and a copy says what a node before it says
        exact fresh _ new
      · exact all origin
    · split
      · exact all _
      · exact all id
  | bind place name value =>
    rw [node_setValue]
    split
    next here => exact here.1 ▸ bind place name value (all _)
    next => exact all id
  | settle unsettled value =>
    rw [node_modify]
    split
    next here => exact settle _ value (here.1 ▸ unsettled) (all id)
    next => exact all id

theorem Steps.size_le {arena grown : Arena} (steps : Steps arena grown) :
    arena.size ≤ grown.size :=
  steps.keeps (fun step small => Nat.le_trans small step.size_le) (Nat.le_refl _)

/-! ### Copies -/

theorem lineageFrom_congr {arena other : Arena}
    (parents : ∀ id, (other.node id).parent = (arena.node id).parent) (fuel : Nat) (id : NodeId) :
    other.lineageFrom fuel id = arena.lineageFrom fuel id := by
  induction fuel generalizing id with
  | zero => rfl
  | succ fuel ih =>
    simp only [lineageFrom, parents]
    cases (arena.node id).parent with
    | none => rfl
    | some parent => simp only [ih]

/-- Binding a value leaves kinds and parents alone, so every place keeps its owner. -/
theorem scopeOwner_setValue (arena : Arena) (id place : NodeId) (name value : String) :
    (arena.setValue id name value).scopeOwner place = arena.scopeOwner place := by
  simp only [scopeOwner, lineage, size_setValue, setValue_kind,
    lineageFrom_congr fun _ => setValue_parent name value]

theorem setValues_steps (arena : Arena) (place : Nat) (values : List (String × String)) :
    Steps arena (arena.setValues (arena.scopeOwner place) values) := by
  induction values generalizing arena with
  | nil => exact .refl
  | cons entry rest ih =>
    have later := ih (arena.setValue (arena.scopeOwner place) entry.1 entry.2)
    rw [scopeOwner_setValue] at later
    exact .head (.bind arena place entry.1 entry.2) later

/-- The content of some node; past the end of an arena stands an empty one. -/
def Shows (arena : Arena) (content : NodeContent) : Prop :=
  ∃ id : Nat, content = (arena.node id).toNodeContent

theorem Shows.insert {arena grown : Arena} {parent made : Nat} {content other : NodeContent}
    (inside : parent < arena.size)
    (inserted : arena.insert parent content = .ok (grown, made))
    (shown : arena.Shows other) : grown.Shows other := by
  obtain ⟨id, rfl⟩ := shown
  by_cases old : id < arena.size
  · refine ⟨id, ?_⟩
    rw [node_insert inside inserted, if_neg (by omega)]
    split
    next up => subst up; rfl
    next => rfl
  · refine ⟨grown.size, ?_⟩
    rw [node_of_size_le (Nat.le_refl grown.size), node_of_size_le (by omega)]

end Arena

/-- All contents of a subtree have a property. -/
inductive Subtree.All (holds : NodeContent → Prop) : Subtree → Prop
  | node {id : NodeId} {content : NodeContent} {children : List Subtree} (here : holds content)
      (below : ∀ child ∈ children, All holds child) : All holds (.node id content children)

theorem Subtree.All.mono {holds weaker : NodeContent → Prop}
    (implies : ∀ content, holds content → weaker content) {tree : Subtree}
    (all : tree.All holds) : tree.All weaker := by
  induction all with
  | node here _ ih => exact .node (implies _ here) ih

theorem Subtree.All.children {holds : NodeContent → Prop} {tree : Subtree}
    (all : tree.All holds) : ∀ child ∈ tree.children, child.All holds := by
  cases all with
  | node _ below => exact below

namespace Arena

theorem subtreeFrom_all (arena : Arena) (fuel : Nat) (id : NodeId) :
    (arena.subtreeFrom fuel id).All arena.Shows := by
  induction fuel generalizing id with
  | zero => exact .node ⟨id, rfl⟩ (by simp)
  | succ fuel ih =>
    refine .node ⟨id, rfl⟩ ?_
    intro child member
    obtain ⟨origin, -, rfl⟩ := List.mem_map.mp member
    exact ih origin

mutual

/-- Copying takes steps, and all contents that were there are still there. -/
theorem copy_steps {arena grown : Arena} {parent : Nat} :
    (tree : Subtree) → arena.copy parent tree = .ok grown → parent < arena.size →
      tree.All arena.Shows →
      Steps arena grown ∧ ∀ content, arena.Shows content → grown.Shows content
  | .node id content children, copied, inside, .node shown below => by
    rw [copy, bind_ok_iff] at copied
    obtain ⟨⟨middle, made⟩, inserted, rest⟩ := copied
    have placed : made < middle.size := by
      rw [made_insert inserted, size_insert inserted]
      exact Nat.lt_succ_self _
    obtain ⟨steps, kept⟩ := copyAll_steps children rest placed fun child member =>
      (below child member).mono fun _ => .insert inside inserted
    exact ⟨.head (.insert inside (.inr shown) inserted) steps,
      fun other shown => kept other (shown.insert inside inserted)⟩

theorem copyAll_steps {arena grown : Arena} {parent : Nat} :
    (trees : List Subtree) → arena.copyAll parent trees = .ok grown → parent < arena.size →
      (∀ tree ∈ trees, tree.All arena.Shows) →
      Steps arena grown ∧ ∀ content, arena.Shows content → grown.Shows content
  | [], copied, _, _ => by
    rw [copyAll] at copied
    cases copied
    exact ⟨.refl, fun _ shown => shown⟩
  | tree :: rest, copied, inside, shown => by
    rw [copyAll, bind_ok_iff] at copied
    obtain ⟨middle, first, later⟩ := copied
    obtain ⟨steps, kept⟩ := copy_steps tree first inside (shown tree List.mem_cons_self)
    obtain ⟨more, still⟩ := copyAll_steps rest later (Nat.lt_of_lt_of_le inside steps.size_le)
      fun other member => (shown other (List.mem_cons_of_mem _ member)).mono kept
    exact ⟨steps.trans more, fun content shown => still content (kept content shown)⟩

end

end Arena

namespace RouteTree

open Arena

theorem insert_fresh {arena grown : Arena} {parent made : Nat} {content : NodeContent}
    (inside : parent < arena.size) (fresh : content.Fresh)
    (inserted : arena.insert parent content = .ok (grown, made)) :
    Steps arena grown ∧ made < grown.size := by
  refine ⟨.single (.insert inside (.inl fresh) inserted), ?_⟩
  rw [made_insert inserted, size_insert inserted]
  exact Nat.lt_succ_self _

theorem placeLeaf_steps {arena grown : Arena} {parent : Nat} {spec : SpecNode} {kind : NodeKind}
    (segmentless : kind.pattern? = none) (testless : ∀ source subject, kind ≠ .test source subject)
    (inside : parent < arena.size) (placed : placeLeaf arena parent spec kind = .ok grown) :
    Steps arena grown := by
  obtain ⟨-, made, inserted⟩ := placeLeaf_ok_iff.mp placed
  exact (insert_fresh inside (.plain segmentless testless) inserted).1

theorem placeSegments_steps {arena grown : Arena} {parent last : Nat} {id : Option String}
    {patterns : List Pattern} (arise : ∀ pattern ∈ patterns, pattern.Arises)
    (inside : parent < arena.size)
    (placed : placeSegments arena parent id patterns = .ok (grown, last)) :
    Steps arena grown ∧ last < grown.size := by
  induction patterns generalizing arena parent with
  | nil => exact insert_fresh inside (.plain rfl (by simp)) placed
  | cons pattern rest ih =>
    cases rest with
    | nil => exact insert_fresh inside (.segment (arise pattern List.mem_cons_self) id) placed
    | cons next later =>
      rw [placeSegments, bind_ok_iff] at placed
      · obtain ⟨⟨middle, made⟩, inserted, more⟩ := placed
        obtain ⟨first, there⟩ :=
          insert_fresh inside (.segment (arise pattern List.mem_cons_self) none) inserted
        obtain ⟨steps, below⟩ :=
          ih (fun pattern member => arise pattern (List.mem_cons_of_mem _ member)) there more
        exact ⟨first.trans steps, below⟩
      · simp

theorem placeReference_steps {blocks : Blocks} {arena grown : Arena} {parent : Nat}
    {spec : SpecNode} (inside : parent < arena.size)
    (placed : placeReference blocks arena parent spec = .ok grown) : Steps arena grown := by
  obtain ⟨-, -, block, -, copied⟩ := placeReference_ok_iff.mp placed
  have bound := setValues_steps arena parent (arena.node block).values
  have shown : ∀ tree ∈ ((arena.setValues (arena.scopeOwner parent)
      (arena.node block).values).subtree block).children, tree.All
        (arena.setValues (arena.scopeOwner parent) (arena.node block).values).Shows :=
    (subtreeFrom_all _ _ block).children
  exact bound.trans (copyAll_steps _ copied (Nat.lt_of_lt_of_le inside bound.size_le) shown).1

theorem placeArgument_steps {arena grown : Arena} {parent : Nat} {spec : SpecNode}
    (inside : parent < arena.size) (placed : placeArgument arena parent spec = .ok grown) :
    Steps arena grown := by
  rw [placeArgument] at placed
  split at placed
  · exact placeLeaf_steps rfl (by simp) inside placed
  · simp only [bind_ok_iff, pure_ok_iff] at placed
    obtain ⟨name, -, rfl⟩ := placed
    exact .single (.bind arena parent name _)

theorem placeCall_steps {arena grown : Arena} {parent : Nat} {spec : SpecNode}
    (inside : parent < arena.size) (placed : placeCall arena parent spec = .ok grown) :
    Steps arena grown := by
  obtain ⟨-, middle, call, inserted, added⟩ := placeCall_ok_iff.mp placed
  obtain ⟨first, there⟩ := insert_fresh inside (.plain rfl (by simp)) inserted
  refine first.trans ?_
  clear first inserted
  -- The arguments follow one after another, so this is an induction on what is left of them.
  generalize spec.children = children at added
  induction children generalizing middle with
  | nil =>
    cases added
    exact .refl
  | cons child rest ih =>
    rw [List.foldlM_cons, bind_ok_iff] at added
    obtain ⟨next, one, more⟩ := added
    split at one
    · have steps := placeArgument_steps there one
      exact steps.trans (ih next (Nat.lt_of_lt_of_le there steps.size_le) more)
    · cases one

theorem placeSwitch_steps {arena grown : Arena} {parent switch : Nat} {spec : SpecNode}
    (inside : parent < arena.size)
    (placed : placeSwitch arena parent spec = .ok (grown, switch)) :
    Steps arena grown ∧ switch < grown.size := by
  simp only [placeSwitch, bind_ok_iff] at placed
  obtain ⟨⟨middle, made⟩, inserted, placed⟩ := placed
  obtain ⟨first, there⟩ := insert_fresh inside (.plain rfl (by simp)) inserted
  have unsettled : (middle.node made).kind = .switch none := by
    rw [made_insert inserted, node_insert inside inserted, if_pos rfl]
  have settled (value : String) := first.tail (.settle unsettled value)
  split at placed
  next value given =>
    cases placed
    exact ⟨settled value, by simpa using there⟩
  next =>
    split at placed
    · cases placed
    next holder _ =>
      split at placed
      · cases placed
        exact ⟨settled _, by simpa using there⟩
      next call _ _ =>
        split at placed
        · simp only [bind_ok_iff, pure_ok_iff] at placed
          obtain ⟨after, called, equal⟩ := placed
          cases equal
          have steps := placeCall_steps there called
          exact ⟨first.trans steps, Nat.lt_of_lt_of_le there steps.size_le⟩
        · cases placed

theorem placeTest_steps {arena grown : Arena} {parent test : Nat} {spec : SpecNode}
    (inside : parent < arena.size) (placed : placeTest arena parent spec = .ok (grown, test)) :
    Steps arena grown ∧ test < grown.size := by
  obtain ⟨content, read, inserted⟩ := placeTest_ok_iff.mp placed
  obtain ⟨source, -, regex, compiled, rfl⟩ := testContent?_iff.mp read
  exact insert_fresh inside (.test compiled) inserted

theorem placePath_steps {arena grown : Arena} {parent path : Nat} {spec : SpecNode}
    (inside : parent < arena.size) (placed : placePath arena parent spec = .ok (grown, path)) :
    Steps arena grown ∧ path < grown.size := by
  obtain ⟨patterns, read, placed⟩ := placePath_ok_iff.mp placed
  exact placeSegments_steps (pathPatterns_arise read) inside placed

theorem placeSimple_steps {arena grown : Arena} {parent : Nat} {spec : SpecNode}
    (inside : parent < arena.size) (placed : placeSimple arena parent spec = .ok grown) :
    Steps arena grown := by
  rw [placeSimple] at placed
  split at placed
  · obtain ⟨name, -, placed⟩ := bind_ok_iff.mp placed
    exact placeLeaf_steps rfl (by simp) inside placed
  · exact placeArgument_steps inside placed
  · exact placeLeaf_steps rfl (by simp) inside placed
  · exact placeCall_steps inside placed
  · cases placed

mutual

theorem buildNode_steps {blocks known : Blocks} {arena grown : Arena} {parent : Nat} :
    (spec : SpecNode) → buildNode blocks arena parent spec = .ok (known, grown) →
      parent < arena.size → Steps arena grown
  | ⟨kind, attributes, text, children⟩, built, inside => by
    cases kind with
    | block =>
      obtain ⟨name, -, body, -⟩ := buildNode_block_iff.mp built
      exact .head (.block arena name) (buildChildren_steps children body (by simp))
    | ref => exact placeReference_steps inside (buildNode_ref_iff.mp built).1
    | path =>
      obtain ⟨middle, path, placed, body, -⟩ := buildNode_path_iff.mp built
      obtain ⟨steps, there⟩ := placePath_steps inside placed
      exact steps.trans (buildChildren_steps children body there)
    | switch =>
      obtain ⟨middle, switch, placed, body, -⟩ := buildNode_switch_iff.mp built
      obtain ⟨steps, there⟩ := placeSwitch_steps inside placed
      exact steps.trans (buildCases_steps children body there)
    | test =>
      obtain ⟨middle, test, placed, body, -⟩ := buildNode_test_iff.mp built
      obtain ⟨steps, there⟩ := placeTest_steps inside placed
      exact steps.trans (buildChildren_steps children body there)
    | parameter =>
      -- a declaration has been applied with the path around it and makes nothing
      obtain ⟨-, -, rfl⟩ := buildNode_parameter_iff.mp built
      exact .refl
    | set | arg | «return» | call =>
      exact placeSimple_steps inside ((buildNode_simple_iff (by simp)).mp built).1
    | _ => simp [buildNode, unexpected] at built

theorem buildChildren_steps {blocks : Blocks} {arena grown : Arena} {parent : Nat} :
    (children : List SpecNode) → buildChildren blocks arena parent children = .ok grown →
      parent < arena.size → Steps arena grown
  | [], built, _ => by
    rw [buildChildren] at built
    cases built
    exact .refl
  | child :: rest, built, inside => by
    obtain ⟨known, middle, first, later⟩ := buildChildren_cons_iff.mp built
    have steps := buildNode_steps child first inside
    exact steps.trans (buildChildren_steps rest later (Nat.lt_of_lt_of_le inside steps.size_le))

theorem buildCases_steps {blocks : Blocks} {hasDefault : Bool} {arena grown : Arena}
    {switch : Nat} :
    (children : List SpecNode) → buildCases blocks hasDefault arena switch children = .ok grown →
      switch < arena.size → Steps arena grown
  | [], built, _ => by
    rw [buildCases] at built
    cases built
    exact .refl
  | ⟨kind, attributes, text, children⟩ :: rest, built, inside => by
    cases kind with
    | value => exact buildCases_steps rest (buildCases_value ▸ built) inside
    | case =>
      obtain ⟨value, -, middle, case, inserted, after, body, later⟩ :=
        buildCases_case_iff.mp built
      obtain ⟨first, there⟩ := insert_fresh inside (.plain rfl (by simp)) inserted
      have steps : Steps arena after := first.trans (buildChildren_steps children body there)
      exact steps.trans (buildCases_steps rest later (Nat.lt_of_lt_of_le inside steps.size_le))
    | default =>
      obtain ⟨-, middle, case, inserted, after, body, later⟩ := buildCases_default_iff.mp built
      obtain ⟨first, there⟩ := insert_fresh inside (.plain rfl (by simp)) inserted
      have steps : Steps arena after := first.trans (buildChildren_steps children body there)
      exact steps.trans (buildCases_steps rest later (Nat.lt_of_lt_of_le inside steps.size_le))
    | _ => simp [buildCases, unexpected] at built

end

/-- The arena of a document is reached in steps from the arena of its root alone. -/
theorem build_steps {spec : SpecNode} {tree : RouteTree} (built : build spec = .ok tree) :
    Steps .start tree.arena := by
  obtain ⟨-, body, -⟩ := build_ok_iff.mp built
  exact buildChildren_steps spec.children body (by simp [root])

end RouteTree

end Signpost

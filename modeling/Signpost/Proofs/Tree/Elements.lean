import Signpost.Proofs.Tree.Nodes

/-!
# Elements that have been built

What it takes to build an element of each kind. Inductions over the elements of a document go along these
statements and do not take the builder apart themselves.
-/
namespace Signpost.RouteTree

open Arena

variable {blocks found : Blocks} {arena grown : Arena} {place made : Nat} {spec : SpecNode}

/-! ### What an element makes itself -/

theorem requireAttribute_ok_iff {name value : String} :
    requireAttribute spec name = .ok value ↔ spec.attribute? name = some value := by
  rw [requireAttribute]
  split
  next found => simp [found]
  next missing => simp [missing]

theorem placeLeaf_ok_iff {kind : NodeKind} :
    placeLeaf arena place spec kind = .ok grown ↔ spec.children = [] ∧
      ∃ made, arena.insert place { kind } = .ok (grown, made) := by
  rw [placeLeaf]
  split
  next there => simp [there]
  next none =>
    simp only [none, true_and, bind_ok_iff, pure_ok_iff, Prod.exists]
    constructor
    · rintro ⟨middle, made, inserted, rfl⟩
      exact ⟨made, inserted⟩
    · rintro ⟨made, inserted⟩
      exact ⟨grown, made, inserted, rfl⟩

theorem placePath_ok_iff :
    placePath arena place spec = .ok (grown, made) ↔ ∃ patterns, pathPatterns spec = .ok patterns ∧
      placeSegments arena place (spec.attribute? "id") patterns = .ok (grown, made) :=
  bind_ok_iff

/-- A reference binds the values of its block first and copies its children then. -/
theorem placeReference_ok_iff :
    placeReference blocks arena place spec = .ok grown ↔
      ∃ name, spec.attribute? "name" = some name ∧ ∃ block, blocks.lookup name = some block ∧
        (arena.setValues (arena.scopeOwner place) (arena.node block).values).copyAll place
          ((arena.setValues (arena.scopeOwner place) (arena.node block).values).subtree
            block).children = .ok grown := by
  rw [placeReference, bind_ok_iff]
  simp only [requireAttribute_ok_iff]
  refine exists_congr fun name => and_congr_right fun _ => ?_
  split
  next unknown => simp [unknown]
  next block known =>
    rw [known]
    simp only [Option.some.injEq, exists_eq_left']
    rfl

theorem placeCall_ok_iff :
    placeCall arena place spec = .ok grown ↔
      (Text.trim ((spec.attributeOrText? "function").getD "")).isEmpty = false ∧
      ∃ middle call, arena.insert place {
          kind := .call (Text.trim ((spec.attributeOrText? "function").getD ""))
            (((spec.attribute? "with").map splitArguments).getD []) } = .ok (middle, call) ∧
        spec.children.foldlM (fun arena child =>
          if child.kind = .arg then placeArgument arena call child
          else unexpected arena child call) middle = .ok grown := by
  rw [placeCall]
  split
  next unnamed => simp [unnamed]
  next named => simp only [bind_ok_iff, Prod.exists, named, true_and]

def testContent? (spec : SpecNode) : Option NodeContent :=
  (spec.attribute? "pattern").bind fun pattern =>
    (Regex.compile? pattern).map fun regex =>
      let names := (List.range (regex.groupCount + 1)).map toString ++ regex.groupNames
      { kind := .test pattern ((spec.attribute? "subject").getD ""), localVars := names.eraseDups }

theorem testContent?_iff {spec : SpecNode} {content : NodeContent} :
    testContent? spec = some content ↔ ∃ pattern, spec.attribute? "pattern" = some pattern ∧
      ∃ regex, Regex.compile? pattern = some regex ∧
        { kind := .test pattern ((spec.attribute? "subject").getD "")
          localVars := ((List.range (regex.groupCount + 1)).map toString
            ++ regex.groupNames).eraseDups } = content := by
  rw [testContent?]
  simp only [Option.bind_eq_some_iff, Option.map_eq_some_iff]

theorem placeTest_ok_iff :
    placeTest arena place spec = .ok (grown, made) ↔
      ∃ content, testContent? spec = some content ∧
        arena.insert place content = .ok (grown, made) := by
  simp only [placeTest, bind_ok_iff, requireAttribute_ok_iff, testContent?_iff]
  constructor
  · rintro ⟨pattern, named, placed⟩
    split at placed
    · cases placed
    next regex compiled => exact ⟨_, ⟨pattern, named, regex, compiled, rfl⟩, placed⟩
  · rintro ⟨_, ⟨pattern, named, regex, compiled, rfl⟩, inserted⟩
    refine ⟨pattern, named, ?_⟩
    rw [compiled]
    exact inserted

/-- An element that does not contain others to be built. -/
def placeSimple (arena : Arena) (place : Nat) (spec : SpecNode) : Except TreeError Arena :=
  match spec.kind with
  | .set => do
    let name ← requireAttribute spec "name"
    placeLeaf arena place spec (.set name ((spec.attributeOrText? "value").getD ""))
  | .arg => placeArgument arena place spec
  | .return => placeLeaf arena place spec (.return spec.attributes)
  | .call => placeCall arena place spec
  | _ => unexpected arena spec place

/-! ### One element -/

section

variable {attributes : Attributes} {text : Option String} {children rest : List SpecNode}
  {hasDefault : Bool}

/-- What has been built is handed on with the blocks that are known behind it. -/
theorem handOn_ok_iff {result : Except TreeError Arena} :
    (do return (blocks, ← result) : Except TreeError (Blocks × Arena)) = .ok (found, grown) ↔
      result = .ok grown ∧ blocks = found := by
  simp only [bind_ok_iff, pure_ok_iff, Prod.mk.injEq]
  constructor
  · rintro ⟨_, built, rfl, rfl⟩
    exact ⟨built, rfl⟩
  · rintro ⟨built, rfl⟩
    exact ⟨grown, built, rfl, rfl⟩

theorem buildNode_block_iff :
    buildNode blocks arena place ⟨.block, attributes, text, children⟩ = .ok (found, grown) ↔
      ∃ name, attributes.get? "name" = some name ∧
        buildChildren blocks (arena.alloc { kind := .block name }).1 arena.size children
          = .ok grown ∧ (name, arena.size) :: blocks = found := by
  refine bind_ok_iff.trans ?_
  simp only [requireAttribute_ok_iff, SpecNode.attribute?]
  exact exists_congr fun name => and_congr_right fun _ => handOn_ok_iff

theorem buildNode_ref_iff :
    buildNode blocks arena place ⟨.ref, attributes, text, children⟩ = .ok (found, grown) ↔
      placeReference blocks arena place ⟨.ref, attributes, text, children⟩ = .ok grown ∧
        blocks = found :=
  handOn_ok_iff

theorem buildNode_path_iff :
    buildNode blocks arena place ⟨.path, attributes, text, children⟩ = .ok (found, grown) ↔
      ∃ middle path, placePath arena place ⟨.path, attributes, text, children⟩
          = .ok (middle, path) ∧
        buildChildren blocks middle path children = .ok grown ∧ blocks = found := by
  refine bind_ok_iff.trans ?_
  simp only [handOn_ok_iff, Prod.exists]

theorem buildNode_switch_iff :
    buildNode blocks arena place ⟨.switch, attributes, text, children⟩ = .ok (found, grown) ↔
      ∃ middle switch, placeSwitch arena place ⟨.switch, attributes, text, children⟩
          = .ok (middle, switch) ∧
        buildCases blocks false middle switch children = .ok grown ∧ blocks = found := by
  refine bind_ok_iff.trans ?_
  simp only [handOn_ok_iff, Prod.exists]

theorem buildNode_test_iff :
    buildNode blocks arena place ⟨.test, attributes, text, children⟩ = .ok (found, grown) ↔
      ∃ middle test, placeTest arena place ⟨.test, attributes, text, children⟩
          = .ok (middle, test) ∧
        buildChildren blocks middle test children = .ok grown ∧ blocks = found := by
  refine bind_ok_iff.trans ?_
  simp only [handOn_ok_iff, Prod.exists]

theorem buildNode_parameter_iff :
    buildNode blocks arena place ⟨.parameter, attributes, text, children⟩ = .ok (found, grown) ↔
      (arena.node place).kind.pattern?.isSome ∧ blocks = found ∧ arena = grown := by
  change (if (arena.node place).kind.pattern?.isSome then pure (blocks, arena) else _) = _ ↔ _
  split <;> simp_all [unexpected, pure_ok_iff]

theorem buildNode_simple_iff {kind : SpecKind}
    (simple : kind = .set ∨ kind = .arg ∨ kind = .return ∨ kind = .call) :
    buildNode blocks arena place ⟨kind, attributes, text, children⟩ = .ok (found, grown) ↔
      placeSimple arena place ⟨kind, attributes, text, children⟩ = .ok grown ∧ blocks = found := by
  have same : buildNode blocks arena place ⟨kind, attributes, text, children⟩
      = placeSimple arena place ⟨kind, attributes, text, children⟩ >>= fun grown =>
          pure (blocks, grown) := by
    rcases simple with rfl | rfl | rfl | rfl
    · rw [buildNode, placeSimple, bind_assoc]
    all_goals rw [buildNode, placeSimple]
  rw [same, handOn_ok_iff]

theorem buildChildren_cons_iff :
    buildChildren blocks arena place (spec :: rest) = .ok grown ↔
      ∃ found middle, buildNode blocks arena place spec = .ok (found, middle) ∧
        buildChildren found middle place rest = .ok grown := by
  refine bind_ok_iff.trans ?_
  simp only [Prod.exists]

theorem buildCases_value :
    buildCases blocks hasDefault arena place (⟨.value, attributes, text, children⟩ :: rest)
      = buildCases blocks hasDefault arena place rest :=
  rfl

theorem buildCases_case_iff :
    buildCases blocks hasDefault arena place (⟨.case, attributes, text, children⟩ :: rest)
        = .ok grown ↔
      ∃ value, SpecNode.attributeOrText? ⟨.case, attributes, text, children⟩ "value" = some value ∧
        ∃ middle case, arena.insert place { kind := .case value } = .ok (middle, case) ∧
          ∃ after, buildChildren blocks middle case children = .ok after ∧
            buildCases blocks hasDefault after place rest = .ok grown := by
  rw [buildCases]
  split
  next missing => simp [missing]
  next value read => simp only [read, bind_ok_iff, Prod.exists, Option.some.injEq, exists_eq_left']

theorem buildCases_default_iff :
    buildCases blocks hasDefault arena place (⟨.default, attributes, text, children⟩ :: rest)
        = .ok grown ↔
      hasDefault = false ∧
        ∃ middle default, arena.insert place { kind := .default } = .ok (middle, default) ∧
          ∃ after, buildChildren blocks middle default children = .ok after ∧
            buildCases blocks true after place rest = .ok grown := by
  rw [buildCases]
  cases hasDefault with
  | true => simp [unexpected]
  | false =>
    simp only [Bool.false_eq_true, if_false, bind_ok_iff, Prod.exists, true_and]

end

/-! ### Documents -/

theorem build_ok_iff {tree : RouteTree} :
    build spec = .ok tree ↔ spec.kind = .router ∧
      buildChildren [] .start root spec.children = .ok tree.arena ∧
      RouteTable.collect {} [] (tree.arena.subtree root) = .ok tree.routes := by
  rw [build]
  split
  next router =>
    simp only [bind_ok_iff, pure_ok_iff, router, true_and]
    constructor
    · rintro ⟨arena, built, routes, collected, rfl⟩
      exact ⟨built, collected⟩
    · rintro ⟨built, collected⟩
      exact ⟨tree.arena, built, tree.routes, collected, rfl⟩
  next other => simp [other]

end Signpost.RouteTree

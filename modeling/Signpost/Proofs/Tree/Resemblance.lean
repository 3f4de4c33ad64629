import Signpost.Proofs.Tree.Shifting

/-!
# Elements that are read alike

Where literal paths have been moved, everything that is read off the elements around them is read as
before: the parameters that are declared, the arguments of calls, the values of switches. What elements
with bodies yield is shifted like the elements themselves. Either document may be rejected, so two
results are compared only where there are two.
-/
namespace Signpost

/-- Two results stand in a relation if both are there. -/
def Related {α β : Type} (relation : α → β → Prop) (first : Option α) (second : Option β) : Prop :=
  ∀ result other, first = some result → second = some other → relation result other

theorem Related.of_eq {α : Type} {relation : α → α → Prop} {first second : Option α}
    (reflexive : ∀ result, relation result result) (same : second = first) :
    Related relation first second := by
  intro result other there there'
  rw [same, there] at there'
  cases there'
  exact reflexive result

namespace RouteTree

open SpecNode Text

/-! ### Elements that are read -/

/-- The value of a switch that its value element holds. -/
def heldValue? (text : Option String) : List SpecNode → Option (Option String × List Shape)
  | [] => some (some (text.getD ""), [])
  | call :: _ => if call.kind = .call then (callShape? call).map fun shape => (none, [shape]) else none

/-- The value of a switch that its first value element holds. -/
def switchValue? (children : List SpecNode) : Option (Option String × List Shape) :=
  (children.find? fun child => child.kind = .value).bind fun holder =>
    heldValue? holder.text holder.children

theorem settle?_eq (spec : SpecNode) :
    settle? spec = match spec.attribute? "value" with
      | some value => some (some value, [])
      | none => switchValue? spec.children := by
  rw [settle?]
  cases spec.attribute? "value" with
  | some value => rfl
  | none =>
    rw [switchValue?]
    cases spec.children.find? fun child => child.kind = .value with
    | none => rfl
    | some holder =>
      obtain ⟨_, _, _, children⟩ := holder
      cases children <;> rfl

/-- What a case comes to, and whether there is a default behind it. -/
def elaborateCase (known : Yields) (hasDefault : Bool) (spec : SpecNode) :
    Option (Bool × List Shape) :=
  match spec.kind with
  | .value => some (hasDefault, [])
  | .case => do
    let value ← spec.attributeOrText? "value"
    let body ← elaborateAll known false spec.children
    return (hasDefault, (nodeYield { kind := .case value } body).shapes)
  | .default =>
    if hasDefault then none
    else do
      let body ← elaborateAll known false spec.children
      return (true, (nodeYield { kind := .default } body).shapes)
  | _ => none

theorem elaborateCases_cons (known : Yields) (hasDefault : Bool) (spec : SpecNode)
    (rest : List SpecNode) :
    elaborateCases known hasDefault (spec :: rest) = do
      let (hasDefault, here) ← elaborateCase known hasDefault spec
      return here ++ (← elaborateCases known hasDefault rest) := by
  obtain ⟨kind, attributes, text, children⟩ := spec
  cases kind with
  | case | default => cases hasDefault <;> simp [elaborateCases, elaborateCase, Option.bind_assoc]
  | _ => simp [elaborateCases, elaborateCase]

/-- Elements that are read alike, wherever they stand. -/
structure Resemble (spec other : SpecNode) : Prop where
  kind : other.kind = spec.kind
  attributes : other.attributes = spec.attributes
  argument : Related Eq (argumentShape? spec) (argumentShape? other)
  call : Related Eq (callShape? spec) (callShape? other)
  held : Related Eq (heldValue? spec.text spec.children) (heldValue? other.text other.children)
  element : spec.Plain → ∀ known declares, Related
    (fun result result' => result'.1 = result.1 ∧ result.2.Shifted result'.2)
    (elaborate known declares spec) (elaborate known declares other)
  case : spec.Plain → ∀ known hasDefault, Related
    (fun result result' => result'.1 = result.1 ∧ Shape.Shifted result.2 result'.2)
    (elaborateCase known hasDefault spec) (elaborateCase known hasDefault other)

/-- Elements in a row that are read alike, whatever they are the children of. -/
structure ResembleAll (children others : List SpecNode) : Prop where
  empty : others.isEmpty = children.isEmpty
  parameters : ∀ route patterns,
    (others.filter fun child => child.kind = .parameter).foldlM (applyDeclaration route) patterns
      = (children.filter fun child => child.kind = .parameter).foldlM (applyDeclaration route) patterns
  arguments : Related Eq (children.mapM argumentShape?) (others.mapM argumentShape?)
  held : ∀ text, Related Eq (heldValue? text children) (heldValue? text others)
  value : Related Eq (switchValue? children) (switchValue? others)
  body : (∀ child ∈ children, child.Plain) → ∀ known declares, Related Yield.Shifted
    (elaborateAll known declares children) (elaborateAll known declares others)
  cases : (∀ child ∈ children, child.Plain) → ∀ known hasDefault, Related Shape.Shifted
    (elaborateCases known hasDefault children) (elaborateCases known hasDefault others)

/-! ### An element and its children -/

section

variable {children others : List SpecNode} (resemble : ResembleAll children others)

include resemble

theorem pathPatterns_resemble (kind : SpecKind) (attributes : Attributes) (text : Option String) :
    pathPatterns ⟨kind, attributes, text, others⟩
      = pathPatterns ⟨kind, attributes, text, children⟩ := by
  simp only [pathPatterns, resemble.parameters]
  rfl

theorem argumentShape?_resemble (kind : SpecKind) (attributes : Attributes) (text : Option String) :
    argumentShape? ⟨kind, attributes, text, others⟩
      = argumentShape? ⟨kind, attributes, text, children⟩ := by
  simp only [argumentShape?, resemble.empty]
  rfl

theorem callShape?_resemble (kind : SpecKind) (attributes : Attributes) (text : Option String) :
    Related Eq (callShape? ⟨kind, attributes, text, children⟩)
      (callShape? ⟨kind, attributes, text, others⟩) := by
  intro shape shape' done done'
  -- both calls have the same name, so both are there or both are refused
  rw [callShape?] at done done'
  split at done
  · cases done
  · split at done'
    · cases done'
    · obtain ⟨arguments, all, rfl⟩ := Option.map_eq_some_iff.mp done
      obtain ⟨arguments', all', rfl⟩ := Option.map_eq_some_iff.mp done'
      rw [resemble.arguments _ _ all all']
      rfl

theorem settle?_resemble (kind : SpecKind) (attributes : Attributes) (text : Option String) :
    Related Eq (settle? ⟨kind, attributes, text, children⟩)
      (settle? ⟨kind, attributes, text, others⟩) := by
  intro settled settled' done done'
  rw [settle?_eq, SpecNode.attribute?] at done done'
  dsimp only at done done'
  cases stated : attributes.get? "value" with
  | some value =>
    rw [stated] at done done'
    cases done
    cases done'
    rfl
  | none =>
    rw [stated] at done done'
    exact resemble.value _ _ done done'

theorem simpleYield?_resemble (kind : SpecKind) (attributes : Attributes) (text : Option String) :
    Related Eq (simpleYield? ⟨kind, attributes, text, children⟩)
      (simpleYield? ⟨kind, attributes, text, others⟩) := by
  intro yield yield' done done'
  cases kind with
  | call =>
    rw [simpleYield?, Option.map_eq_some_iff] at done done'
    obtain ⟨shape, called, rfl⟩ := done
    obtain ⟨shape', called', rfl⟩ := done'
    rw [callShape?_resemble resemble _ _ _ _ _ called called']
  | _ =>
    simp only [simpleYield?, resemble.empty, attributeOrText?, attribute?] at done done'
    exact Option.some.inj (done.symm.trans done')

theorem elaborate_resemble {kind : SpecKind} {attributes : Attributes} {text : Option String}
    (plain : (⟨kind, attributes, text, children⟩ : SpecNode).Plain) (known : Yields)
    (declares : Bool) : Related
      (fun result result' => result'.1 = result.1 ∧ result.2.Shifted result'.2)
      (elaborate known declares ⟨kind, attributes, text, children⟩)
      (elaborate known declares ⟨kind, attributes, text, others⟩) := by
  rintro ⟨found, yield⟩ ⟨found', yield'⟩ done done'
  have below (value : kind ≠ .value) (parameter : kind ≠ .parameter) :=
    plain.children value parameter
  cases kind with
  | block => exact absurd rfl plain.solid
  | path =>
    obtain ⟨patterns, read, body, inside, rfl, rfl⟩ := elaborate_path_iff.mp done
    obtain ⟨patterns', read', body', inside', rfl, rfl⟩ := elaborate_path_iff.mp done'
    -- the segments depend on the declarations only, and those are the same
    rw [pathPatterns_resemble resemble, read] at read'
    cases read'
    have shifted := resemble.body (below (by simp) (by simp)) _ _ _ _ inside inside'
    exact ⟨rfl, segmentsYield_shifted _ shifted patterns⟩
  | switch =>
    obtain ⟨settled, read, cases_, inside, rfl, rfl⟩ := elaborate_switch_iff.mp done
    obtain ⟨settled', read', cases', inside', rfl, rfl⟩ := elaborate_switch_iff.mp done'
    rw [← settle?_resemble resemble _ _ _ _ _ read read']
    have shifted := resemble.cases (below (by simp) (by simp)) _ _ _ _ inside inside'
    exact ⟨rfl, switchYield_shifted _ shifted⟩
  | test =>
    obtain ⟨content, read, body, inside, rfl, rfl⟩ := elaborate_test_iff.mp done
    obtain ⟨content', read', body', inside', rfl, rfl⟩ := elaborate_test_iff.mp done'
    have same : content' = content := Option.some.inj (read'.symm.trans read)
    rw [same]
    have shifted := resemble.body (below (by simp) (by simp)) _ _ _ _ inside inside'
    exact ⟨rfl, nodeYield_shifted _ shifted⟩
  | ref | parameter =>
    rw [elaborate] at done done'
    cases done.symm.trans done'
    exact ⟨rfl, .refl _⟩
  | set | arg | «return» | call =>
    obtain ⟨read, rfl⟩ := (elaborate_simple_iff (by simp)).mp done
    obtain ⟨read', rfl⟩ := (elaborate_simple_iff (by simp)).mp done'
    rw [simpleYield?_resemble resemble _ _ _ _ _ read read']
    exact ⟨rfl, .refl _⟩
  | _ =>
    rw [elaborate] at done
    cases done

theorem elaborateCase_resemble {kind : SpecKind} {attributes : Attributes} {text : Option String}
    (plain : (⟨kind, attributes, text, children⟩ : SpecNode).Plain) (known : Yields)
    (hasDefault : Bool) : Related
      (fun result result' => result'.1 = result.1 ∧ Shape.Shifted result.2 result'.2)
      (elaborateCase known hasDefault ⟨kind, attributes, text, children⟩)
      (elaborateCase known hasDefault ⟨kind, attributes, text, others⟩) := by
  rintro ⟨found, shapes⟩ ⟨found', shapes'⟩ done done'
  have below (value : kind ≠ .value) (parameter : kind ≠ .parameter) :=
    plain.children value parameter
  cases kind with
  | value =>
    cases done
    cases done'
    exact ⟨rfl, .refl _⟩
  | case =>
    simp only [elaborateCase, Option.bind_eq_bind, Option.bind_eq_some_iff, Option.pure_def,
      Option.some.injEq, Prod.mk.injEq] at done done'
    obtain ⟨value, read, body, inside, rfl, rfl⟩ := done
    obtain ⟨value', read', body', inside', rfl, rfl⟩ := done'
    have same : value' = value := Option.some.inj (read'.symm.trans read)
    rw [same]
    have shifted := resemble.body (below (by simp) (by simp)) _ _ _ _ inside inside'
    exact ⟨rfl, (nodeYield_shifted _ shifted).shapes⟩
  | default =>
    rw [elaborateCase] at done done'
    dsimp only at done done'
    split at done
    · cases done
    next first =>
      rw [if_neg first] at done'
      simp only [Option.bind_eq_bind, Option.bind_eq_some_iff, Option.pure_def,
        Option.some.injEq, Prod.mk.injEq] at done done'
      obtain ⟨body, inside, rfl, rfl⟩ := done
      obtain ⟨body', inside', rfl, rfl⟩ := done'
      have shifted := resemble.body (below (by simp) (by simp)) _ _ _ _ inside inside'
      exact ⟨rfl, (nodeYield_shifted _ shifted).shapes⟩
  | _ => cases done

/-- An element is read like another one with the same content if its children are read like those of the
other one. -/
theorem ResembleAll.node (kind : SpecKind) (attributes : Attributes) (text : Option String) :
    Resemble ⟨kind, attributes, text, children⟩ ⟨kind, attributes, text, others⟩ where
  kind := rfl
  attributes := rfl
  argument := .of_eq (fun _ => rfl) (argumentShape?_resemble resemble _ _ _)
  call := callShape?_resemble resemble _ _ _
  held := resemble.held text
  element := elaborate_resemble resemble
  case := elaborateCase_resemble resemble

end

/-! ### Elements in a row -/

theorem applyDeclaration_congr {spec other : SpecNode} (kind : other.kind = spec.kind)
    (attributes : other.attributes = spec.attributes) (route : String) (patterns : List Pattern) :
    applyDeclaration route patterns other = applyDeclaration route patterns spec := by
  have declare : declareInPattern other = declareInPattern spec := by
    funext name pattern
    simp only [declareInPattern, declareParameter, attribute?, attributes]
  simp only [applyDeclaration, requireAttribute, attribute?, kind, attributes, declare]

/-- Elements behind the same element. -/
theorem ResembleAll.cons {children others : List SpecNode} (resemble : ResembleAll children others)
    (spec : SpecNode) : ResembleAll (spec :: children) (spec :: others) where
  empty := rfl
  parameters := by
    intro route patterns
    rw [List.filter_cons, List.filter_cons]
    split
    · rw [List.foldlM_cons, List.foldlM_cons]
      exact bind_congr fun patterns => resemble.parameters route patterns
    · exact resemble.parameters route patterns
  arguments := by
    intro shapes shapes' done done'
    simp only [List.mapM_cons, Option.bind_eq_bind, Option.bind_eq_some_iff, Option.pure_def,
      Option.some.injEq] at done done'
    obtain ⟨shape, here, more, later, rfl⟩ := done
    obtain ⟨shape', here', more', later', rfl⟩ := done'
    rw [resemble.arguments more more' later later', Option.some.inj (here.symm.trans here')]
  held := fun text => .of_eq (fun _ => rfl) rfl
  value := by
    rw [switchValue?, switchValue?, List.find?_cons, List.find?_cons]
    split
    · exact .of_eq (fun _ => rfl) rfl
    · exact resemble.value
  body := by
    intro plain known declares yield yield' done done'
    obtain ⟨found, first, here, rest, later, rfl⟩ := elaborateAll_cons_iff.mp done
    obtain ⟨found', first', here', rest', later', rfl⟩ := elaborateAll_cons_iff.mp done'
    -- the first element is the same on both sides, and so is what is known behind it
    cases here.symm.trans here'
    have plain := fun child member => plain child (List.mem_cons_of_mem spec member)
    exact (resemble.body plain found declares rest rest' later later').append_right first
  cases := by
    intro plain known hasDefault shapes shapes' done done'
    simp only [elaborateCases_cons, Option.bind_eq_bind, Option.bind_eq_some_iff, Option.pure_def,
      Option.some.injEq, Prod.exists] at done done'
    obtain ⟨found, first, here, rest, later, rfl⟩ := done
    obtain ⟨found', first', here', rest', later', rfl⟩ := done'
    cases here.symm.trans here'
    have plain := fun child member => plain child (List.mem_cons_of_mem spec member)
    simpa using (resemble.cases plain _ _ rest rest' later later').frame first []

/-- Elements that are read alike in front of the same elements. -/
theorem Resemble.among {child other : SpecNode} (resemble : Resemble child other)
    (back : List SpecNode) : ResembleAll (child :: back) (other :: back) where
  empty := rfl
  parameters := by
    intro route patterns
    rw [List.filter_cons, List.filter_cons, resemble.kind]
    split
    · rw [List.foldlM_cons, List.foldlM_cons,
        applyDeclaration_congr resemble.kind resemble.attributes]
    · rfl
  arguments := by
    intro shapes shapes' done done'
    simp only [List.mapM_cons, Option.bind_eq_bind, Option.bind_eq_some_iff, Option.pure_def,
      Option.some.injEq] at done done'
    obtain ⟨shape, here, more, later, rfl⟩ := done
    obtain ⟨shape', here', more', later', rfl⟩ := done'
    rw [resemble.argument shape shape' here here', Option.some.inj (later.symm.trans later')]
  held := by
    intro text value value' done done'
    rw [heldValue?] at done done'
    split at done
    next called =>
      rw [if_pos (resemble.kind.trans called)] at done'
      obtain ⟨shape, made, rfl⟩ := Option.map_eq_some_iff.mp done
      obtain ⟨shape', made', rfl⟩ := Option.map_eq_some_iff.mp done'
      rw [resemble.call shape shape' made made']
    next => cases done
  value := by
    rw [switchValue?, switchValue?, List.find?_cons, List.find?_cons, resemble.kind]
    split
    · exact resemble.held
    · exact .of_eq (fun _ => rfl) rfl
  body := by
    intro plain known declares yield yield' done done'
    obtain ⟨found, first, here, rest, later, rfl⟩ := elaborateAll_cons_iff.mp done
    obtain ⟨found', first', here', rest', later', rfl⟩ := elaborateAll_cons_iff.mp done'
    obtain ⟨same, shifted⟩ := resemble.element (plain child List.mem_cons_self) _ _ _ _ here here'
    cases same
    rw [Option.some.inj (later.symm.trans later')]
    exact shifted.append_left rest'
  cases := by
    intro plain known hasDefault shapes shapes' done done'
    simp only [elaborateCases_cons, Option.bind_eq_bind, Option.bind_eq_some_iff, Option.pure_def,
      Option.some.injEq, Prod.exists] at done done'
    obtain ⟨found, first, here, rest, later, rfl⟩ := done
    obtain ⟨found', first', here', rest', later', rfl⟩ := done'
    obtain ⟨same, shifted⟩ := resemble.case (plain child List.mem_cons_self) _ _ _ _ here here'
    cases same
    rw [Option.some.inj (later.symm.trans later')]
    simpa using shifted.frame [] rest'

theorem Resemble.framed {child other : SpecNode} (resemble : Resemble child other)
    (front back : List SpecNode) : ResembleAll (front ++ child :: back) (front ++ other :: back) := by
  induction front with
  | nil => exact resemble.among back
  | cons spec rest ih => exact ih.cons spec

/-! ### Elements that have been moved -/

/-- What an element yields, nothing if it yields none. -/
def yieldOf (known : Yields) (declares : Bool) (spec : SpecNode) : Yield :=
  ((elaborate known declares spec).map (·.2)).getD {}

/-- Without blocks each element yields the same wherever it stands in the row. -/
theorem elaborateAll_solid {known : Yields} {declares : Bool} {specs : List SpecNode} {yield : Yield}
    (solid : ∀ spec ∈ specs, spec.kind ≠ .block)
    (done : elaborateAll known declares specs = some yield) :
    yield = ⟨specs.flatMap fun spec => (yieldOf known declares spec).values,
      specs.flatMap fun spec => (yieldOf known declares spec).shapes⟩ := by
  induction specs generalizing yield with
  | nil =>
    cases done
    rfl
  | cons spec rest ih =>
    obtain ⟨found, first, here, others, later, rfl⟩ := elaborateAll_cons_iff.mp done
    obtain ⟨own, solid⟩ := List.forall_mem_cons.mp solid
    cases elaborate_known own here
    have one : yieldOf known declares spec = first := by
      rw [yieldOf, here]
      rfl
    rw [ih solid later, Yield.append, List.flatMap_cons, List.flatMap_cons, one]

theorem yieldOf_literalPath (known : Yields) (declares : Bool) {spec : SpecNode}
    (literal : spec.isLiteralPath = true) :
    (yieldOf known declares spec).values = [] ∧
      ∀ shape ∈ (yieldOf known declares spec).shapes, shape.kind.literal?.isSome = true := by
  rw [yieldOf]
  cases done : elaborate known declares spec with
  | none => exact ⟨rfl, by simp⟩
  | some result => exact elaborate_literalPath literal done

theorem arguments_kind {specs : List SpecNode} {shapes : List Shape}
    (done : specs.mapM argumentShape? = some shapes) : ∀ spec ∈ specs, spec.kind = .arg := by
  induction specs generalizing shapes with
  | nil => simp
  | cons spec rest ih =>
    simp only [List.mapM_cons, Option.bind_eq_bind, Option.bind_eq_some_iff] at done
    obtain ⟨shape, here, more, later, -⟩ := done
    exact List.forall_mem_cons.mpr ⟨(argumentShape?_iff.mp here).1, ih later⟩

theorem elaborateCases_kind {known : Yields} {hasDefault : Bool} {specs : List SpecNode}
    {shapes : List Shape} (done : elaborateCases known hasDefault specs = some shapes) :
    ∀ spec ∈ specs, spec.kind ≠ .path := by
  induction specs generalizing hasDefault shapes with
  | nil => simp
  | cons spec rest ih =>
    simp only [elaborateCases_cons, Option.bind_eq_bind, Option.bind_eq_some_iff, Prod.exists] at done
    obtain ⟨found, first, here, more, later, -⟩ := done
    apply List.forall_mem_cons.mpr ⟨_, ih later⟩
    intro path
    rw [elaborateCase, path] at here
    cases here

/-- Where literal paths are allowed at all, nothing else notices that they have been moved. -/
theorem moved_resemble {children others : List SpecNode}
    (moved : Moved isLiteralPath children others) : ResembleAll children others where
  empty := by
    rw [Bool.eq_iff_iff, List.isEmpty_iff_length_eq_zero, List.isEmpty_iff_length_eq_zero,
      moved.perm.length_eq]
  parameters := by
    intro route patterns
    rw [moved.filter_eq]
    intro spec literal
    simp [isLiteralPath_kind literal]
  arguments := by
    intro shapes shapes' done done'
    have still : others = children := by
      apply moved.eq_of_still
      intro spec member
      exact not_isLiteralPath (by simp [arguments_kind done spec member])
    rw [still, done] at done'
    exact Option.some.inj done'
  held := by
    intro text value value' done done'
    have still := moved.still
    cases children with
    | nil =>
      rw [moved.perm.eq_nil] at done'
      exact Option.some.inj (done.symm.trans done')
    | cons call rest =>
      cases others with
      | nil => cases moved.perm.symm.eq_nil
      | cons call' rest' =>
        rw [heldValue?] at done done'
        split at done
        next called =>
          split at done'
          next called' =>
            -- calls are not moved, so each is the first of those that stay
            have stays {spec : SpecNode} (called : spec.kind = .call) :
                spec.isLiteralPath = false := not_isLiteralPath (by simp [called])
            rw [List.filter_cons_of_pos (by simp [stays called']),
              List.filter_cons_of_pos (by simp [stays called])] at still
            rw [(List.cons.inj still).1] at done'
            exact Option.some.inj (done.symm.trans done')
          next => cases done'
        next => cases done
  value := by
    apply Related.of_eq fun _ => rfl
    rw [switchValue?, switchValue?, moved.find?_eq]
    intro spec literal
    simp [isLiteralPath_kind literal]
  body := by
    intro plain known declares yield yield' done done'
    rw [elaborateAll_solid (fun spec member => (plain spec member).solid) done,
      elaborateAll_solid (fun spec member => (plain spec (moved.perm.mem_iff.mp member)).solid) done']
    constructor
    · exact moved.flatMap_eq fun spec literal => (yieldOf_literalPath known declares literal).1
    · exact .here (moved.flatMap fun spec literal => (yieldOf_literalPath known declares literal).2)
  cases := by
    intro _ known hasDefault shapes shapes' done done'
    have still : others = children := by
      apply moved.eq_of_still
      intro spec member
      exact not_isLiteralPath (elaborateCases_kind done spec member)
    rw [still, done] at done'
    cases done'
    exact .refl _

theorem shifted_resemble {spec other : SpecNode} (shifted : spec.Shifted other) :
    Resemble spec other := by
  induction shifted with
  | here moved => exact (moved_resemble moved).node _ _ _
  | deeper front back _ ih => exact (ih.framed front back).node _ _ _

/-- The children of documents that differ in the places of literal paths yield the same values and, but
for the order of trees that take literals, the same trees. -/
theorem children_shifted {spec other : SpecNode} (shifted : spec.Shifted other)
    (plain : ∀ child ∈ spec.children, child.Plain) (known : Yields) (declares : Bool) :
    Related Yield.Shifted (elaborateAll known declares spec.children)
      (elaborateAll known declares other.children) := by
  cases shifted with
  | here moved => exact (moved_resemble moved).body plain known declares
  | deeper front back inside =>
    exact ((shifted_resemble inside).framed front back).body plain known declares

end RouteTree

end Signpost

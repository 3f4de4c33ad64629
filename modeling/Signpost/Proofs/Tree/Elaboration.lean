import Mathlib.Data.List.Forall2
import Signpost.Proofs.Spec.Expansion
import Signpost.Proofs.Tree.Elements
import Signpost.Proofs.Tree.Growth

/-!
# Elaboration

What elements come to, read off without an arena and whatever the place they stand at. Literals may
meet here: whether there is room for what elements yield is another question. A reference yields what
its block has yielded, so writing a document out does not change what it yields.
-/
namespace Signpost

theorem Yield.append_assoc (first second third : Yield) :
    (first.append second).append third = first.append (second.append third) := by
  simp [Yield.append]

@[simp]
theorem Yield.append_empty (yield : Yield) : yield.append {} = yield := by
  simp [Yield.append]

namespace RouteTree

open Text

/-- What the blocks known at a place yield, the latest first. -/
abbrev Yields := List (String × Yield)

/-- A node with what has been built below it; a blank path passes values on. -/
def nodeYield (content : NodeContent) (body : Yield) : Yield :=
  if content.kind.isBlank then
    { values := body.values, shapes := [.node content body.shapes] }
  else { shapes := [.node (content.bindAll body.values) body.shapes] }

theorem segmentContent_solid (pattern : Pattern) (id : Option String) :
    (segmentContent pattern id).kind.isBlank = false ∧
      (segmentContent pattern id).kind.pattern? = some pattern ∧
      (segmentContent pattern id).kind.routeId? = id := by
  rw [segmentContent]
  split <;> exact ⟨rfl, rfl, rfl⟩

/-- A chain of paths with what has been built below the last one. -/
def segmentsYield (id : Option String) (body : Yield) : List Pattern → Yield
  | [] => nodeYield { kind := .blankPath id } body
  | [last] => nodeYield (segmentContent last id) body
  | pattern :: rest => nodeYield (segmentContent pattern none) (segmentsYield id body rest)

def argumentShape? (spec : SpecNode) : Option Shape :=
  if spec.kind = .arg ∧ spec.children.isEmpty then
    some (.node { kind := .arg ((spec.attributeOrText? "value").getD "") } [])
  else none

def callShape? (spec : SpecNode) : Option Shape :=
  let function := trim ((spec.attributeOrText? "function").getD "")
  if function.isEmpty then none
  else
    let arguments := ((spec.attribute? "with").map splitArguments).getD []
    (spec.children.mapM argumentShape?).map (.node { kind := .call function arguments })

/-- The value of a switch, or the call that gives it one. -/
def settle? (spec : SpecNode) : Option (Option String × List Shape) :=
  match spec.attribute? "value" with
  | some value => some (some value, [])
  | none =>
    match spec.children.find? fun child => child.kind = .value with
    | none => none
    | some holder =>
      match holder.children with
      | [] => some (some (holder.text.getD ""), [])
      | call :: _ =>
        if call.kind = .call then (callShape? call).map fun shape => (none, [shape]) else none

/-- A switch with the call that gives it its value, if there is one, before its cases. -/
def switchYield (settled : Option String × List Shape) (cases : Yield) : Yield :=
  nodeYield { kind := .switch settled.1 } (({ shapes := settled.2 } : Yield).append cases)

/-- What an element yields that does not contain others to be built. -/
def simpleYield? (spec : SpecNode) : Option Yield :=
  match spec.kind with
  | .set =>
    (spec.attribute? "name").bind fun name =>
      if spec.children.isEmpty then
        some (nodeYield { kind := .set name ((spec.attributeOrText? "value").getD "") } {})
      else none
  | .return =>
    if spec.children.isEmpty then some (nodeYield { kind := .return spec.attributes } {}) else none
  | .arg =>
    (spec.attribute? "name").map fun name =>
      { values := [(name, (spec.attributeOrText? "value").getD "")] }
  | .call => (callShape? spec).map fun shape => { shapes := [shape] }
  | _ => none

mutual

/-- What an element yields, and the blocks known behind it. -/
def elaborate (known : Yields) (declares : Bool) : SpecNode → Option (Yields × Yield)
  | ⟨kind, attributes, text, children⟩ => do
    let spec : SpecNode := ⟨kind, attributes, text, children⟩
    match kind with
    | .block =>
      let name ← spec.attribute? "name"
      return ((name, ← elaborateAll known false children) :: known, {})
    | .ref =>
      let name ← spec.attribute? "name"
      return (known, ← known.lookup name)
    | .path =>
      let patterns ← (pathPatterns spec).toOption
      let body ← elaborateAll known (!patterns.isEmpty) children
      return (known, segmentsYield (spec.attribute? "id") body patterns)
    | .switch =>
      let settled ← settle? spec
      let cases ← elaborateCases known false children
      return (known, switchYield settled { shapes := cases })
    | .test =>
      let content ← testContent? spec
      return (known, nodeYield content (← elaborateAll known false children))
    | .parameter => if declares then some (known, {}) else none
    | .set | .arg | .return | .call => return (known, ← simpleYield? spec)
    | .router | .value | .case | .default => none

def elaborateAll (known : Yields) (declares : Bool) : List SpecNode → Option Yield
  | [] => some {}
  | child :: rest => do
    let (known, first) ← elaborate known declares child
    return first.append (← elaborateAll known declares rest)

def elaborateCases (known : Yields) (hasDefault : Bool) : List SpecNode → Option (List Shape)
  | [] => some []
  | ⟨kind, attributes, text, children⟩ :: rest => do
    let spec : SpecNode := ⟨kind, attributes, text, children⟩
    match kind with
    | .value => elaborateCases known hasDefault rest
    | .case =>
      let value ← spec.attributeOrText? "value"
      let case := nodeYield { kind := .case value } (← elaborateAll known false children)
      return case.shapes ++ (← elaborateCases known hasDefault rest)
    | .default =>
      if hasDefault then none
      else
        let default := nodeYield { kind := .default } (← elaborateAll known false children)
        return default.shapes ++ (← elaborateCases known true rest)
    | _ => none

end

/-! ### Elements without others inside -/

theorem argumentShape?_iff {spec : SpecNode} {shape : Shape} :
    argumentShape? spec = some shape ↔ spec.kind = .arg ∧ spec.children = [] ∧
      .node { kind := .arg ((spec.attributeOrText? "value").getD "") } [] = shape := by
  rw [argumentShape?, Option.ite_none_right_eq_some, Option.some.injEq, List.isEmpty_iff, and_assoc]

/-- A call holds arguments and nothing else. -/
theorem exists_of_callShape? {spec : SpecNode} {shape : Shape} (done : callShape? spec = some shape) :
    ∃ function stated arguments, spec.children.mapM argumentShape? = some arguments ∧
      shape = .node { kind := .call function stated } arguments := by
  rw [callShape?] at done
  dsimp only at done
  split at done
  · cases done
  · obtain ⟨arguments, read, rfl⟩ := Option.map_eq_some_iff.mp done
    exact ⟨_, _, arguments, read, rfl⟩

/-- The value of a switch is stated, or a call gives it. -/
theorem settle?_cases {spec : SpecNode} {settled : Option String × List Shape}
    (done : settle? spec = some settled) :
    (∃ value, settled = (some value, [])) ∨
      ∃ call shape, callShape? call = some shape ∧ settled = (none, [shape]) := by
  rw [settle?] at done
  split at done
  next value _ =>
    cases done
    exact .inl ⟨value, rfl⟩
  next =>
    split at done
    · cases done
    next holder _ =>
      split at done
      · cases done
        exact .inl ⟨_, rfl⟩
      next call _ _ =>
        split at done
        · obtain ⟨shape, called, rfl⟩ := Option.map_eq_some_iff.mp done
          exact .inr ⟨call, shape, called, rfl⟩
        · cases done

/-- An element that contains no others to be built yields a set, a return or a call, or it binds a
value. -/
theorem simpleYield?_cases {spec : SpecNode} {yield : Yield} (done : simpleYield? spec = some yield) :
    (∃ name value, yield = nodeYield { kind := .set name value } {}) ∨
      (∃ fields, yield = nodeYield { kind := .return fields } {}) ∨
      (∃ entry, yield = { values := [entry] }) ∨
      ∃ shape, callShape? spec = some shape ∧ yield = { shapes := [shape] } := by
  rw [simpleYield?] at done
  split at done
  · obtain ⟨name, -, done⟩ := Option.bind_eq_some_iff.mp done
    split at done <;> cases done
    exact .inl ⟨name, _, rfl⟩
  · split at done <;> cases done
    exact .inr (.inl ⟨_, rfl⟩)
  · obtain ⟨name, -, rfl⟩ := Option.map_eq_some_iff.mp done
    exact .inr (.inr (.inl ⟨_, rfl⟩))
  · obtain ⟨shape, called, rfl⟩ := Option.map_eq_some_iff.mp done
    exact .inr (.inr (.inr ⟨shape, called, rfl⟩))
  · cases done

/-! ### One element

What it takes for an element of each kind to yield something. What is shown of all elements is shown along
these statements, one for each kind.
-/

section

variable {known found : Yields} {declares hasDefault : Bool} {attributes : Attributes}
  {text : Option String} {children rest : List SpecNode} {yield : Yield} {shapes : List Shape}

theorem elaborate_block_iff :
    elaborate known declares ⟨.block, attributes, text, children⟩ = some (found, yield) ↔
      ∃ name, attributes.get? "name" = some name ∧
        ∃ body, elaborateAll known false children = some body ∧
          (name, body) :: known = found ∧ {} = yield := by
  refine Option.bind_eq_some_iff.trans ?_
  simp only [SpecNode.attribute?, Option.bind_eq_bind, Option.bind_eq_some_iff, Option.pure_def,
    Option.some.injEq, Prod.mk.injEq]

theorem elaborate_ref_iff :
    elaborate known declares ⟨.ref, attributes, text, children⟩ = some (found, yield) ↔
      ∃ name, attributes.get? "name" = some name ∧ known.lookup name = some yield ∧ known = found := by
  refine Option.bind_eq_some_iff.trans ?_
  simp only [SpecNode.attribute?, Option.bind_eq_bind, Option.bind_eq_some_iff, Option.pure_def,
    Option.some.injEq, Prod.mk.injEq]
  constructor
  · rintro ⟨name, named, _, there, rfl, rfl⟩
    exact ⟨name, named, there, rfl⟩
  · rintro ⟨name, named, there, rfl⟩
    exact ⟨name, named, yield, there, rfl, rfl⟩

theorem elaborate_path_iff :
    elaborate known declares ⟨.path, attributes, text, children⟩ = some (found, yield) ↔
      ∃ patterns, pathPatterns ⟨.path, attributes, text, children⟩ = .ok patterns ∧
        ∃ body, elaborateAll known (!patterns.isEmpty) children = some body ∧
          known = found ∧ segmentsYield (attributes.get? "id") body patterns = yield := by
  refine Option.bind_eq_some_iff.trans ?_
  simp only [SpecNode.attribute?, Option.bind_eq_bind, Option.bind_eq_some_iff, Option.pure_def,
    Option.some.injEq, Prod.mk.injEq, toOption_some_iff]

theorem elaborate_switch_iff :
    elaborate known declares ⟨.switch, attributes, text, children⟩ = some (found, yield) ↔
      ∃ settled, settle? ⟨.switch, attributes, text, children⟩ = some settled ∧
        ∃ cases, elaborateCases known false children = some cases ∧
          known = found ∧ switchYield settled { shapes := cases } = yield := by
  refine Option.bind_eq_some_iff.trans ?_
  simp only [Option.bind_eq_bind, Option.bind_eq_some_iff, Option.pure_def, Option.some.injEq,
    Prod.mk.injEq]

theorem elaborate_test_iff :
    elaborate known declares ⟨.test, attributes, text, children⟩ = some (found, yield) ↔
      ∃ content, testContent? ⟨.test, attributes, text, children⟩ = some content ∧
        ∃ body, elaborateAll known false children = some body ∧
          known = found ∧ nodeYield content body = yield := by
  refine Option.bind_eq_some_iff.trans ?_
  simp only [Option.bind_eq_bind, Option.bind_eq_some_iff, Option.pure_def, Option.some.injEq,
    Prod.mk.injEq]

theorem elaborate_parameter_iff :
    elaborate known declares ⟨.parameter, attributes, text, children⟩ = some (found, yield) ↔
      declares = true ∧ known = found ∧ {} = yield := by
  cases declares with
  | true => exact Option.some_inj.trans (by simp)
  | false => exact iff_of_false nofun (by simp)

theorem elaborate_simple_iff {kind : SpecKind}
    (simple : kind = .set ∨ kind = .arg ∨ kind = .return ∨ kind = .call) :
    elaborate known declares ⟨kind, attributes, text, children⟩ = some (found, yield) ↔
      simpleYield? ⟨kind, attributes, text, children⟩ = some yield ∧ known = found := by
  have same : elaborate known declares ⟨kind, attributes, text, children⟩
      = (simpleYield? ⟨kind, attributes, text, children⟩).bind fun yield => some (known, yield) := by
    rcases simple with rfl | rfl | rfl | rfl <;> rfl
  rw [same, Option.bind_eq_some_iff]
  simp [and_comm]

theorem elaborateAll_cons_iff {spec : SpecNode} :
    elaborateAll known declares (spec :: rest) = some yield ↔
      ∃ found first, elaborate known declares spec = some (found, first) ∧
        ∃ later, elaborateAll found declares rest = some later ∧ first.append later = yield := by
  refine Option.bind_eq_some_iff.trans ?_
  simp only [Option.bind_eq_bind, Option.bind_eq_some_iff, Option.pure_def, Option.some.injEq,
    Prod.exists]

theorem elaborateCases_value :
    elaborateCases known hasDefault (⟨.value, attributes, text, children⟩ :: rest)
      = elaborateCases known hasDefault rest :=
  rfl

theorem elaborateCases_case_iff :
    elaborateCases known hasDefault (⟨.case, attributes, text, children⟩ :: rest) = some shapes ↔
      ∃ value, SpecNode.attributeOrText? ⟨.case, attributes, text, children⟩ "value" = some value ∧
        ∃ body, elaborateAll known false children = some body ∧
          ∃ later, elaborateCases known hasDefault rest = some later ∧
            (nodeYield { kind := .case value } body).shapes ++ later = shapes := by
  refine Option.bind_eq_some_iff.trans ?_
  simp only [Option.bind_eq_bind, Option.bind_eq_some_iff, Option.pure_def, Option.some.injEq]

theorem elaborateCases_default_iff :
    elaborateCases known hasDefault (⟨.default, attributes, text, children⟩ :: rest) = some shapes ↔
      hasDefault = false ∧ ∃ body, elaborateAll known false children = some body ∧
        ∃ later, elaborateCases known true rest = some later ∧
          (nodeYield { kind := .default } body).shapes ++ later = shapes := by
  rw [elaborateCases]
  cases hasDefault with
  | true => simp
  | false =>
    simp only [Bool.false_eq_true, if_false, Option.bind_eq_bind, Option.bind_eq_some_iff,
      Option.pure_def, Option.some.injEq, true_and]

end

/-! ### Elements in a row -/

theorem elaborate_known {known found : Yields} {declares : Bool} {spec : SpecNode} {yield : Yield}
    (solid : spec.kind ≠ .block) (done : elaborate known declares spec = some (found, yield)) :
    found = known := by
  obtain ⟨kind, attributes, text, children⟩ := spec
  cases kind with
  | block => exact absurd rfl solid
  | ref =>
    obtain ⟨-, -, -, same⟩ := elaborate_ref_iff.mp done
    exact same.symm
  | path =>
    obtain ⟨-, -, -, -, same, -⟩ := elaborate_path_iff.mp done
    exact same.symm
  | switch =>
    obtain ⟨-, -, -, -, same, -⟩ := elaborate_switch_iff.mp done
    exact same.symm
  | test =>
    obtain ⟨-, -, -, -, same, -⟩ := elaborate_test_iff.mp done
    exact same.symm
  | parameter =>
    obtain ⟨-, same, -⟩ := elaborate_parameter_iff.mp done
    exact same.symm
  | set | arg | «return» | call =>
    obtain ⟨-, same⟩ := (elaborate_simple_iff (by simp)).mp done
    exact same.symm
  | router | value | case | default => cases done

/-- Only parameters need a place that declares them. -/
theorem elaborate_declares {known : Yields} {spec : SpecNode} {result : Yields × Yield}
    (declares : Bool) (done : elaborate known false spec = some result) :
    spec.kind ≠ .parameter ∧ elaborate known declares spec = some result := by
  obtain ⟨kind, attributes, text, children⟩ := spec
  cases kind with
  | parameter =>
    rw [elaborate] at done
    cases done
  | _ =>
    rw [elaborate] at done ⊢
    exact ⟨by simp, done⟩

theorem elaborateAll_declares {known : Yields} {specs : List SpecNode} {yield : Yield}
    (declares : Bool) (done : elaborateAll known false specs = some yield) :
    (∀ spec ∈ specs, spec.kind ≠ .parameter) ∧ elaborateAll known declares specs = some yield := by
  induction specs generalizing known yield with
  | nil => exact ⟨by simp, done⟩
  | cons spec rest ih =>
    obtain ⟨found, first, here, later, behind, equal⟩ := elaborateAll_cons_iff.mp done
    obtain ⟨kind, here⟩ := elaborate_declares declares here
    obtain ⟨kinds, behind⟩ := ih behind
    exact ⟨List.forall_mem_cons.mpr ⟨kind, kinds⟩,
      elaborateAll_cons_iff.mpr ⟨found, first, here, later, behind, equal⟩⟩

theorem elaborateAll_append {known : Yields} {declares : Bool} {specs others : List SpecNode}
    {first rest : Yield} (solid : ∀ spec ∈ specs, spec.kind ≠ .block)
    (early : elaborateAll known declares specs = some first)
    (late : elaborateAll known declares others = some rest) :
    elaborateAll known declares (specs ++ others) = some (first.append rest) := by
  induction specs generalizing first with
  | nil =>
    cases early
    exact late
  | cons spec more ih =>
    obtain ⟨found, one, here, others, behind, rfl⟩ := elaborateAll_cons_iff.mp early
    cases elaborate_known (solid spec List.mem_cons_self) here
    have behind := ih (fun other member => solid other (List.mem_cons_of_mem _ member)) behind
    rw [List.cons_append, elaborateAll_cons_iff]
    exact ⟨known, one, here, others.append rest, behind, (Yield.append_assoc ..).symm⟩

theorem elaborateAll_single {known : Yields} {declares : Bool} {spec : SpecNode} {yield : Yield}
    (found : Yields) (done : elaborate known declares spec = some (found, yield)) :
    elaborateAll known declares [spec] = some yield := by
  rw [elaborateAll_cons_iff]
  exact ⟨found, yield, done, {}, rfl, Yield.append_empty yield⟩

end RouteTree

end Signpost

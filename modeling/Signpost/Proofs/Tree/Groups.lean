import Signpost.Proofs.Spec.Flattening
import Signpost.Proofs.Tree.Inlining

/-!
# Trees without groups

A document without groups yields the tree of the document with the nodes of its groups dissolved: their
children stand in their places, and all values go where they have gone before. No literal moves to
another level by that, so there is room for such a tree where there has been room for the other, and no
route is lost but those of the groups.
-/
namespace Signpost

/-! ### Dissolving groups -/

/-- Trees and what they are without groups. A condition holds of the ids of all groups. -/
inductive Shape.Flattens (allowed : Option String → Prop) : List Shape → List Shape → Prop
  | nil : Flattens allowed [] []
  | group {id : Option String} {children others rest more : List Shape} (known : allowed id)
    (inside : Flattens allowed children others) (behind : Flattens allowed rest more) :
    Flattens allowed (.node { kind := .blankPath id } children :: rest) (others ++ more)
  | solid {content : NodeContent} {children others rest more : List Shape}
    (kind : content.kind.isBlank = false) (inside : Flattens allowed children others)
    (behind : Flattens allowed rest more) :
    Flattens allowed (.node content children :: rest) (.node content others :: more)

namespace Shape.Flattens

variable {allowed : Option String → Prop} {shapes others rest more : List Shape}

theorem append (first : Flattens allowed shapes others) (second : Flattens allowed rest more) :
    Flattens allowed (shapes ++ rest) (others ++ more) := by
  induction first with
  | nil => exact second
  | group known inside _ _ ih =>
    rw [List.cons_append, List.append_assoc]
    exact .group known inside ih
  | solid kind inside _ _ ih => exact .solid kind inside ih

/-- Trees of one node each that is no group. -/
theorem leaves (solid : ∀ shape ∈ shapes, ∃ content : NodeContent,
    shape = .node content [] ∧ content.kind.isBlank = false) : Flattens allowed shapes shapes := by
  induction shapes with
  | nil => exact .nil
  | cons shape rest ih =>
    obtain ⟨⟨content, rfl, kind⟩, others⟩ := List.forall_mem_cons.mp solid
    exact .solid kind .nil (ih others)

theorem literals (flattens : Flattens allowed shapes others) :
    literalsAll others = literalsAll shapes := by
  induction flattens with
  | nil => rfl
  | group _ _ _ inner outer =>
    rw [literalsAll_append, inner, outer]
    rfl
  | solid kind _ _ _ outer =>
    rw [literalsAll, literalsAll, Shape.literals, Shape.literals, if_neg (by simp [kind]),
      if_neg (by simp [kind]), outer]

/-- The levels inside keep their literals. -/
theorem distinct (flattens : Flattens allowed shapes others)
    (apart : ∀ shape ∈ shapes, shape.Distinct) : ∀ shape ∈ others, shape.Distinct := by
  induction flattens with
  | nil => exact apart
  | group _ _ _ inner outer =>
    obtain ⟨⟨below, -⟩, behind⟩ := List.forall_mem_cons.mp apart
    exact List.forall_mem_append.mpr ⟨inner below, outer behind⟩
  | solid kind inside _ inner outer =>
    obtain ⟨⟨below, literals⟩, behind⟩ := List.forall_mem_cons.mp apart
    refine List.forall_mem_cons.mpr ⟨.node (inner below) fun solid => ?_, outer behind⟩
    rw [inside.literals]
    exact literals solid

/-- The routes are those of the tree but for the groups that have ids. -/
theorem routes (flattens : Flattens allowed shapes others) (above : List Pattern) :
    (routesAll above others).Sublist (routesAll above shapes) ∧
      ((∀ id, allowed id → id = none) → routesAll above others = routesAll above shapes) := by
  induction flattens generalizing above with
  | nil => exact ⟨.slnil, fun _ => rfl⟩
  | @group id children others rest more known _ _ inner outer =>
    have same : above ++ (NodeKind.blankPath id).pattern?.toList = above := List.append_nil above
    rw [routesAll_append, routesAll, Shape.routes, same]
    constructor
    · exact ((inner above).1.trans (List.sublist_append_right _ _)).append (outer above).1
    · intro unnamed
      rw [(inner above).2 unnamed, (outer above).2 unnamed, unnamed id known]
      rfl
  | solid _ _ _ inner outer =>
    rw [routesAll, routesAll, Shape.routes, Shape.routes]
    constructor
    · exact ((List.Sublist.refl _).append (inner _).1).append (outer above).1
    · intro unnamed
      rw [(inner _).2 unnamed, (outer above).2 unnamed]

end Shape.Flattens

/-- The same values, and trees without groups. -/
structure Yield.Flattens (allowed : Option String → Prop) (yield other : Yield) : Prop where
  values : other.values = yield.values
  shapes : Shape.Flattens allowed yield.shapes other.shapes

theorem Yield.Flattens.append {allowed : Option String → Prop} {yield other first second : Yield}
    (here : yield.Flattens allowed other) (behind : first.Flattens allowed second) :
    (yield.append first).Flattens allowed (other.append second) where
  values := by rw [Yield.append, Yield.append, here.values, behind.values]
  shapes := here.shapes.append behind.shapes

namespace RouteTree

open SpecNode

variable {allowed : Option String → Prop} {yield other : Yield}

theorem nodeYield_flattens {content : NodeContent} (solid : content.kind.isBlank = false)
    (flattens : yield.Flattens allowed other) :
    (nodeYield content yield).Flattens allowed (nodeYield content other) := by
  rw [nodeYield, nodeYield, if_neg (by simp [solid]), if_neg (by simp [solid]), flattens.values]
  exact ⟨rfl, .solid (by rw [NodeContent.bindAll_kind, solid]) flattens.shapes .nil⟩

theorem segmentsYield_flattens (id : Option String) {patterns : List Pattern}
    (filled : patterns ≠ []) (flattens : yield.Flattens allowed other) :
    (segmentsYield id yield patterns).Flattens allowed (segmentsYield id other patterns) := by
  induction patterns with
  | nil => exact absurd rfl filled
  | cons pattern rest ih =>
    cases rest with
    | nil => exact nodeYield_flattens (segmentContent_solid pattern id).1 flattens
    | cons next more =>
      exact nodeYield_flattens (segmentContent_solid pattern none).1 (ih (by simp))

/-- A call holds arguments, which are no groups. -/
theorem callShape?_flattens {spec : SpecNode} {shape : Shape} (done : callShape? spec = some shape) :
    Shape.Flattens allowed [shape] [shape] := by
  obtain ⟨function, stated, arguments, each, rfl⟩ := exists_of_callShape? done
  refine .solid rfl (.leaves fun argument member => ?_) .nil
  obtain ⟨origin, -, read⟩ := mapM_some_origin each argument member
  obtain ⟨-, -, rfl⟩ := argumentShape?_iff.mp read
  exact ⟨_, rfl, rfl⟩

theorem simpleYield?_flattens {spec : SpecNode} (done : simpleYield? spec = some yield) :
    yield.Flattens allowed yield := by
  rcases simpleYield?_cases done with ⟨name, value, rfl⟩ | ⟨fields, rfl⟩ | ⟨entry, rfl⟩
    | ⟨shape, called, rfl⟩
  · exact nodeYield_flattens rfl ⟨rfl, .nil⟩
  · exact nodeYield_flattens rfl ⟨rfl, .nil⟩
  · exact ⟨rfl, .nil⟩
  · exact ⟨rfl, callShape?_flattens called⟩

/-- The call that gives a switch its value stays in front of the cases. -/
theorem switchYield_flattens {spec : SpecNode} {settled : Option String × List Shape}
    (done : settle? spec = some settled) {cases_ others : List Shape}
    (flattens : Shape.Flattens allowed cases_ others) :
    (switchYield settled { shapes := cases_ }).Flattens allowed
      (switchYield settled { shapes := others }) := by
  have front : Shape.Flattens allowed settled.2 settled.2 := by
    rcases settle?_cases done with ⟨value, rfl⟩ | ⟨call, shape, called, rfl⟩
    · exact .nil
    · exact callShape?_flattens called
  exact nodeYield_flattens rfl ⟨rfl, front.append flattens⟩

/-! ### Patterns of groups -/

theorem changeLast?_length {α ε : Type} {condition : α → Bool} {change : α → Except ε α}
    {inputs outputs : List α} (changed : changeLast? condition change inputs = some (.ok outputs)) :
    outputs.length = inputs.length := by
  induction inputs generalizing outputs with
  | nil => cases changed
  | cons first rest ih =>
    rw [changeLast?] at changed
    split at changed
    next result deeper =>
      cases result with
      | error => cases changed
      | ok others =>
        cases changed
        rw [List.length_cons, ih deeper, List.length_cons]
    next =>
      split at changed
      · cases done : change first with
        | error => rw [done] at changed; cases changed
        | ok first' =>
          rw [done] at changed
          cases changed
          rfl
      · cases changed

theorem applyDeclaration_length {route : String} {before after : List Pattern}
    {declaration : SpecNode} (changed : applyDeclaration route before declaration = .ok after) :
    after.length = before.length := by
  obtain ⟨name, -, changed⟩ := bind_ok_iff.mp changed
  split at changed
  next result equal =>
    subst changed
    exact changeLast?_length equal
  next => cases changed

/-- A path has a pattern for every segment. -/
theorem pathPatterns_length {spec : SpecNode} {patterns : List Pattern}
    (found : pathPatterns spec = .ok patterns) :
    patterns.length = (splitRoute ((spec.attribute? "pattern").getD "")).length := by
  obtain ⟨first, read, declared⟩ := bind_ok_iff.mp found
  have length := (mapM_ok_iff.mp (mapError_ok_iff.mp read)).length_eq
  rw [length]
  clear read length found
  generalize spec.children.filter (fun child => child.kind = .parameter) = declarations at declared
  induction declarations generalizing first with
  | nil => rw [pure_ok_iff.mp declared]
  | cons declaration rest ih =>
    rw [List.foldlM_cons] at declared
    obtain ⟨middle, changed, later⟩ := bind_ok_iff.mp declared
    rw [ih middle later, applyDeclaration_length changed]

/-- Groups are the paths without segments. -/
theorem pathPatterns_nil_iff {attributes : Attributes} {text : Option String}
    {children : List SpecNode} {patterns : List Pattern}
    (found : pathPatterns ⟨.path, attributes, text, children⟩ = .ok patterns) :
    patterns = [] ↔ isGroup ⟨.path, attributes, text, children⟩ = true := by
  rw [← List.length_eq_zero_iff, pathPatterns_length found, List.length_eq_zero_iff]
  simp [isGroup]

/-! ### Elements -/

/-- What elements yield when they are replaced by others: the same without groups. The others declare
the same parameters. -/
structure Dissolves (allowed : Option String → Prop) (known : Yields) (declares : Bool)
    (specs others : List SpecNode) (yield : Yield) : Prop where
  same : ∃ other, elaborateAll known declares others = some other ∧ yield.Flattens allowed other
  parameters : (others.filter fun child => child.kind = .parameter)
    = specs.filter fun child => child.kind = .parameter
  solid : ∀ spec ∈ others, spec.kind ≠ .block

/-- An element that yields no groups may stay as it is. -/
theorem Dissolves.kept {known : Yields} {declares : Bool} {spec : SpecNode}
    (solid : spec.kind ≠ .block) (done : elaborate known declares spec = some (known, yield))
    (groupless : yield.Flattens allowed yield) :
    Dissolves allowed known declares [spec] [spec] yield where
  same := ⟨yield, elaborateAll_single known done, groupless⟩
  parameters := rfl
  solid := by simpa using solid

section

variable {known : Yields} {declares : Bool} {attributes : Attributes} {text : Option String}
  {children others : List SpecNode} {body : Yield}

/-- A group passes on what its children yield, and none of them is a parameter. -/
theorem Dissolves.group
    (named : allowed (SpecNode.attribute? ⟨.path, attributes, text, children⟩ "id"))
    (inside : Dissolves allowed known false children others body) :
    Dissolves allowed known declares [⟨.path, attributes, text, children⟩] others
      (segmentsYield (SpecNode.attribute? ⟨.path, attributes, text, children⟩ "id") body []) := by
  obtain ⟨⟨other, again, flattens⟩, -, solid⟩ := inside
  obtain ⟨kinds, anywhere⟩ := elaborateAll_declares declares again
  refine ⟨⟨other, anywhere, flattens.values, ?_⟩, ?_, solid⟩
  · have whole := Shape.Flattens.group named flattens.shapes .nil
    rwa [List.append_nil] at whole
  · rw [List.filter_eq_nil_iff.mpr (by simpa using kinds)]
    rfl

theorem Dissolves.path {patterns : List Pattern} (filled : patterns ≠ [])
    (read : pathPatterns ⟨.path, attributes, text, children⟩ = .ok patterns)
    (inside : Dissolves allowed known (!patterns.isEmpty) children others body) :
    Dissolves allowed known declares [⟨.path, attributes, text, children⟩]
      [⟨.path, attributes, text, others⟩]
      (segmentsYield (SpecNode.attribute? ⟨.path, attributes, text, children⟩ "id") body patterns) := by
  obtain ⟨⟨other, again, flattens⟩, parameters, -⟩ := inside
  have same : pathPatterns ⟨.path, attributes, text, others⟩ = .ok patterns := by
    rw [← read]
    exact pathPatterns_congr rfl parameters
  refine ⟨⟨_, elaborateAll_single known ?_, segmentsYield_flattens _ filled flattens⟩, rfl, by simp⟩
  exact elaborate_path_iff.mpr ⟨patterns, same, other, again, rfl, rfl⟩

theorem Dissolves.test {content : NodeContent}
    (read : testContent? ⟨.test, attributes, text, children⟩ = some content)
    (inside : Dissolves allowed known false children others body) :
    Dissolves allowed known declares [⟨.test, attributes, text, children⟩]
      [⟨.test, attributes, text, others⟩] (nodeYield content body) := by
  obtain ⟨⟨other, again, flattens⟩, -, -⟩ := inside
  have same : testContent? ⟨.test, attributes, text, others⟩ = some content := read
  have solid : content.kind.isBlank = false := by
    obtain ⟨pattern, -, regex, -, rfl⟩ := testContent?_iff.mp read
    rfl
  refine ⟨⟨_, elaborateAll_single known ?_, nodeYield_flattens solid flattens⟩, rfl, by simp⟩
  exact elaborate_test_iff.mpr ⟨content, same, other, again, rfl, rfl⟩

end

mutual

theorem elaborate_flatten {known found : Yields} {declares : Bool} {yield : Yield} :
    (spec : SpecNode) → spec.Plain →
      (∀ group ∈ spec.groups, allowed (group.attribute? "id")) →
      elaborate known declares spec = some (found, yield) →
      Dissolves allowed known declares [spec] spec.flatten yield
  | ⟨kind, attributes, text, children⟩, plain, named, done => by
    have still : found = known := elaborate_known plain.solid done
    subst still
    cases kind with
    | path =>
      have below := plain.children (by simp) (by simp)
      obtain ⟨patterns, read, body, inside, -, rfl⟩ := elaborate_path_iff.mp done
      rw [groups] at named
      rw [flatten]
      -- a group is a path without segments: its children take its place, and its id goes
      by_cases group : isGroup ⟨.path, attributes, text, children⟩
      · rw [if_pos group] at named ⊢
        obtain ⟨here, within⟩ := List.forall_mem_cons.mp named
        cases (pathPatterns_nil_iff read).mpr group
        exact .group here (elaborateAll_flatten children below within inside)
      · rw [if_neg group] at named ⊢
        have filled : patterns ≠ [] := mt (pathPatterns_nil_iff read).mp group
        exact .path filled read (elaborateAll_flatten children below named inside)
    | switch =>
      obtain ⟨settled, read, cases_, inside, -, rfl⟩ := elaborate_switch_iff.mp done
      rw [groups] at named
      obtain ⟨others, again, flattens, values⟩ :=
        elaborateCases_flatten children (plain.children (by simp) (by simp)) named inside
      have same : settle? ⟨.switch, attributes, text, flattenCases children⟩
          = settle? ⟨.switch, attributes, text, children⟩ := settle?_congr rfl values
      rw [flatten]
      refine ⟨⟨_, elaborateAll_single found ?_, switchYield_flattens read flattens⟩, rfl, by simp⟩
      exact elaborate_switch_iff.mpr ⟨settled, same.trans read, others, again, rfl, rfl⟩
    | test =>
      obtain ⟨content, read, body, inside, -, rfl⟩ := elaborate_test_iff.mp done
      rw [groups] at named
      rw [flatten]
      exact .test read
        (elaborateAll_flatten children (plain.children (by simp) (by simp)) named inside)
    | parameter =>
      refine .kept (by simp) done ?_
      obtain ⟨-, -, rfl⟩ := elaborate_parameter_iff.mp done
      exact ⟨rfl, .nil⟩
    | set | arg | «return» | call =>
      refine .kept (by simp) done ?_
      exact simpleYield?_flattens ((elaborate_simple_iff (by simp)).mp done).1
    | block => exact absurd rfl plain.solid
    | ref =>
      cases plain with
      | aside kind => simp at kind
      | node _ reference => exact absurd rfl reference
    | _ =>
      rw [elaborate] at done
      cases done

theorem elaborateAll_flatten {known : Yields} {declares : Bool} {yield : Yield} :
    (specs : List SpecNode) → (∀ spec ∈ specs, spec.Plain) →
      (∀ group ∈ groupsAll specs, allowed (group.attribute? "id")) →
      elaborateAll known declares specs = some yield →
      Dissolves allowed known declares specs (flattenAll specs) yield
  | [], _, _, done => by
    cases done
    exact ⟨⟨_, rfl, rfl, .nil⟩, rfl, by simp [flattenAll]⟩
  | spec :: rest, plain, named, done => by
    obtain ⟨here, others⟩ := List.forall_mem_cons.mp plain
    rw [groupsAll] at named
    obtain ⟨own, later⟩ := List.forall_mem_append.mp named
    obtain ⟨found, first, early, second, behind, rfl⟩ := elaborateAll_cons_iff.mp done
    obtain ⟨⟨other, again, flattens⟩, parameters, solid⟩ := elaborate_flatten spec here own early
    -- no block stands among plain elements, so the rest is read with the same blocks
    cases elaborate_known here.solid early
    obtain ⟨⟨more, again', flattens'⟩, parameters', solid'⟩ :=
      elaborateAll_flatten rest others later behind
    rw [flattenAll]
    refine ⟨⟨_, elaborateAll_append solid again again', flattens.append flattens'⟩, ?_,
      List.forall_mem_append.mpr ⟨solid, solid'⟩⟩
    rw [List.filter_append, parameters, parameters', ← List.filter_append]
    rfl

theorem elaborateCases_flatten {known : Yields} {hasDefault : Bool} {shapes : List Shape} :
    (specs : List SpecNode) → (∀ spec ∈ specs, spec.Plain) →
      (∀ group ∈ groupsCases specs, allowed (group.attribute? "id")) →
      elaborateCases known hasDefault specs = some shapes →
      ∃ others, elaborateCases known hasDefault (flattenCases specs) = some others ∧
        Shape.Flattens allowed shapes others ∧
        (flattenCases specs).find? (fun child => child.kind = .value)
          = specs.find? fun child => child.kind = .value
  | [], _, _, done => by
    cases done
    exact ⟨[], rfl, .nil, rfl⟩
  | ⟨kind, attributes, text, children⟩ :: rest, plain, named, done => by
    obtain ⟨here, later⟩ := List.forall_mem_cons.mp plain
    cases kind with
    | value =>
      rw [elaborateCases_value] at done
      obtain ⟨others, again, flattens, -⟩ := elaborateCases_flatten rest later named done
      exact ⟨others, again, flattens, rfl⟩
    | case =>
      obtain ⟨value, read, body, inside, behind, more, rfl⟩ := elaborateCases_case_iff.mp done
      rw [groupsCases] at named
      obtain ⟨own, others⟩ := List.forall_mem_append.mp named
      obtain ⟨⟨other, again, flattens⟩, -, -⟩ :=
        elaborateAll_flatten children (here.children (by simp) (by simp)) own inside
      obtain ⟨cases_, again', flattens', values⟩ := elaborateCases_flatten rest later others more
      have whole : Yield.Flattens allowed (nodeYield { kind := .case value } body)
          (nodeYield { kind := .case value } other) := nodeYield_flattens rfl flattens
      refine ⟨(nodeYield { kind := .case value } other).shapes ++ cases_, ?_,
        whole.shapes.append flattens', values⟩
      rw [flattenCases]
      exact elaborateCases_case_iff.mpr ⟨value, read, other, again, cases_, again', rfl⟩
    | default =>
      obtain ⟨first, body, inside, behind, more, rfl⟩ := elaborateCases_default_iff.mp done
      rw [groupsCases] at named
      obtain ⟨own, others⟩ := List.forall_mem_append.mp named
      obtain ⟨⟨other, again, flattens⟩, -, -⟩ :=
        elaborateAll_flatten children (here.children (by simp) (by simp)) own inside
      obtain ⟨cases_, again', flattens', values⟩ := elaborateCases_flatten rest later others more
      have whole : Yield.Flattens allowed (nodeYield { kind := .default } body)
          (nodeYield { kind := .default } other) := nodeYield_flattens rfl flattens
      refine ⟨(nodeYield { kind := .default } other).shapes ++ cases_, ?_,
        whole.shapes.append flattens', values⟩
      rw [flattenCases]
      exact elaborateCases_default_iff.mpr ⟨first, other, again, cases_, again', rfl⟩
    | _ =>
      rw [elaborateCases] at done
      cases done
      all_goals simp

end

end RouteTree

end Signpost

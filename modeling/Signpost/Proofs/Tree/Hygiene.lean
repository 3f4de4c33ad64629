import Signpost.Proofs.Tree.Elaboration

/-!
# References written out

A document yields the same whether its references stand for the children of their blocks or have been
replaced by them. The bodies known at a place are followed beside the yields known there.
-/
namespace Signpost

namespace RouteTree

open SpecNode

/-- Bodies that come to what the blocks with their names yield. -/
abbrev Stands (known : Yields) (bodies : Bodies) : Prop :=
  Entrywise (fun yield body => elaborateAll [] false body = some yield) known bodies

theorem argumentShape?_expand (bodies : Bodies) {spec : SpecNode} {shape : Shape}
    (done : argumentShape? spec = some shape) : spec.expand bodies = (bodies, [spec]) := by
  obtain ⟨kind, attributes, text, children⟩ := spec
  obtain ⟨rfl, rfl, -⟩ := argumentShape?_iff.mp done
  rfl

theorem arguments_expand (bodies : Bodies) {specs : List SpecNode} {shapes : List Shape}
    (done : specs.mapM argumentShape? = some shapes) : expandAll bodies specs = specs := by
  induction specs generalizing shapes with
  | nil => rfl
  | cons spec rest ih =>
    simp only [List.mapM_cons, Option.bind_eq_bind, Option.bind_eq_some_iff] at done
    obtain ⟨shape, first, shapes, behind, -⟩ := done
    rw [expandAll, argumentShape?_expand bodies first, ih behind]
    rfl

theorem callShape?_expand (bodies : Bodies) {kind : SpecKind} {attributes : Attributes}
    {text : Option String} {children : List SpecNode} {shape : Shape}
    (done : callShape? ⟨kind, attributes, text, children⟩ = some shape) :
    expandAll bodies children = children := by
  obtain ⟨-, -, shapes, all, -⟩ := exists_of_callShape? done
  exact arguments_expand bodies all

theorem simpleYield?_expand (bodies : Bodies) {kind : SpecKind} {attributes : Attributes}
    {text : Option String} {children : List SpecNode} {yield : Yield}
    (done : simpleYield? ⟨kind, attributes, text, children⟩ = some yield) :
    simpleYield? ⟨kind, attributes, text, expandAll bodies children⟩ = some yield := by
  have same (empty : children.isEmpty = true) : expandAll bodies children = children := by
    cases List.isEmpty_iff.mp empty
    rfl
  cases kind with
  | set =>
    obtain ⟨name, -, rest⟩ := Option.bind_eq_some_iff.mp done
    split at rest
    next empty => rw [same empty, done]
    next => cases rest
  | «return» =>
    simp only [simpleYield?] at done
    split at done
    next empty =>
      rw [same empty]
      simp only [simpleYield?, if_pos empty, done]
    next => cases done
  | arg => exact done
  | call =>
    obtain ⟨shape, called, -⟩ := Option.map_eq_some_iff.mp done
    rw [callShape?_expand bodies called, done]
  | _ => cases done

theorem pathPatterns_congr {spec other : SpecNode} (attributes : other.attributes = spec.attributes)
    (parameters : (other.children.filter fun child => child.kind = .parameter)
      = spec.children.filter fun child => child.kind = .parameter) :
    pathPatterns other = pathPatterns spec := by
  simp only [pathPatterns, attribute?, attributes, parameters]

theorem settle?_congr {spec other : SpecNode} (attributes : other.attributes = spec.attributes)
    (values : (other.children.find? fun child => child.kind = .value)
      = spec.children.find? fun child => child.kind = .value) :
    settle? other = settle? spec := by
  simp only [settle?, attribute?, attributes, values]

mutual

/-- What stands for an element yields what the element yields, and declares the same parameters. -/
theorem elaborate_expand {known found : Yields} {bodies : Bodies} {declares : Bool} {yield : Yield}
    (plain : bodies.Plain) (stands : Stands known bodies) :
    (spec : SpecNode) → elaborate known declares spec = some (found, yield) →
      Stands found (spec.expand bodies).1 ∧
        elaborateAll [] declares (spec.expand bodies).2 = some yield ∧
        (spec.expand bodies).2.filter (fun child => child.kind = .parameter)
          = [spec].filter fun child => child.kind = .parameter
  | ⟨kind, attributes, text, children⟩, done => by
    cases kind with
    | block =>
      obtain ⟨name, named, body, inside, rfl, rfl⟩ := elaborate_block_iff.mp done
      simp only [expand, named]
      -- the body of the block stands for its yield from here on, and nothing is left where it stood
      exact ⟨.cons ⟨rfl, (elaborateAll_expand plain stands children inside).1⟩ stands, rfl, rfl⟩
    | ref =>
      obtain ⟨name, named, inside, rfl⟩ := elaborate_ref_iff.mp done
      obtain ⟨specs, there, same⟩ := stands.lookup inside
      simp only [expand, named, Option.bind_some, there, Option.getD_some]
      -- the body has been read where nothing is declared, so it can be read anywhere
      obtain ⟨kinds, all⟩ := elaborateAll_declares declares same
      refine ⟨stands, all, ?_⟩
      rw [List.filter_eq_nil_iff.mpr (by simpa using kinds)]
      rfl
    | path =>
      obtain ⟨patterns, read, body, inside, rfl, rfl⟩ := elaborate_path_iff.mp done
      obtain ⟨below, parameters⟩ := elaborateAll_expand plain stands children inside
      refine ⟨stands, elaborateAll_single [] ?_, rfl⟩
      -- of its children a path reads the declarations alone, and these have not changed
      have same : pathPatterns ⟨.path, attributes, text, expandAll bodies children⟩
          = pathPatterns ⟨.path, attributes, text, children⟩ := pathPatterns_congr rfl parameters
      exact elaborate_path_iff.mpr ⟨patterns, same.trans read, body, below, rfl, rfl⟩
    | switch =>
      obtain ⟨value, settled, cases, inside, rfl, rfl⟩ := elaborate_switch_iff.mp done
      obtain ⟨below, values⟩ := elaborateCases_expand plain stands children inside
      refine ⟨stands, elaborateAll_single [] ?_, rfl⟩
      have same : settle? ⟨.switch, attributes, text, expandAll bodies children⟩
          = settle? ⟨.switch, attributes, text, children⟩ := settle?_congr rfl values
      exact elaborate_switch_iff.mpr ⟨value, same.trans settled, cases, below, rfl, rfl⟩
    | test =>
      obtain ⟨content, read, body, inside, rfl, rfl⟩ := elaborate_test_iff.mp done
      obtain ⟨below, -⟩ := elaborateAll_expand plain stands children inside
      refine ⟨stands, elaborateAll_single [] ?_, rfl⟩
      exact elaborate_test_iff.mpr ⟨content, read, body, below, rfl, rfl⟩
    | parameter =>
      obtain ⟨allowed, rfl, rfl⟩ := elaborate_parameter_iff.mp done
      refine ⟨stands, elaborateAll_single [] ?_, rfl⟩
      exact elaborate_parameter_iff.mpr ⟨allowed, rfl, rfl⟩
    | set | arg | «return» | call =>
      obtain ⟨simple, rfl⟩ := (elaborate_simple_iff (by simp)).mp done
      refine ⟨stands, elaborateAll_single [] ?_, rfl⟩
      exact (elaborate_simple_iff (by simp)).mpr ⟨simpleYield?_expand bodies simple, rfl⟩
    | _ =>
      rw [elaborate] at done
      cases done

theorem elaborateAll_expand {known : Yields} {bodies : Bodies} {declares : Bool} {yield : Yield}
    (plain : bodies.Plain) (stands : Stands known bodies) :
    (specs : List SpecNode) → elaborateAll known declares specs = some yield →
      elaborateAll [] declares (expandAll bodies specs) = some yield ∧
        (expandAll bodies specs).filter (fun child => child.kind = .parameter)
          = specs.filter fun child => child.kind = .parameter
  | [], done => ⟨done, rfl⟩
  | spec :: rest, done => by
    obtain ⟨found, first, here, later, behind, rfl⟩ := elaborateAll_cons_iff.mp done
    obtain ⟨stands', early, own⟩ := elaborate_expand plain stands spec here
    -- behind the first element both what is known and what stands for it may have grown
    obtain ⟨plain', solid⟩ := expand_plain plain spec
    obtain ⟨late, others⟩ := elaborateAll_expand plain' stands' rest behind
    rw [expandAll]
    refine ⟨elaborateAll_append (fun other member => (solid other member).solid) early late, ?_⟩
    rw [List.filter_append, own, others, ← List.filter_append]
    rfl

theorem elaborateCases_expand {known : Yields} {bodies : Bodies} {hasDefault : Bool}
    {shapes : List Shape} (plain : bodies.Plain) (stands : Stands known bodies) :
    (specs : List SpecNode) → elaborateCases known hasDefault specs = some shapes →
      elaborateCases [] hasDefault (expandAll bodies specs) = some shapes ∧
        (expandAll bodies specs).find? (fun child => child.kind = .value)
          = specs.find? fun child => child.kind = .value
  | [], done => ⟨done, rfl⟩
  | ⟨kind, attributes, text, children⟩ :: rest, done => by
    cases kind with
    | value =>
      rw [elaborateCases_value] at done
      exact ⟨(elaborateCases_expand plain stands rest done).1, rfl⟩
    | case =>
      obtain ⟨value, read, body, inside, later, behind, rfl⟩ := elaborateCases_case_iff.mp done
      obtain ⟨below, -⟩ := elaborateAll_expand plain stands children inside
      obtain ⟨late, values⟩ := elaborateCases_expand plain stands rest behind
      refine ⟨?_, values⟩
      exact elaborateCases_case_iff.mpr ⟨value, read, body, below, later, late, rfl⟩
    | default =>
      obtain ⟨first, body, inside, later, behind, rfl⟩ := elaborateCases_default_iff.mp done
      obtain ⟨below, -⟩ := elaborateAll_expand plain stands children inside
      obtain ⟨late, values⟩ := elaborateCases_expand plain stands rest behind
      refine ⟨?_, values⟩
      exact elaborateCases_default_iff.mpr ⟨first, body, below, later, late, rfl⟩
    | _ =>
      rw [elaborateCases] at done
      cases done
      all_goals simp

end

/-! ### References to nothing -/

theorem elaborate_names {known found : Yields} {declares : Bool} {spec : SpecNode} {yield : Yield}
    (done : elaborate known declares spec = some (found, yield)) :
    found.map (·.1) = spec.declared?.toList ++ known.map (·.1) := by
  by_cases solid : spec.kind = .block
  · obtain ⟨kind, attributes, text, children⟩ := spec
    cases solid
    obtain ⟨name, named, body, -, rfl, -⟩ := elaborate_block_iff.mp done
    simp [declared?, attribute?, named]
  · rw [elaborate_known solid done, declared?, if_neg solid]
    rfl

theorem callShape?_none {spec : SpecNode} (missing : spec.children.mapM argumentShape? = none) :
    callShape? spec = none := by
  simp [callShape?, missing]

mutual

/-- An element with a dangling reference yields nothing, wherever it stands. -/
theorem elaborate_dangles {names : List String} {spec : SpecNode} :
    Dangles names spec → ∀ known : Yields, known.map (·.1) = names →
      (∀ declares, elaborate known declares spec = none) ∧ argumentShape? spec = none ∧
        ∀ hasDefault rest, elaborateCases known hasDefault (spec :: rest) = none
  | .reference kind unknown, known, same => by
    obtain ⟨_, attributes, text, children⟩ := spec
    cases kind
    refine ⟨fun declares => ?_, by simp [argumentShape?], by simp [elaborateCases]⟩
    rw [elaborate]
    cases named : attribute? ⟨.ref, attributes, text, children⟩ "name" with
    | none => rfl
    | some name =>
      have absent : known.lookup name = none := by
        have outside := unknown name named
        rw [← same] at outside
        rw [List.lookup_eq_none_iff]
        intro entry member
        rw [bne_iff_ne]
        rintro rfl
        exact outside (List.mem_map_of_mem member)
      simp [absent]
  | .nested nests inside, known, same => by
    obtain ⟨all, cases_, arguments⟩ := elaborateAll_dangles inside known same
    obtain ⟨kind, attributes, text, children⟩ := spec
    have uncalled : callShape? ⟨.call, attributes, text, children⟩ = none :=
      callShape?_none arguments
    cases kind with
    | block | path | test =>
      exact ⟨by simp [elaborate, all], by simp [argumentShape?], by simp [elaborateCases]⟩
    | switch => exact ⟨by simp [elaborate, cases_], by simp [argumentShape?], by simp [elaborateCases]⟩
    | call =>
      exact ⟨by simp [elaborate, simpleYield?, uncalled], by simp [argumentShape?],
        by simp [elaborateCases]⟩
    | case | default =>
      exact ⟨by simp [elaborate], by simp [argumentShape?], by simp [elaborateCases, all]⟩
    | _ => cases nests
  | @Dangles.value _ _ _ call _ kind unset found first inside, known, same => by
    have missing := (elaborate_dangles inside known same).1 false
    obtain ⟨_, attributes, text, children⟩ := spec
    cases kind
    have uncalled (called : call.kind = .call) : callShape? call = none := by
      obtain ⟨_, callAttributes, callText, arguments⟩ := call
      cases called
      exact Option.eq_none_iff_forall_not_mem.mpr (by simpa [elaborate, simpleYield?] using missing)
    have unsettled : settle? ⟨.switch, attributes, text, children⟩ = none := by
      simp only [settle?, unset, found, first]
      split
      next called => rw [uncalled called]; rfl
      next => rfl
    exact ⟨by simp [elaborate, unsettled], by simp [argumentShape?], by simp [elaborateCases]⟩

theorem elaborateAll_dangles {names : List String} {specs : List SpecNode} :
    DanglesAmong names specs → ∀ known : Yields, known.map (·.1) = names →
      (∀ declares, elaborateAll known declares specs = none) ∧
        (∀ hasDefault, elaborateCases known hasDefault specs = none) ∧
        specs.mapM argumentShape? = none
  | .here dangles, known, same => by
    obtain ⟨one, argument, case⟩ := elaborate_dangles dangles known same
    exact ⟨by simp [elaborateAll, one], fun hasDefault => case hasDefault _,
      by simp [List.mapM_cons, argument]⟩
  | @DanglesAmong.later _ spec rest behind, known, same => by
    have others := elaborateAll_dangles behind
    -- A block noted here has some yield or other; only its name matters for what dangles behind it.
    have noted : ((spec.declared?.toList.map fun name => (name, ({} : Yield))) ++ known).map (·.1)
        = spec.declared?.toList ++ names := by
      rw [List.map_append, same]
      cases spec.declared? <;> rfl
    refine ⟨?_, ?_, ?_⟩
    · intro declares
      cases one : elaborate known declares spec with
      | none => simp [elaborateAll, one]
      | some result =>
        have names' := elaborate_names one
        rw [same] at names'
        simp [elaborateAll, one, (others result.1 names').1 declares]
    · intro hasDefault
      by_cases solid : spec.kind = .block
      · obtain ⟨_, attributes, text, children⟩ := spec
        cases solid
        simp [elaborateCases]
      · have still := (others known (by rw [same, declared?, if_neg solid]; rfl)).2.1
        obtain ⟨kind, attributes, text, children⟩ := spec
        cases kind <;> simp [elaborateCases, still]
    · simp [List.mapM_cons, (others _ noted).2.2]

end

end RouteTree

end Signpost

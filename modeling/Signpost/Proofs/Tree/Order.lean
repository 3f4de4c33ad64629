import Signpost.Proofs.Success
import Signpost.Proofs.Tree.Elaboration

/-!
# Elements yield trees in order

Whatever elements yield may stand in a body, and every node of it holds what it may hold. The cases of a
switch are the only elements that are read in another way: none of them but the first default is
accepted as one, so a switch has one default at most.
-/
namespace Signpost

theorem Yield.Orderly.append {first rest : Yield} (orderly : first.Orderly)
    (later : rest.Orderly) : (first.append rest).Orderly :=
  List.forall_mem_append.mpr ⟨orderly, later⟩

theorem Yield.Orderly.none : Yield.Orderly {} := by
  simp [Orderly]

namespace RouteTree

variable {known found : Yields} {yield body : Yield} {spec : SpecNode}

/-- What the blocks known at a place yield is in order. -/
def Yields.Orderly (known : Yields) : Prop := ∀ entry ∈ known, entry.2.Orderly

theorem Yields.Orderly.lookup (orderly : known.Orderly) {name : String}
    (there : known.lookup name = some yield) : yield.Orderly := by
  induction known with
  | nil => cases there
  | cons entry rest ih =>
    obtain ⟨here, others⟩ := List.forall_mem_cons.mp orderly
    rw [List.lookup_cons] at there
    split at there
    · cases there
      exact here
    · exact ih others there

/-- A node that may hold what has been built below it. -/
theorem nodeYield_orderly {content : NodeContent}
    (holds : content.kind.Holds (body.shapes.map Shape.kind))
    (below : ∀ shape ∈ body.shapes, shape.Orderly) :
    ∀ shape ∈ (nodeYield content body).shapes, shape.Orderly ∧ shape.kind = content.kind := by
  rw [nodeYield]
  split
  · simpa [Shape.kind] using Shape.Orderly.node holds below
  · have bound : (content.bindAll body.values).kind.Holds (body.shapes.map Shape.kind) := by
      rwa [NodeContent.bindAll_kind]
    simpa [Shape.kind] using Shape.Orderly.node bound below

/-- A node that holds body parts. -/
theorem bodyYield_orderly {content : NodeContent} (orderly : body.Orderly)
    (holds : content.kind.Holds = fun below => ∀ kind ∈ below, kind.isBodyPart) :
    ∀ shape ∈ (nodeYield content body).shapes, shape.Orderly ∧ shape.kind = content.kind := by
  refine nodeYield_orderly ?_ fun shape member => (orderly shape member).1
  rw [holds]
  intro kind member
  obtain ⟨shape, among, rfl⟩ := List.mem_map.mp member
  exact (orderly shape among).2

theorem segmentContent_holds (pattern : Pattern) (id : Option String) :
    (segmentContent pattern id).kind.isBodyPart = true ∧
      (segmentContent pattern id).kind.Holds = fun below => ∀ kind ∈ below, kind.isBodyPart := by
  simp only [segmentContent]
  split <;> exact ⟨rfl, rfl⟩

theorem segmentsYield_orderly (id : Option String) (orderly : body.Orderly)
    (patterns : List Pattern) : (segmentsYield id body patterns).Orderly := by
  have segment (pattern : Pattern) (id : Option String) {inner : Yield} (ordered : inner.Orderly) :
      (nodeYield (segmentContent pattern id) inner).Orderly := by
    obtain ⟨part, holds⟩ := segmentContent_holds pattern id
    intro shape member
    obtain ⟨within, kind⟩ := bodyYield_orderly ordered holds shape member
    exact ⟨within, kind ▸ part⟩
  induction patterns with
  | nil =>
    intro shape member
    obtain ⟨within, kind⟩ :=
      @bodyYield_orderly body { kind := .blankPath id } orderly rfl shape member
    exact ⟨within, by rw [kind]; rfl⟩
  | cons pattern rest ih =>
    cases rest with
    | nil => exact segment pattern id orderly
    | cons next later => exact segment pattern none ih

/-! ### Elements without others inside -/

theorem argumentShape?_orderly {shape : Shape} (done : argumentShape? spec = some shape) :
    shape.Orderly ∧ shape.kind.isArgument := by
  obtain ⟨-, -, rfl⟩ := argumentShape?_iff.mp done
  exact ⟨.node rfl (by simp), rfl⟩

theorem callShape?_orderly {shape : Shape} (done : callShape? spec = some shape) :
    shape.Orderly ∧ ∃ function arguments, shape.kind = .call function arguments := by
  obtain ⟨function, stated, shapes, read, rfl⟩ := exists_of_callShape? done
  have each : ∀ shape ∈ shapes, shape.Orderly ∧ shape.kind.isArgument := by
    intro shape member
    obtain ⟨argument, -, argued⟩ := mapM_some_origin read shape member
    exact argumentShape?_orderly argued
  refine ⟨.node ?_ fun shape member => (each shape member).1, _, _, rfl⟩
  intro kind member
  obtain ⟨shape, among, rfl⟩ := List.mem_map.mp member
  exact (each shape among).2

theorem simpleYield?_orderly (done : simpleYield? spec = some yield) : yield.Orderly := by
  rcases simpleYield?_cases done with ⟨name, value, rfl⟩ | ⟨fields, rfl⟩ | ⟨entry, rfl⟩
    | ⟨shape, called, rfl⟩
  · intro shape member
    obtain ⟨within, kind⟩ :=
      @nodeYield_orderly {} { kind := .set name value } rfl (by simp) shape member
    exact ⟨within, by rw [kind]; rfl⟩
  · intro shape member
    obtain ⟨within, kind⟩ :=
      @nodeYield_orderly {} { kind := .return fields } rfl (by simp) shape member
    exact ⟨within, by rw [kind]; rfl⟩
  · simp [Yield.Orderly]
  · obtain ⟨orderly, function, arguments, kind⟩ := callShape?_orderly called
    simpa [Yield.Orderly, kind, NodeKind.isBodyPart] using orderly

/-! ### Switches -/

/-- Cases of a switch, with so many defaults at most. -/
structure CasesOrderly (shapes : List Shape) (defaults : Nat) : Prop where
  each : ∀ shape ∈ shapes, shape.Orderly ∧ shape.kind.isCase
  once : (shapes.map Shape.kind).count .default ≤ defaults

theorem switchYield_orderly {settled : Option String × List Shape} {cases_ : List Shape}
    (done : settle? spec = some settled) (orderly : CasesOrderly cases_ 1) :
    (switchYield settled { shapes := cases_ }).Orderly := by
  have kinds : ∀ kind ∈ cases_.map Shape.kind, kind.isCase := by
    intro kind member
    obtain ⟨shape, among, rfl⟩ := List.mem_map.mp member
    exact (orderly.each shape among).2
  have parts : (NodeKind.switch settled.1).Holds ((settled.2 ++ cases_).map Shape.kind) ∧
      ∀ shape ∈ settled.2, shape.Orderly := by
    rw [List.map_append]
    rcases settle?_cases done with ⟨value, rfl⟩ | ⟨call, shape, called, rfl⟩
    · exact ⟨.stated kinds orderly.once, by simp⟩
    · obtain ⟨own, function, arguments, kind⟩ := callShape?_orderly called
      refine ⟨?_, by simpa using own⟩
      rw [List.map_singleton, kind]
      exact .called kinds orderly.once
  intro shape member
  obtain ⟨within, kind⟩ := @nodeYield_orderly _ { kind := .switch settled.1 } parts.1
    (List.forall_mem_append.mpr ⟨parts.2, fun shape member => (orderly.each shape member).1⟩)
    shape member
  exact ⟨within, by rw [kind]; rfl⟩

/-! ### Elements -/

mutual

theorem elaborate_orderly {known found : Yields} {declares : Bool} {yield : Yield}
    (orderly : known.Orderly) :
    (spec : SpecNode) → elaborate known declares spec = some (found, yield) →
      found.Orderly ∧ yield.Orderly
  | ⟨kind, attributes, text, children⟩, done => by
    cases kind with
    | block =>
      obtain ⟨name, -, body, inside, rfl, rfl⟩ := elaborate_block_iff.mp done
      have within := elaborateAll_orderly orderly children inside
      exact ⟨List.forall_mem_cons.mpr ⟨within, orderly⟩, .none⟩
    | ref =>
      obtain ⟨name, -, there, rfl⟩ := elaborate_ref_iff.mp done
      exact ⟨orderly, orderly.lookup there⟩
    | path =>
      obtain ⟨patterns, -, body, inside, rfl, rfl⟩ := elaborate_path_iff.mp done
      exact ⟨orderly, segmentsYield_orderly _ (elaborateAll_orderly orderly children inside) patterns⟩
    | switch =>
      obtain ⟨settled, read, cases_, inside, rfl, rfl⟩ := elaborate_switch_iff.mp done
      exact ⟨orderly, switchYield_orderly read (elaborateCases_orderly orderly children inside)⟩
    | test =>
      obtain ⟨content, read, body, inside, rfl, rfl⟩ := elaborate_test_iff.mp done
      obtain ⟨pattern, -, regex, -, rfl⟩ := testContent?_iff.mp read
      refine ⟨orderly, fun shape member => ?_⟩
      obtain ⟨within, same⟩ :=
        bodyYield_orderly (elaborateAll_orderly orderly children inside) rfl shape member
      exact ⟨within, by rw [same]; rfl⟩
    | parameter =>
      obtain ⟨-, rfl, rfl⟩ := elaborate_parameter_iff.mp done
      exact ⟨orderly, .none⟩
    | set | arg | «return» | call =>
      obtain ⟨read, rfl⟩ := (elaborate_simple_iff (by simp)).mp done
      exact ⟨orderly, simpleYield?_orderly read⟩
    | _ =>
      rw [elaborate] at done
      cases done

theorem elaborateAll_orderly {known : Yields} {declares : Bool} {yield : Yield}
    (orderly : known.Orderly) :
    (specs : List SpecNode) → elaborateAll known declares specs = some yield → yield.Orderly
  | [], done => by
    rw [elaborateAll] at done
    cases done
    exact .none
  | spec :: rest, done => by
    obtain ⟨found, first, here, later, behind, rfl⟩ := elaborateAll_cons_iff.mp done
    obtain ⟨ordered, own⟩ := elaborate_orderly orderly spec here
    exact own.append (elaborateAll_orderly ordered rest behind)

theorem elaborateCases_orderly {known : Yields} {hasDefault : Bool} {shapes : List Shape}
    (orderly : known.Orderly) :
    (specs : List SpecNode) → elaborateCases known hasDefault specs = some shapes →
      CasesOrderly shapes (if hasDefault then 0 else 1)
  | [], done => by
    rw [elaborateCases] at done
    cases done
    exact ⟨by simp, by simp⟩
  | ⟨kind, attributes, text, children⟩ :: rest, done => by
    cases kind with
    | value =>
      rw [elaborateCases_value] at done
      exact elaborateCases_orderly orderly rest done
    | case =>
      obtain ⟨value, -, body, inside, later, behind, rfl⟩ := elaborateCases_case_iff.mp done
      have others := elaborateCases_orderly orderly rest behind
      have here := @bodyYield_orderly body { kind := .case value }
        (elaborateAll_orderly orderly children inside) rfl
      refine ⟨List.forall_mem_append.mpr ⟨fun shape member => ?_, others.each⟩, ?_⟩
      · obtain ⟨within, kind⟩ := here shape member
        exact ⟨within, by rw [kind]; rfl⟩
      · simpa [nodeYield, NodeKind.isBlank, Shape.kind] using others.once
    | default =>
      obtain ⟨rfl, body, inside, later, behind, rfl⟩ := elaborateCases_default_iff.mp done
      have others := elaborateCases_orderly orderly rest behind
      have here := @bodyYield_orderly body { kind := .default }
        (elaborateAll_orderly orderly children inside) rfl
      refine ⟨List.forall_mem_append.mpr ⟨fun shape member => ?_, others.each⟩, ?_⟩
      · obtain ⟨within, kind⟩ := here shape member
        exact ⟨within, by rw [kind]; rfl⟩
      -- the default uses up what is allowed, so the others have none
      · simpa [nodeYield, NodeKind.isBlank, Shape.kind] using others.once
    | _ =>
      rw [elaborateCases] at done
      cases done
      all_goals simp

end

end RouteTree

end Signpost

import Signpost.Proofs.Moved
import Signpost.Proofs.Pattern.Parts
import Signpost.Proofs.Tree.Hygiene
import Signpost.Proofs.Tree.RouteListing

/-!
# Documents with moved literal paths

Two documents may differ in the places of the literal paths among the children of one element. What
elements yield is compared from the place of the difference upwards: below one node, or among the trees
that are yielded themselves, trees that take a literal have been moved, and nothing else is different.
So the values that are bound stay the same, and so do the routes, but for the order in which they are
listed.
-/
namespace Signpost

namespace SpecNode

open Text

/-- A path whose first segment is literal. -/
def isLiteralPath (spec : SpecNode) : Bool :=
  spec.kind = .path && match splitRoute ((spec.attribute? "pattern").getD "") with
    | first :: _ => (Pattern.read first).toOption.any Pattern.isLiteral
    | [] => false

/-- In the children of one element, which may be the document itself, literal paths have been moved to
other positions. -/
inductive Shifted : SpecNode → SpecNode → Prop
  | here {kind : SpecKind} {attributes : Attributes} {text : Option String}
    {children others : List SpecNode} (moved : Moved isLiteralPath children others) :
    Shifted ⟨kind, attributes, text, children⟩ ⟨kind, attributes, text, others⟩
  | deeper {kind : SpecKind} {attributes : Attributes} {text : Option String} {child other : SpecNode}
    (front back : List SpecNode) (inside : Shifted child other) :
    Shifted ⟨kind, attributes, text, front ++ child :: back⟩
      ⟨kind, attributes, text, front ++ other :: back⟩

theorem isLiteralPath_kind {spec : SpecNode} (literal : spec.isLiteralPath = true) :
    spec.kind = .path := by
  rw [isLiteralPath, Bool.and_eq_true] at literal
  exact of_decide_eq_true literal.1

theorem not_isLiteralPath {spec : SpecNode} (other : spec.kind ≠ .path) :
    spec.isLiteralPath = false := by
  rw [isLiteralPath, decide_eq_false other, Bool.false_and]

end SpecNode

/-! ### Trees -/

namespace Shape

/-- Among trees, or among the children of one node of theirs, those with a literal have been moved. -/
inductive Shifted : List Shape → List Shape → Prop
  | here {shapes others : List Shape} (moved : Moved (·.kind.literal?.isSome) shapes others) :
    Shifted shapes others
  | deeper {content : NodeContent} {children others : List Shape} (front back : List Shape)
    (inside : Shifted children others) :
    Shifted (front ++ .node content children :: back) (front ++ .node content others :: back)

theorem Shifted.refl (shapes : List Shape) : Shifted shapes shapes := .here (.refl _ shapes)

theorem Shifted.frame {shapes others : List Shape} (shifted : Shifted shapes others)
    (front back : List Shape) : Shifted (front ++ shapes ++ back) (front ++ others ++ back) := by
  cases shifted with
  | here moved => exact .here (moved.frame front back)
  | deeper first last inside => simpa using Shifted.deeper (front ++ first) (last ++ back) inside

/-- The routes are the same but for their order. -/
theorem Shifted.routes {shapes others : List Shape} (shifted : Shifted shapes others)
    (above : List Pattern) : (routesAll above others).Perm (routesAll above shapes) := by
  induction shifted generalizing above with
  | here moved =>
    rw [routesAll_eq, routesAll_eq]
    exact moved.perm.flatMap_right _
  | deeper front back _ ih =>
    rw [routesAll_append, routesAll_append, routesAll, routesAll, Shape.routes, Shape.routes]
    exact ((((ih _).append_left _).append_right _).append_left _)

end Shape

/-- The same values, and trees of which some with a literal have been moved. -/
structure Yield.Shifted (yield other : Yield) : Prop where
  values : other.values = yield.values
  shapes : Shape.Shifted yield.shapes other.shapes

namespace Yield.Shifted

variable {yield other : Yield}

theorem refl (yield : Yield) : yield.Shifted yield := ⟨rfl, .refl _⟩

theorem append_left (shifted : yield.Shifted other) (rest : Yield) :
    (yield.append rest).Shifted (other.append rest) := by
  constructor
  · simp only [Yield.append, shifted.values]
  · simpa [Yield.append] using shifted.shapes.frame [] rest.shapes

theorem append_right (shifted : yield.Shifted other) (first : Yield) :
    (first.append yield).Shifted (first.append other) := by
  constructor
  · simp only [Yield.append, shifted.values]
  · simpa [Yield.append] using shifted.shapes.frame first.shapes []

end Yield.Shifted

namespace RouteTree

open SpecNode Text

theorem nodeYield_shifted {body body' : Yield} (content : NodeContent)
    (shifted : body.Shifted body') :
    (nodeYield content body).Shifted (nodeYield content body') := by
  have one (content : NodeContent) :
      Shape.Shifted [.node content body.shapes] [.node content body'.shapes] :=
    .deeper [] [] shifted.shapes
  rw [nodeYield, nodeYield]
  split
  · exact ⟨shifted.values, one content⟩
  · rw [shifted.values]
    exact ⟨rfl, one _⟩

theorem segmentsYield_shifted {body body' : Yield} (id : Option String) (shifted : body.Shifted body')
    (patterns : List Pattern) :
    (segmentsYield id body patterns).Shifted (segmentsYield id body' patterns) := by
  induction patterns with
  | nil => exact nodeYield_shifted _ shifted
  | cons pattern rest ih =>
    cases rest with
    | nil => exact nodeYield_shifted _ shifted
    | cons next later => exact nodeYield_shifted _ ih

theorem switchYield_shifted {cases others : List Shape} (settled : Option String × List Shape)
    (shifted : Shape.Shifted cases others) :
    (switchYield settled { shapes := cases }).Shifted (switchYield settled { shapes := others }) := by
  have same : Yield.Shifted { shapes := cases } { shapes := others } := ⟨rfl, shifted⟩
  exact nodeYield_shifted _ (same.append_right _)

/-! ### What a literal path yields -/

theorem applyDeclaration_first {route : String} {declaration : SpecNode} {first : Pattern}
    {rest after : List Pattern} (literal : first.isLiteral = true)
    (applied : applyDeclaration route (first :: rest) declaration = .ok after) :
    ∃ first' rest', after = first' :: rest' ∧ first'.isLiteral = true := by
  obtain ⟨name, -, applied⟩ := bind_ok_iff.mp applied
  split at applied
  next result changed =>
    subst applied
    rw [changeLast?] at changed
    split at changed
    next deeper _ =>
      cases deeper with
      | error => cases changed
      | ok others =>
        cases changed
        exact ⟨first, others, rfl, literal⟩
    -- a literal pattern has no parameter that a declaration could be about
    next =>
      rw [Pattern.parameter?, List.isEmpty_iff.mp literal] at changed
      cases changed
  next => cases applied

theorem pathPatterns_first {spec : SpecNode} {patterns : List Pattern}
    (literal : spec.isLiteralPath = true) (found : pathPatterns spec = .ok patterns) :
    ∃ first rest, patterns = first :: rest ∧ first.isLiteral = true := by
  rw [isLiteralPath, Bool.and_eq_true] at literal
  obtain ⟨-, literal⟩ := literal
  obtain ⟨taken, read, declared⟩ := bind_ok_iff.mp found
  have each := mapM_ok_iff.mp (mapError_ok_iff.mp read)
  have initial : ∃ first rest, taken = first :: rest ∧ first.isLiteral = true := by
    generalize splitRoute ((spec.attribute? "pattern").getD "") = sources at literal each
    cases each with
    | nil => cases literal
    | cons here _ => exact ⟨_, _, rfl, by simpa [here, Except.toOption] using literal⟩
  clear each literal read found
  generalize spec.children.filter (fun child => child.kind = .parameter) = declarations at declared
  induction declarations generalizing taken with
  | nil =>
    cases pure_ok_iff.mp declared
    exact initial
  | cons declaration others ih =>
    obtain ⟨first, rest, rfl, literal⟩ := initial
    rw [List.foldlM_cons] at declared
    obtain ⟨middle, applied, later⟩ := bind_ok_iff.mp declared
    exact ih middle (applyDeclaration_first literal applied) later

/-- A literal path yields one tree, which takes a literal, and no values. -/
theorem elaborate_literalPath {known found : Yields} {declares : Bool} {spec : SpecNode}
    {yield : Yield} (literal : spec.isLiteralPath = true)
    (done : elaborate known declares spec = some (found, yield)) :
    yield.values = [] ∧ ∀ shape ∈ yield.shapes, shape.kind.literal?.isSome = true := by
  obtain ⟨kind, attributes, text, children⟩ := spec
  cases isLiteralPath_kind literal
  obtain ⟨patterns, read, body, -, -, rfl⟩ := elaborate_path_iff.mp done
  obtain ⟨first, rest, rfl, literal⟩ := pathPatterns_first literal read
  obtain ⟨taken, written⟩ := (pathPatterns_arise read first List.mem_cons_self).literal literal
  -- the outermost node of the chain is that of the first segment
  have outermost (id : Option String) (inner : Yield) :
      (nodeYield (segmentContent first id) inner).values = [] ∧
        ∀ shape ∈ (nodeYield (segmentContent first id) inner).shapes,
          shape.kind.literal?.isSome = true := by
    rw [nodeYield, (segmentContent_solid first id).1]
    simp [Shape.kind, segmentContent, literal, NodeKind.literal?, written]
  cases rest with
  | nil => exact outermost _ _
  | cons => exact outermost _ _

end RouteTree

end Signpost

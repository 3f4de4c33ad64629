import Signpost.Proofs.Pattern.Written
import Signpost.Proofs.Tree.Inlining
import Signpost.Tree.Level

/-!
# Chains of segments

A document whose only path has a return at its end becomes a chain of nodes, one for each segment. The
chain can always be built, since no level of it has more than one path, and it has a single route.
-/
namespace Signpost

/-! ### The document -/

/-- A field with the name of a placeholder and the value that the placeholder takes. -/
def Slot.field (slot : Slot) : String × String := (slot.name, "\x7b" ++ slot.name ++ "\x7d")

namespace Segment

/-- The fields of the placeholders of segments. -/
def fields (segments : List Segment) : Attributes := .ofList ((slots segments).map Slot.field)

def path (id : String) (segments : List Segment) : SpecNode :=
  ((SpecNode.path (route segments)).withAttribute "id" id).withChild
    { SpecNode.returning with attributes := fields segments }

/-- A router with one path, and at its end a return of everything that the path takes. -/
def document (id : String) (segments : List Segment) : SpecNode :=
  SpecNode.router.withChild (path id segments)

theorem pathPatterns_path (id : String) (segments : List Segment) :
    RouteTree.pathPatterns (path id segments) = .ok (segments.map pattern) := by
  have route_ : (path id segments).attribute? "pattern" = some (route segments) := by
    change ((Attributes.empty.insert "pattern" (route segments)).insert "id" id).get? "pattern" = _
    rw [Attributes.get?_insert, Attributes.get?_insert]
    simp
  have taken : (segments.map source).mapM Pattern.read = .ok (segments.map pattern) :=
    mapM_map_ok fun segment _ => segment.read_source
  rw [RouteTree.pathPatterns, route_, Option.getD_some, splitRoute_route, taken]
  rfl

end Segment

/-! ### The chain -/

namespace RouteTree

open Shape

/-- A chain of paths with something at its end; the last path has the id. -/
def chain (id : Option String) (leaf : Shape) : List Pattern → Shape
  | [] => leaf
  | pattern :: rest =>
    .node (segmentContent pattern (if rest.isEmpty then id else none)) [chain id leaf rest]

theorem segmentsYield_chain (id : Option String) (leaf : Shape) {patterns : List Pattern}
    (filled : patterns ≠ []) :
    segmentsYield id { shapes := [leaf] } patterns = { shapes := [chain id leaf patterns] } := by
  have wrapped (pattern : Pattern) (id : Option String) (shape : Shape) :
      nodeYield (segmentContent pattern id) { shapes := [shape] }
        = { shapes := [.node (segmentContent pattern id) [shape]] } := by
    simp [nodeYield, (segmentContent_solid pattern id).1, NodeContent.bindAll]
  induction patterns with
  | nil => exact absurd rfl filled
  | cons pattern rest ih =>
    cases rest with
    | nil => exact wrapped pattern id leaf
    | cons next more =>
      rw [segmentsYield, ih (List.cons_ne_nil next more), wrapped]
      · rfl
      · simp

/-- A shape that is no blank path has at most one literal on its level. -/
theorem literals_nodup {content : NodeContent} {children : List Shape}
    (solid : content.kind.isBlank = false) : (literalsAll [.node content children]).Nodup := by
  simp only [literalsAll, literals, solid, List.append_nil]
  cases content.kind.literal? <;> simp

/-- A chain fits into an empty tree. -/
theorem chain_fits (id : Option String) {content : NodeContent}
    (solid : content.kind.isBlank = false) (patterns : List Pattern) :
    Arena.start.Fits Arena.root [chain id (.node content []) patterns] := by
  have apart (patterns : List Pattern) :
      (literalsAll [chain id (.node content []) patterns]).Nodup := by
    cases patterns with
    | nil => exact literals_nodup solid
    | cons pattern rest => exact literals_nodup (segmentContent_solid pattern _).1
  have distinct : (chain id (.node content []) patterns).Distinct := by
    induction patterns with
    | nil => exact .node (by simp) (by simp [literalsAll])
    | cons pattern rest ih => exact .node (by simpa using ih) fun _ => apart rest
  exact ⟨apart patterns, fun _ _ => rfl, by simpa using distinct⟩

end RouteTree

/-! ### Its route and its levels -/

/-- One member on every level, each taking the next pattern, and a return below the last. -/
inductive LevelTree.Leads (attributes : Attributes) : List Pattern → LevelTree → Prop
  | last {id leaf : NodeId} {content : NodeContent} {outer : List String}
    (valueless : content.values = []) :
    Leads attributes [] (.node id content outer
      [.node leaf { kind := .return attributes } (outer ++ content.localVars) []])
  | step {id : NodeId} {content : NodeContent} {outer : List String} {member : LevelTree}
    {pattern : Pattern} {routeId : Option String} {rest : List Pattern}
    (valueless : content.values = []) (own : member.content = RouteTree.segmentContent pattern routeId)
    (visible : member.outer = outer ++ content.localVars) (leads : Leads attributes rest member) :
    Leads attributes (pattern :: rest) (.node id content outer [member])

namespace Subtree

theorem shapeAll_single {trees : List Subtree} {shape : Shape} (same : shapeAll trees = [shape]) :
    ∃ tree, trees = [tree] ∧ tree.shape = shape := by
  rw [shapeAll_eq, List.map_eq_singleton_iff] at same
  exact same

/-- A tree whose shape is a chain leads along it. -/
theorem leads_of_shape {attributes : Attributes} {routeId : Option String} {patterns : List Pattern}
    {children : List Subtree} (shape : shapeAll children
      = [RouteTree.chain routeId (.node { kind := .return attributes } []) patterns])
    (id : NodeId) {content : NodeContent} (valueless : content.values = []) (outer : List String) :
    (LevelTree.node id content outer (dissolveAll (outer ++ content.localVars) children)).Leads
      attributes patterns := by
  induction patterns generalizing children id content outer with
  | nil =>
    obtain ⟨⟨leaf, own, below⟩, rfl, same⟩ := shapeAll_single shape
    obtain ⟨rfl, none⟩ := Shape.node.inj same
    rw [shapeAll_eq, List.map_eq_nil_iff] at none
    subst none
    exact .last valueless
  | cons pattern rest ih =>
    obtain ⟨⟨child, own, below⟩, rfl, same⟩ := shapeAll_single shape
    obtain ⟨rfl, deeper⟩ := Shape.node.inj same
    have solid := (RouteTree.segmentContent_solid pattern
      (if rest.isEmpty then routeId else none)).1
    simp only [dissolveAll, dissolve, solid, Bool.false_eq_true, if_false, List.append_nil]
    exact .step valueless rfl rfl (ih deeper child rfl _)

end Subtree

namespace RouteTable

theorem collectAll_chain {id : String} {attributes : Attributes} {patterns : List Pattern}
    (filled : patterns ≠ []) {children : List Subtree} (shape : Subtree.shapeAll children
      = [RouteTree.chain (some id) (.node { kind := .return attributes } []) patterns])
    (above : List Pattern) :
    collectAll {} above children = .ok ⟨[⟨id, above ++ patterns⟩]⟩ := by
  -- a return adds nothing to a table
  have leaf {table : RouteTable} {above : List Pattern} {children : List Subtree}
      (shape : Subtree.shapeAll children = [.node { kind := .return attributes } []]) :
      collectAll table above children = .ok table := by
    obtain ⟨⟨leaf, own, below⟩, rfl, same⟩ := Subtree.shapeAll_single shape
    obtain ⟨rfl, none⟩ := Shape.node.inj same
    rw [Subtree.shapeAll_eq, List.map_eq_nil_iff] at none
    subst none
    rfl
  induction patterns generalizing children above with
  | nil => exact absurd rfl filled
  | cons pattern rest ih =>
    obtain ⟨⟨child, own, below⟩, rfl, same⟩ := Subtree.shapeAll_single shape
    obtain ⟨rfl, deeper⟩ := Shape.node.inj same
    obtain ⟨-, taken, named⟩ := RouteTree.segmentContent_solid pattern
      (if rest.isEmpty then some id else none)
    rw [collectAll, collect, taken, named]
    -- the last path has the id, and the others have none
    cases rest with
    | nil =>
      change ((insert {} ⟨id, above ++ [pattern]⟩ >>= fun table =>
        table.collectAll (above ++ [pattern]) below) >>= fun table => table.collectAll above []) = _
      change (collectAll ⟨[⟨id, above ++ [pattern]⟩]⟩ _ below >>= _) = _
      rw [leaf deeper]
      rfl
    | cons next more =>
      change (collectAll {} (above ++ [pattern]) below >>= fun table => table.collectAll above []) = _
      rw [ih (List.cons_ne_nil next more) deeper, List.append_assoc]
      rfl

end RouteTable

namespace Segment

/-- The return at the end of a chain of segments. -/
def leaf (segments : List Segment) : Shape := .node { kind := .return (fields segments) } []

/-- What the path of segments yields is read off without an arena. -/
theorem elaborate_path (id : String) {segments : List Segment} (filled : segments ≠ []) :
    RouteTree.elaborateAll [] false [path id segments]
      = some { shapes := [RouteTree.chain (some id) (leaf segments) (segments.map pattern)] } := by
  have id_ : (path id segments).attribute? "id" = some id := by
    change ((Attributes.empty.insert "pattern" (route segments)).insert "id" id).get? "id" = _
    rw [Attributes.get?_insert, if_pos rfl]
  have below (declares : Bool) : RouteTree.elaborateAll [] declares (path id segments).children
      = some { shapes := [leaf segments] } := RouteTree.elaborateAll_single [] rfl
  have chained : RouteTree.elaborate [] false (path id segments)
      = some ([], RouteTree.segmentsYield ((path id segments).attribute? "id")
        { shapes := [leaf segments] } (segments.map pattern)) :=
    RouteTree.elaborate_path_iff.mpr
      ⟨_, pathPatterns_path id segments, _, below _, rfl, rfl⟩
  rw [id_, RouteTree.segmentsYield_chain (some id) (leaf segments) (by simpa using filled)] at chained
  exact RouteTree.elaborateAll_single [] chained

theorem path_plain (id : String) (segments : List Segment) : (path id segments).Plain := by
  apply SpecNode.Plain.node
  · exact SpecKind.noConfusion
  · exact SpecKind.noConfusion
  · intro child member
    cases List.mem_singleton.mp member
    exact .node SpecKind.noConfusion SpecKind.noConfusion fun _ none => nomatch none

/-- The document of segments is built into their chain, above which nothing is visible. -/
theorem build_document (id : String) {segments : List Segment} (filled : segments ≠ []) :
    ∃ tree, RouteTree.build (document id segments) = .ok tree ∧
      tree.routes = ⟨[⟨id, segments.map pattern⟩]⟩ ∧
      (tree.arena.subtree Arena.root).levels.visible = [] ∧
      (tree.arena.subtree Arena.root).levels.Leads (fields segments) (segments.map pattern) := by
  have plain : ∀ spec ∈ [path id segments], spec.Plain := by simpa using path_plain id segments
  have yields := elaborate_path id filled
  -- there is room for what the path yields, so it is built and the arena grows by just that
  obtain ⟨arena, built⟩ := RouteTree.buildChildren_complete RouteTree.start_site _ plain yields
    (RouteTree.chain_fits (some id) rfl _)
  obtain ⟨again, same, grows⟩ :=
    RouteTree.buildChildren_grows RouteTree.start_site RouteTree.Keeps.none _ built
  cases yields.symm.trans same
  have shape := RouteTree.shape_root grows
  rw [Arena.shape] at shape
  cases tree : arena.subtree Arena.root with
  | node root content children =>
    rw [tree] at shape
    obtain ⟨rfl, below⟩ := Shape.node.inj shape
    have collected : RouteTable.collect {} [] (arena.subtree Arena.root)
        = .ok ⟨[⟨id, segments.map pattern⟩]⟩ := by
      rw [tree]
      exact RouteTable.collectAll_chain (by simpa using filled) below []
    refine ⟨⟨arena, ⟨[⟨id, segments.map pattern⟩]⟩⟩,
      RouteTree.build_ok_iff.mpr ⟨rfl, built, collected⟩, rfl, ?_⟩
    rw [tree]
    exact ⟨rfl, Subtree.leads_of_shape below root rfl []⟩

end Segment

end Signpost

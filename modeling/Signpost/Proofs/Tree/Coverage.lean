import Signpost.Machine
import Signpost.Proofs.Tree.Shape
import Signpost.Tree.Level

/-!
# Names that nodes bind

While a request runs, the frame of a node binds the names of its values, of the parameters of its
pattern or of the groups of its test. All of these stand among the local names of the node, for
every node of every tree that is built. In the levels of such a tree, the names around a node
therefore hold every name that a frame around it can bind.
-/
namespace Signpost

/-- The names of the frame that a match of an expression makes. -/
def Regex.frameNames (regex : Regex) : List String :=
  (List.range (regex.groupCount + 1)).map toString ++ regex.groupNames

/-- Every name that the frames of a node bind is one of its local names. -/
structure NodeContent.Covered (content : NodeContent) : Prop where
  values : ∀ entry ∈ content.values, entry.1 ∈ content.localVars
  parameters : ∀ pattern, content.kind.pattern? = some pattern →
    ∀ parameter ∈ pattern.parameters, parameter.name ∈ content.localVars
  groups : ∀ source subject regex, content.kind = .test source subject →
    Regex.compile? source = some regex → regex.frameNames ⊆ content.localVars

theorem NodeContent.Fresh.covered {content : NodeContent} (fresh : content.Fresh) :
    content.Covered := by
  cases fresh with
  | @segment pattern arises id =>
    -- a segment has made the names of its parameters local, and it is no test
    have pattern_eq : (RouteTree.segmentContent pattern id).kind.pattern? = some pattern := by
      simp only [RouteTree.segmentContent]
      split <;> rfl
    refine ⟨by simp [RouteTree.segmentContent], ?_, ?_⟩
    · intro other stands parameter member
      rw [pattern_eq] at stands
      cases stands
      exact List.mem_map_of_mem member
    · intro source subject regex stands
      simp only [RouteTree.segmentContent] at stands
      split at stands <;> cases stands
  | test compiled =>
    refine ⟨by simp, by simp [NodeKind.pattern?], ?_⟩
    intro source subject regex stands again name member
    cases stands
    rw [compiled] at again
    cases again
    exact List.mem_eraseDups.mpr member
  | plain segmentless testless =>
    refine ⟨by simp, ?_, ?_⟩
    · intro pattern stands
      rw [segmentless] at stands
      cases stands
    · intro source subject regex stands
      exact absurd stands (testless source subject)

theorem NodeContent.Covered.kind_irrelevant {kind other : NodeKind}
    {values : List (String × String)} {localVars : List String}
    (covered : NodeContent.Covered { kind, values, localVars })
    (segmentless : other.pattern? = none) (testless : ∀ source subject, other ≠ .test source subject) :
    NodeContent.Covered { kind := other, values, localVars } := by
  refine ⟨covered.values, ?_, ?_⟩
  · intro pattern stands
    rw [segmentless] at stands
    cases stands
  · intro source subject regex stands
    exact absurd stands (testless source subject)

theorem NodeContent.Covered.bind {content : NodeContent} (covered : content.Covered)
    (name value : String) : (content.bind name value).Covered := by
  by_cases bound : content.Binds name
  · rw [bind_bound bound]
    refine ⟨?_, covered.parameters, covered.groups⟩
    intro entry member
    obtain ⟨old, there, rfl⟩ := List.mem_map.mp member
    have named := covered.values old there
    dsimp only
    split
    next same => exact same ▸ named
    next => exact named
  · rw [bind_unbound bound]
    -- a name that has not been bound becomes a local name along with its value
    have grown : name :: content.localVars ⊆ (if name ∈ content.localVars then content.localVars
        else content.localVars ++ [name]) := by
      split
      next known => exact List.cons_subset.mpr ⟨known, List.Subset.refl _⟩
      next =>
        intro other member
        simpa [or_comm] using member
    obtain ⟨added, kept⟩ := List.cons_subset.mp grown
    refine ⟨?_, ?_, ?_⟩
    · intro entry member
      rcases List.mem_append.mp member with old | new
      · exact kept (covered.values entry old)
      · cases List.mem_singleton.mp new
        exact added
    · exact fun pattern stands parameter member =>
        kept (covered.parameters pattern stands parameter member)
    · exact fun source subject regex stands compiled =>
        List.Subset.trans (covered.groups source subject regex stands compiled) kept

namespace Arena

def Covered (arena : Arena) : Prop := ∀ id : Nat, (arena.node id).toNodeContent.Covered

theorem start_covered : start.Covered := by
  intro id
  rw [node_start]
  exact (NodeContent.Fresh.plain rfl (by simp)).covered

theorem Step.covered {arena grown : Arena} (step : Step arena grown) (covered : arena.Covered) :
    grown.Covered :=
  step.contents (fun _ fresh => fresh.covered)
    (fun _ name value before => Node.setValue_content _ name value ▸ before.bind name value)
    (fun _ _ _ before => before.kind_irrelevant rfl (by simp)) covered

end Arena

/-- Every node of a tree that has been built is covered. -/
theorem RouteTree.build_covered {spec : SpecNode} {tree : RouteTree} (built : build spec = .ok tree) :
    tree.arena.Covered :=
  (build_steps built).keeps Arena.Step.covered Arena.start_covered

/-- In the levels of covered nodes, the names around a member hold those of the node above it. -/
inductive LevelTree.Covered : LevelTree → Prop
  | node {id : NodeId} {content : NodeContent} {outer : List String} {members : List LevelTree}
    (here : content.Covered)
    (nested : ∀ member ∈ members, outer ++ content.localVars ⊆ member.outer)
    (below : ∀ member ∈ members, Covered member) : Covered (.node id content outer members)

namespace Subtree

mutual

theorem dissolve_covered {outer : List String} : {tree : Subtree} → tree.All NodeContent.Covered →
    ∀ member ∈ tree.dissolve outer, outer ⊆ member.outer ∧ member.Covered
  | .node id content children, all, member, there => by
    obtain ⟨here, below⟩ : content.Covered ∧ ∀ child ∈ children, child.All NodeContent.Covered := by
      cases all with
      | node here below => exact ⟨here, below⟩
    have inner : ∀ member ∈ dissolveAll (outer ++ content.localVars) children,
        outer ++ content.localVars ⊆ member.outer ∧ member.Covered := dissolveAll_covered below
    rw [dissolve] at there
    split at there
    · obtain ⟨visible, covered⟩ := inner member there
      exact ⟨fun name known => visible (List.mem_append_left _ known), covered⟩
    · cases List.mem_singleton.mp there
      exact ⟨fun _ known => known,
        .node here (fun other inside => (inner other inside).1) fun other inside =>
          (inner other inside).2⟩

theorem dissolveAll_covered {outer : List String} : {trees : List Subtree} →
    (∀ tree ∈ trees, tree.All NodeContent.Covered) →
    ∀ member ∈ dissolveAll outer trees, outer ⊆ member.outer ∧ member.Covered
  | [], _, _, there => by simp [dissolveAll] at there
  | tree :: rest, all, member, there => by
    rw [dissolveAll] at there
    rcases List.mem_append.mp there with first | later
    · exact dissolve_covered (all tree List.mem_cons_self) member first
    · exact dissolveAll_covered (fun other inside => all other (List.mem_cons_of_mem _ inside))
        member later

end

theorem levels_covered {tree : Subtree} (all : tree.All NodeContent.Covered) :
    tree.levels.Covered := by
  cases all with
  | node here below =>
    exact .node here (fun member there => (dissolveAll_covered below member there).1)
      fun member there => (dissolveAll_covered below member there).2

end Subtree

/-- The levels of a tree that has been built are covered. -/
theorem RouteTree.levels_covered {spec : SpecNode} {tree : RouteTree}
    (built : build spec = .ok tree) (id : NodeId) : (tree.arena.subtree id).levels.Covered := by
  refine Subtree.levels_covered ((Arena.subtreeFrom_all tree.arena _ id).mono ?_)
  rintro content ⟨origin, rfl⟩
  exact build_covered built origin

/-- A match reports the whole match and every group. -/
theorem Regex.length_match? {regex : Regex} {text : String} {groups : List (Option String)}
    (matched : regex.match? text = some groups) : groups.length = regex.groupCount + 1 := by
  obtain ⟨found, -, rfl⟩ := Option.map_eq_some_iff.mp matched
  simp

namespace Machine

theorem testFrame?_names {regex : Regex} {subject : String} {frame : Frame}
    (matched : testFrame? regex subject = some frame) : frame.map (·.1) ⊆ regex.frameNames := by
  obtain ⟨groups, found, rfl⟩ := Option.map_eq_some_iff.mp matched
  intro name member
  rw [List.map_append, List.mem_append] at member
  rcases member with numbered | named
  · simp only [List.map_map, List.mem_map, Function.comp_apply] at numbered
    obtain ⟨⟨text, index⟩, inside, rfl⟩ := numbered
    have bound := (List.mem_zipIdx' inside).1
    rw [Regex.length_match? found] at bound
    exact List.mem_append_left _ (List.mem_map_of_mem (List.mem_range.mpr bound))
  · rw [List.map_filterMap] at named
    obtain ⟨⟨index, label⟩, inside, equal⟩ := List.mem_filterMap.mp named
    refine List.mem_append_right _ (List.mem_filterMap.mpr ⟨(index, label), inside, ?_⟩)
    simpa [Option.map_map, Function.comp_def] using equal

end Machine

end Signpost

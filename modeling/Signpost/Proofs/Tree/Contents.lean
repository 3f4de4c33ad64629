import Signpost.Proofs.Tree.WellFormed

/-!
# What reached nodes say

A node says what an element has made it say, and if bodies stand below it, values may have been bound
to it besides. So whatever holds of fresh contents and is not lost when values are bound at such a node
holds of all nodes that are reached from the root.
-/
namespace Signpost

/-- All contents of a shape have a property. -/
inductive Shape.All (holds : NodeContent → Prop) : Shape → Prop
  | node {content : NodeContent} {children : List Shape} (here : holds content)
    (below : ∀ child ∈ children, All holds child) : All holds (.node content children)

def Yield.All (holds : NodeContent → Prop) (yield : Yield) : Prop :=
  ∀ shape ∈ yield.shapes, shape.All holds

theorem Yield.All.append {holds : NodeContent → Prop} {first rest : Yield} (all : first.All holds)
    (later : rest.All holds) : (first.append rest).All holds :=
  List.forall_mem_append.mpr ⟨all, later⟩

theorem Yield.All.none {holds : NodeContent → Prop} : Yield.All holds {} := by
  simp [All]

/-- What a property needs in order to hold of everything that elements yield. -/
structure NodeContent.Lasting (holds : NodeContent → Prop) : Prop where
  fresh : ∀ content : NodeContent, content.Fresh → holds content
  bound : ∀ (content : NodeContent) (values : List (String × String)), content.Fresh →
    content.kind.isBodied = true → holds (content.bindAll values)

namespace RouteTree

variable {holds : NodeContent → Prop}

section

variable (lasting : NodeContent.Lasting holds)
include lasting

/-- Values that come from below stay at a node that has a body. -/
theorem nodeYield_all {content : NodeContent} {body : Yield} (fresh : content.Fresh)
    (bodied : content.kind.isBodied = true ∨ body.values = []) (all : body.All holds) :
    (nodeYield content body).All holds := by
  rw [nodeYield]
  split
  · intro shape member
    rw [List.mem_singleton.mp member]
    exact .node (lasting.fresh content fresh) all
  · intro shape member
    rw [List.mem_singleton.mp member]
    apply Shape.All.node _ all
    rcases bodied with bodied | none
    · exact lasting.bound content body.values fresh bodied
    · rw [none]
      exact lasting.fresh content fresh

theorem segmentsYield_all (id : Option String) {body : Yield} (all : body.All holds)
    {patterns : List Pattern} (arise : ∀ pattern ∈ patterns, pattern.Arises) :
    (segmentsYield id body patterns).All holds := by
  have bodied (pattern : Pattern) (id : Option String) :
      (segmentContent pattern id).kind.isBodied = true := by
    rw [segmentContent]
    split <;> rfl
  induction patterns with
  | nil => exact nodeYield_all lasting (.plain rfl (by simp)) (.inl rfl) all
  | cons pattern rest ih =>
    obtain ⟨first, others⟩ := List.forall_mem_cons.mp arise
    cases rest with
    | nil => exact nodeYield_all lasting (.segment first id) (.inl (bodied pattern id)) all
    | cons next later =>
      exact nodeYield_all lasting (.segment first none) (.inl (bodied pattern none)) (ih others)

theorem callShape?_all {spec : SpecNode} {shape : Shape} (done : callShape? spec = some shape) :
    shape.All holds := by
  obtain ⟨function, stated, arguments, read, rfl⟩ := exists_of_callShape? done
  apply Shape.All.node (lasting.fresh _ (.plain rfl (by simp)))
  intro argument member
  obtain ⟨child, -, argued⟩ := mapM_some_origin read argument member
  obtain ⟨-, -, rfl⟩ := argumentShape?_iff.mp argued
  exact .node (lasting.fresh _ (.plain rfl (by simp))) (by simp)

theorem simpleYield?_all {spec : SpecNode} {yield : Yield} (done : simpleYield? spec = some yield) :
    yield.All holds := by
  rcases simpleYield?_cases done with ⟨name, value, rfl⟩ | ⟨fields, rfl⟩ | ⟨entry, rfl⟩
    | ⟨shape, called, rfl⟩
  · exact nodeYield_all lasting (.plain rfl (by simp)) (.inr rfl) .none
  · exact nodeYield_all lasting (.plain rfl (by simp)) (.inr rfl) .none
  · exact .none
  · intro other member
    rw [List.mem_singleton.mp member]
    exact callShape?_all lasting called

theorem switchYield_all {spec : SpecNode} {settled : Option String × List Shape}
    {cases_ : List Shape} (done : settle? spec = some settled)
    (all : ∀ shape ∈ cases_, shape.All holds) :
    (switchYield settled { shapes := cases_ }).All holds := by
  have front : ∀ shape ∈ settled.2, shape.All holds := by
    rcases settle?_cases done with ⟨value, rfl⟩ | ⟨call, shape, called, rfl⟩
    · simp
    · simpa using callShape?_all lasting called
  exact nodeYield_all lasting (.plain rfl (by simp)) (.inr rfl)
    (List.forall_mem_append.mpr ⟨front, all⟩)

end

mutual

theorem elaborate_all (lasting : NodeContent.Lasting holds) {known found : Yields}
    {declares : Bool} {yield : Yield} (knows : ∀ entry ∈ known, entry.2.All holds) :
    (spec : SpecNode) → elaborate known declares spec = some (found, yield) →
      (∀ entry ∈ found, entry.2.All holds) ∧ yield.All holds
  | ⟨kind, attributes, text, children⟩, done => by
    cases kind with
    | block =>
      obtain ⟨name, -, body, inside, rfl, rfl⟩ := elaborate_block_iff.mp done
      have within := elaborateAll_all lasting knows children inside
      exact ⟨List.forall_mem_cons.mpr ⟨within, knows⟩, .none⟩
    | ref =>
      obtain ⟨name, -, there, rfl⟩ := elaborate_ref_iff.mp done
      obtain ⟨before, after, split, -⟩ := List.lookup_eq_some_iff.mp there
      -- what a reference yields is what its block has yielded, of which all is known already
      refine ⟨knows, knows (name, yield) ?_⟩
      simp [split]
    | path =>
      obtain ⟨patterns, read, body, inside, rfl, rfl⟩ := elaborate_path_iff.mp done
      exact ⟨knows, segmentsYield_all lasting _ (elaborateAll_all lasting knows children inside)
        (pathPatterns_arise read)⟩
    | switch =>
      obtain ⟨settled, read, cases_, inside, rfl, rfl⟩ := elaborate_switch_iff.mp done
      exact ⟨knows, switchYield_all lasting read (elaborateCases_all lasting knows children inside)⟩
    | test =>
      obtain ⟨content, read, body, inside, rfl, rfl⟩ := elaborate_test_iff.mp done
      obtain ⟨pattern, -, regex, compiled, rfl⟩ := testContent?_iff.mp read
      exact ⟨knows, nodeYield_all lasting (.test compiled) (.inl rfl)
        (elaborateAll_all lasting knows children inside)⟩
    | parameter =>
      obtain ⟨-, rfl, rfl⟩ := elaborate_parameter_iff.mp done
      exact ⟨knows, .none⟩
    | set | arg | «return» | call =>
      obtain ⟨read, rfl⟩ := (elaborate_simple_iff (by simp)).mp done
      exact ⟨knows, simpleYield?_all lasting read⟩
    | _ =>
      rw [elaborate] at done
      cases done

theorem elaborateAll_all (lasting : NodeContent.Lasting holds) {known : Yields} {declares : Bool}
    {yield : Yield} (knows : ∀ entry ∈ known, entry.2.All holds) :
    (specs : List SpecNode) → elaborateAll known declares specs = some yield → yield.All holds
  | [], done => by
    rw [elaborateAll] at done
    cases done
    exact .none
  | spec :: rest, done => by
    obtain ⟨found, first, here, later, behind, rfl⟩ := elaborateAll_cons_iff.mp done
    obtain ⟨finds, own⟩ := elaborate_all lasting knows spec here
    exact own.append (elaborateAll_all lasting finds rest behind)

theorem elaborateCases_all (lasting : NodeContent.Lasting holds) {known : Yields}
    {hasDefault : Bool} {shapes : List Shape} (knows : ∀ entry ∈ known, entry.2.All holds) :
    (specs : List SpecNode) → elaborateCases known hasDefault specs = some shapes →
      ∀ shape ∈ shapes, shape.All holds
  | [], done => by
    rw [elaborateCases] at done
    cases done
    simp
  | ⟨kind, attributes, text, children⟩ :: rest, done => by
    cases kind with
    | value =>
      rw [elaborateCases_value] at done
      exact elaborateCases_all lasting knows rest done
    | case =>
      obtain ⟨value, -, body, inside, later, behind, rfl⟩ := elaborateCases_case_iff.mp done
      refine List.forall_mem_append.mpr ⟨?_, ?_⟩
      · exact nodeYield_all lasting (.plain rfl (by simp)) (.inl rfl)
          (elaborateAll_all lasting knows children inside)
      · exact elaborateCases_all lasting knows rest behind
    | default =>
      obtain ⟨-, body, inside, later, behind, rfl⟩ := elaborateCases_default_iff.mp done
      refine List.forall_mem_append.mpr ⟨?_, ?_⟩
      · exact nodeYield_all lasting (.plain rfl (by simp)) (.inl rfl)
          (elaborateAll_all lasting knows children inside)
      · exact elaborateCases_all lasting knows rest behind
    | _ =>
      rw [elaborateCases] at done
      cases done
      all_goals simp

end

open Arena

/-- What lasts holds of every node that is reached from the root. -/
theorem build_lasting (lasting : NodeContent.Lasting holds) {spec : SpecNode} {tree : RouteTree}
    (built : build spec = .ok tree) {id : Nat} (walk : tree.arena.Reaches root id) :
    holds (tree.arena.node id).toNodeContent := by
  obtain ⟨-, body, -⟩ := build_ok_iff.mp built
  obtain ⟨yield, inside, grows⟩ := buildChildren_grows start_site Keeps.none _ body
  have linked := (build_kept built).linked
  have whole : (tree.arena.shape root).All holds := by
    rw [shape_root grows]
    apply Shape.All.node
    · exact lasting.bound _ yield.values (.plain rfl (by simp)) rfl
    · exact elaborateAll_all lasting (by simp) _ inside
  -- a walk down the links is a walk down the shape
  have reached : (tree.arena.shape id).All holds := by
    induction walk with
    | refl => exact whole
    | tail _ held ih =>
      rw [shape_eq linked] at ih
      cases ih with
      | node _ below => exact below _ (List.mem_map_of_mem held)
  rw [shape_eq linked] at reached
  cases reached with
  | node here => exact here

end RouteTree

/-- Values are bound where bodies stand, and patterns have been read. -/
structure NodeContent.Proper (content : NodeContent) : Prop where
  values : content.kind.isBodied = false → content.values = []
  pattern : ∀ pattern, content.kind.pattern? = some pattern → pattern.Arises

theorem NodeContent.proper_lasting : NodeContent.Lasting NodeContent.Proper := by
  have pattern {content : NodeContent} (fresh : content.Fresh) :
      ∀ pattern, content.kind.pattern? = some pattern → pattern.Arises := by
    intro pattern stated
    cases fresh with
    | segment arises id =>
      cases (RouteTree.segmentContent_solid _ id).2.1.symm.trans stated
      exact arises
    | test => cases stated
    | plain segmentless => cases segmentless.symm.trans stated
  constructor
  · intro content fresh
    refine ⟨fun _ => ?_, pattern fresh⟩
    cases fresh <;> rfl
  · intro content values fresh bodied
    constructor
    · intro bodiless
      rw [NodeContent.bindAll_kind, bodied] at bodiless
      cases bodiless
    · rw [NodeContent.bindAll_kind]
      exact pattern fresh

end Signpost

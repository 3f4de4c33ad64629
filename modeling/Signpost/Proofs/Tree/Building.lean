import Signpost.Proofs.Tree.Site
import Signpost.Proofs.Tree.Steps

/-!
# Building as elaboration

What has been built at a site is what elaboration reads off, with blocks for their yields. Where there
is room, a document that is written out can be built from what elaboration reads off.
-/
namespace Signpost

namespace RouteTree

open Arena

variable {arena middle grown : Arena} {place made : Nat} {declares : Bool} {spec : SpecNode}

/-! ### Elements without others inside -/

/-- A node without a literal can be made anywhere. -/
theorem insert_textless (content : NodeContent) (linked : arena.Linked) (rooted : arena.Rooted)
    (inside : place < arena.size) (textless : content.kind.literal? = none) :
    ∃ middle, arena.insert place content = .ok (middle, arena.size) :=
  (insert_iff linked rooted inside).mpr (by simp [textless])

/-- What has been built is what was expected, and what is expected can be built where it fits. -/
structure Agrees (arena : Arena) (place : Nat) (result : Except TreeError Arena)
    (expected : Option Yield) : Prop where
  sound : ∀ grown, result = .ok grown →
    ∃ yield, expected = some yield ∧ Grows arena grown place yield
  complete : ∀ yield, expected = some yield → arena.Fits place yield.shapes →
    ∃ grown, result = .ok grown

section

variable (linked : arena.Linked) (rooted : arena.Rooted) (inside : place < arena.size)

include linked rooted inside

theorem placeLeaf_agrees (spec : SpecNode) {kind : NodeKind} (textless : kind.literal? = none) :
    Agrees arena place (placeLeaf arena place spec kind)
      (if spec.children.isEmpty then some { shapes := [.node { kind } []] } else none) where
  sound := by
    intro grown placed
    obtain ⟨none, made, inserted⟩ := placeLeaf_ok_iff.mp placed
    exact ⟨_, by rw [none]; rfl, Grows.leaf linked rooted inside inserted⟩
  complete := by
    intro yield expected _
    split at expected
    next none =>
      obtain ⟨grown, inserted⟩ := insert_textless { kind } linked rooted inside textless
      exact ⟨grown, placeLeaf_ok_iff.mpr ⟨List.isEmpty_iff.mp none, arena.size, inserted⟩⟩
    next => cases expected

/-- An argument under a call becomes a node. -/
theorem placeArgument_called (called : (arena.node place).kind.isCall = true)
    (argument : spec.kind = .arg) :
    Agrees arena place (placeArgument arena place spec)
      ((argumentShape? spec).map fun shape => { shapes := [shape] }) := by
  have leaf := @placeLeaf_agrees arena place linked rooted inside spec
    (.arg ((spec.attributeOrText? "value").getD "")) rfl
  have same : ((argumentShape? spec).map fun shape => ({ shapes := [shape] } : Yield))
      = if spec.children.isEmpty then
          some { shapes := [.node { kind := .arg ((spec.attributeOrText? "value").getD "") } []] }
        else none := by
    rw [argumentShape?]
    split <;> simp_all
  rw [placeArgument, if_pos called, same]
  exact leaf

/-- Arguments do not compete for literals, so they can be built one after another anywhere. -/
theorem arguments_agree (called : (arena.node place).kind.isCall = true) (specs : List SpecNode) :
    (∀ grown, specs.foldlM (fun arena child =>
        if child.kind = .arg then placeArgument arena place child
        else unexpected arena child place) arena = .ok grown →
      ∃ shapes, specs.mapM argumentShape? = some shapes ∧ Grows arena grown place { shapes }) ∧
    ∀ shapes, specs.mapM argumentShape? = some shapes → ∃ grown,
      specs.foldlM (fun arena child =>
        if child.kind = .arg then placeArgument arena place child
        else unexpected arena child place) arena = .ok grown := by
  induction specs generalizing arena with
  | nil =>
    constructor
    · intro grown done
      cases done
      exact ⟨[], rfl, .refl linked rooted place⟩
    · intro shapes _
      exact ⟨arena, rfl⟩
  | cons spec rest ih =>
    -- What is behind the first argument stands at the same call, in an arena that has grown.
    have behind {middle : Arena} {yield : Yield} (grows : Grows arena middle place yield) :=
      ih grows.linked grows.rooted (Nat.lt_of_lt_of_le inside grows.size)
        (by rw [grows.kind inside, called])
    have agrees (argument : spec.kind = .arg) :=
      placeArgument_called linked rooted inside called argument
    constructor
    · intro grown done
      rw [List.foldlM_cons, bind_ok_iff] at done
      obtain ⟨middle, first, later⟩ := done
      split at first
      next argument =>
        obtain ⟨yield, expected, grows⟩ := (agrees argument).sound middle first
        obtain ⟨shape, one, rfl⟩ := Option.map_eq_some_iff.mp expected
        obtain ⟨shapes, others, further⟩ := (behind grows).1 grown later
        refine ⟨shape :: shapes, ?_, grows.trans linked rooted inside further⟩
        simp [List.mapM_cons, one, others]
      next => cases first
    · intro shapes expected
      simp only [List.mapM_cons, Option.bind_eq_bind, Option.bind_eq_some_iff] at expected
      obtain ⟨shape, one, shapes, others, -⟩ := expected
      obtain ⟨argument, fits⟩ : spec.kind = .arg ∧ arena.Fits place [shape] := by
        rw [argumentShape?] at one
        split at one
        next both =>
          cases one
          exact ⟨both.1, .textless rfl⟩
        next => cases one
      obtain ⟨middle, first⟩ :=
        (agrees argument).complete { shapes := [shape] } (by simp [one]) fits
      obtain ⟨yield, -, grows⟩ := (agrees argument).sound middle first
      obtain ⟨grown, later⟩ := (behind grows).2 shapes others
      refine ⟨grown, ?_⟩
      rw [List.foldlM_cons, bind_ok_iff]
      exact ⟨middle, by rw [if_pos argument, first], later⟩

theorem placeCall_agrees (spec : SpecNode) :
    Agrees arena place (placeCall arena place spec)
      ((callShape? spec).map fun shape => { shapes := [shape] }) := by
  -- A call has no literal of its own, and neither have its arguments.
  have below {content : NodeContent} {middle : Arena} {made : Nat}
      (inserted : arena.insert place content = .ok (middle, made))
      (called : content.kind.isCall = true) :=
    arguments_agree (insert_linked linked inside inserted) (insert_rooted rooted inside inserted)
      (made_lt inserted) (by rw [Grows.insert_new inside inserted]; exact called) spec.children
  constructor
  · intro grown placed
    obtain ⟨named, middle, call, inserted, added⟩ := placeCall_ok_iff.mp placed
    obtain ⟨shapes, expected, grows⟩ := (below inserted rfl).1 grown added
    refine ⟨_, ?_, Grows.nest linked rooted inside inserted grows⟩
    simp [callShape?, named, expected]
  · intro yield expected _
    obtain ⟨shape, expected, -⟩ := Option.map_eq_some_iff.mp expected
    rw [callShape?] at expected
    split at expected
    · cases expected
    next named =>
      obtain ⟨shapes, expected, -⟩ := Option.map_eq_some_iff.mp expected
      let kind := NodeKind.call (Text.trim ((spec.attributeOrText? "function").getD ""))
        (((spec.attribute? "with").map splitArguments).getD [])
      obtain ⟨middle, inserted⟩ := insert_textless { kind } linked rooted inside rfl
      obtain ⟨grown, added⟩ := (below inserted rfl).2 shapes expected
      exact ⟨grown, placeCall_ok_iff.mpr
        ⟨Bool.eq_false_iff.mpr named, middle, arena.size, inserted, added⟩⟩

end

theorem placeSimple_agrees (site : arena.Site place declares) :
    Agrees arena place (placeSimple arena place spec) (simpleYield? spec) := by
  have ⟨linked, rooted, inside, uncalled, _⟩ := site
  have call := placeCall_agrees linked rooted inside spec
  have leaf {kind : NodeKind} := @placeLeaf_agrees arena place linked rooted inside spec kind
  rw [placeSimple, simpleYield?]
  cases spec.kind with
  | set =>
    constructor
    · intro grown placed
      obtain ⟨name, named, placed⟩ := bind_ok_iff.mp placed
      rw [requireAttribute_ok_iff] at named
      simp only [named, Option.bind_some]
      exact (leaf rfl).sound grown placed
    · intro yield expected fits
      obtain ⟨name, named, expected⟩ := Option.bind_eq_some_iff.mp expected
      obtain ⟨grown, placed⟩ := (leaf rfl).complete yield expected fits
      exact ⟨grown, bind_ok_iff.mpr ⟨name, requireAttribute_ok_iff.mpr named, placed⟩⟩
  | arg =>
    rw [placeArgument, if_neg (by simp [uncalled])]
    constructor
    · intro grown placed
      obtain ⟨name, named, placed⟩ := bind_ok_iff.mp placed
      rw [requireAttribute_ok_iff] at named
      rw [pure_ok_iff] at placed
      subst placed
      simp only [named, Option.map_some]
      exact ⟨_, rfl, Grows.bind linked rooted inside name _⟩
    · intro yield expected _
      obtain ⟨name, named, -⟩ := Option.map_eq_some_iff.mp expected
      exact ⟨_, bind_ok_iff.mpr ⟨name, requireAttribute_ok_iff.mpr named, rfl⟩⟩
  | «return» => exact leaf rfl
  | call => exact call
  | _ => exact ⟨fun grown placed => (by cases placed), fun yield expected => (by cases expected)⟩

/-! ### Elements with others inside -/

/-- A node has been made for what is built inside, as expected, and one that is expected can be made
where it fits. -/
structure Enters (arena : Arena) (place : Nat) (result : Except TreeError (Arena × Nat))
    (expected : Option (Bool × (Yield → Yield))) : Prop where
  sound : ∀ middle made, result = .ok (middle, made) → ∃ declares wrap,
    expected = some (declares, wrap) ∧ Opens arena middle place made declares wrap
  complete : ∀ declares wrap, expected = some (declares, wrap) →
    ∀ body : Yield, arena.Fits place (wrap body).shapes → ∃ middle made, result = .ok (middle, made)

theorem Enters.refused {problem : TreeError} : Enters arena place (.error problem) none :=
  ⟨nofun, nofun⟩

theorem Enters.of_opens {wrap : Yield → Yield}
    (opens : Opens arena middle place made declares wrap) :
    Enters arena place (.ok (middle, made)) (some (declares, wrap)) where
  sound := by
    rintro _ _ ⟨⟩
    exact ⟨declares, wrap, rfl, opens⟩
  complete := fun _ _ _ _ _ => ⟨middle, made, rfl⟩

theorem insert_enters (site : arena.Site place declares) (content : NodeContent)
    (uncalled : content.kind.isCall = false) :
    Enters arena place (arena.insert place content)
      (some (content.kind.pattern?.isSome, nodeYield content)) where
  sound := fun middle made inserted => ⟨_, _, rfl, insert_opens site inserted uncalled⟩
  complete := by
    rintro _ _ ⟨⟩ body fits
    exact fits.insert site

theorem segmentContent_kind (pattern : Pattern) (id : Option String) :
    (segmentContent pattern id).kind.isCall = false ∧
      (segmentContent pattern id).kind.pattern?.isSome = true := by
  rw [segmentContent]
  split <;> exact ⟨rfl, rfl⟩

theorem placeSegments_enters (site : arena.Site place declares) (id : Option String)
    (patterns : List Pattern) :
    Enters arena place (placeSegments arena place id patterns)
      (some (!patterns.isEmpty, fun body => segmentsYield id body patterns)) := by
  induction patterns generalizing arena place declares with
  | nil => exact insert_enters site _ rfl
  | cons pattern rest ih =>
    obtain ⟨uncalled, declaring⟩ := segmentContent_kind pattern none
    cases rest with
    | nil =>
      obtain ⟨uncalled, declaring⟩ := segmentContent_kind pattern id
      have last := insert_enters site _ uncalled
      rw [declaring] at last
      exact last
    | cons next later =>
      -- the first path opens the site that the rest of the chain is made at
      have first := insert_enters site _ uncalled
      constructor
      · intro middle made placed
        rw [placeSegments, bind_ok_iff] at placed
        · obtain ⟨⟨between, node⟩, inserted, more⟩ := placed
          have opens := insert_opens site inserted uncalled
          obtain ⟨_, _, expected, deeper⟩ := (ih opens.site).sound middle made more
          cases expected
          exact ⟨_, _, rfl, opens.trans deeper⟩
        · simp
      · rintro _ _ ⟨⟩ body fits
        obtain ⟨between, node, inserted⟩ := first.complete _ _ rfl _ fits
        have opens := insert_opens site inserted uncalled
        obtain ⟨middle, made, more⟩ :=
          (ih opens.site).complete _ _ rfl body (opens.room _ fits)
        refine ⟨middle, made, ?_⟩
        rw [placeSegments, bind_ok_iff]
        · exact ⟨(between, node), inserted, more⟩
        · simp

theorem placePath_enters (site : arena.Site place declares) :
    Enters arena place (placePath arena place spec)
      ((pathPatterns spec).toOption.map fun patterns =>
        (!patterns.isEmpty, fun body => segmentsYield (spec.attribute? "id") body patterns)) := by
  have segments := placeSegments_enters site (spec.attribute? "id")
  rw [placePath]
  cases pathPatterns spec with
  | error problem => exact .refused
  | ok patterns => exact segments patterns

theorem placeTest_enters (site : arena.Site place declares) :
    Enters arena place (placeTest arena place spec)
      ((testContent? spec).map fun content => (false, nodeYield content)) := by
  constructor
  · intro middle made placed
    obtain ⟨content, read, inserted⟩ := placeTest_ok_iff.mp placed
    obtain ⟨pattern, -, regex, -, rfl⟩ := testContent?_iff.mp read
    exact ⟨_, _, by rw [read]; rfl, insert_opens site inserted rfl⟩
  · intro _ _ expected body fits
    obtain ⟨content, read, same⟩ := Option.map_eq_some_iff.mp expected
    cases same
    obtain ⟨middle, made, inserted⟩ := fits.insert site
    exact ⟨middle, made, placeTest_ok_iff.mpr ⟨content, read, inserted⟩⟩

/-- Making a switch and giving it a value comes to making it with the value. -/
theorem insert_settled (site : arena.Site place declares)
    (inserted : arena.insert place { kind := .switch none } = .ok (middle, made)) (value : String) :
    arena.insert place { kind := .switch (some value) }
      = .ok (middle.modify made fun node => { node with kind := .switch (some value) }, made) := by
  have new := made_insert inserted
  obtain ⟨settled, done⟩ := insert_textless { kind := .switch (some value) } site.linked site.rooted
    site.inside rfl
  have same : settled
      = middle.modify made fun node => { node with kind := .switch (some value) } := by
    refine ext_node (by simp [size_insert inserted, size_insert done]) fun id => ?_
    rw [node_insert site.inside done, node_modify, node_insert site.inside inserted,
      size_insert inserted, new]
    by_cases fresh : id = arena.size
    · simp [fresh]
    · simp [fresh]
  rw [done, same, new]

/-- A call below a new node stands there before what is built inside. -/
theorem placeCall_enters {wrap : Yield → Yield} (opens : Opens arena middle place made declares wrap)
    (call : SpecNode) :
    Enters arena place (do return (← placeCall middle made call, made))
      ((callShape? call).map fun shape =>
        (declares, fun body => wrap (({ shapes := [shape] } : Yield).append body))) := by
  have ⟨linked, rooted, inside, _, _⟩ := opens.site
  have agrees := placeCall_agrees linked rooted inside call
  constructor
  · intro after _ placed
    obtain ⟨grown, body, equal⟩ := bind_ok_iff.mp placed
    cases equal
    obtain ⟨yield, expected, grows⟩ := agrees.sound after body
    obtain ⟨shape, read, rfl⟩ := Option.map_eq_some_iff.mp expected
    exact ⟨_, _, by rw [read]; rfl, opens.grow grows⟩
  · intro _ _ expected body fits
    obtain ⟨shape, read, same⟩ := Option.map_eq_some_iff.mp expected
    cases same
    obtain ⟨grown, placed⟩ := agrees.complete { shapes := [shape] } (by rw [read]; rfl)
      (opens.room _ fits).mono
    exact ⟨grown, made, bind_ok_iff.mpr ⟨grown, placed, rfl⟩⟩

theorem placeSwitch_enters (site : arena.Site place declares) :
    Enters arena place (placeSwitch arena place spec)
      ((settle? spec).map fun settled => (false, switchYield settled)) := by
  obtain ⟨middle, inserted⟩ := insert_textless { kind := .switch none } site.linked site.rooted
    site.inside rfl
  have settled (value : String) := insert_opens site (insert_settled site inserted value) rfl
  have pending := insert_opens site inserted rfl
  rw [placeSwitch, inserted, ok_bind, settle?]
  cases spec.attribute? "value" with
  | some value => exact .of_opens (settled value)
  | none =>
    cases spec.children.find? fun child => child.kind = .value with
    | none => exact .refused
    | some holder =>
      obtain ⟨_, _, text, children⟩ := holder
      cases children with
      | nil => exact .of_opens (settled (text.getD ""))
      | cons call more =>
        by_cases called : call.kind = .call
        · simp only [called, if_true, Option.map_map]
          exact placeCall_enters pending call
        · simp only [called, if_false]
          exact .refused

end RouteTree

end Signpost

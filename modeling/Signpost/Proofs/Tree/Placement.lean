import Signpost.Proofs.Tree.Shape

/-!
# Placement

What may stand below what. Bodies hold paths, control nodes and returns, a call holds its arguments,
and a switch holds its cases, behind the call that gives it its value if it does not state one. Blocks
stand below nothing. A tree in which every node keeps to that is in order.
-/
namespace Signpost

namespace NodeKind

/-- Paths, control nodes and returns. -/
def isBodyPart : NodeKind → Bool
  | .path .. | .regexPath .. | .blankPath _ | .switch _ | .test .. | .call .. | .set .. | .return _ =>
    true
  | .router | .block _ | .case _ | .default | .arg _ => false

def isCase : NodeKind → Bool
  | .case _ | .default => true
  | _ => false

/-- Nodes below which bodies stand. -/
def isBodied : NodeKind → Bool
  | .router | .block _ | .path .. | .regexPath .. | .blankPath _ | .case _ | .default | .test .. => true
  | .switch _ | .call .. | .set .. | .arg _ | .return _ => false

def isArgument : NodeKind → Bool
  | .arg _ => true
  | _ => false

/-- The nodes below a switch: cases, at most one of them the default, and in front of them a call if
the switch does not state its value. -/
inductive Chooses : Option String → List NodeKind → Prop
  | stated {value : String} {cases : List NodeKind} (all : ∀ kind ∈ cases, kind.isCase)
    (once : cases.count .default ≤ 1) : Chooses (some value) cases
  | called {function : String} {arguments : List String} {cases : List NodeKind}
    (all : ∀ kind ∈ cases, kind.isCase) (once : cases.count .default ≤ 1) :
    Chooses none (.call function arguments :: cases)

/-- What may stand below a node, in order. -/
def Holds : NodeKind → List NodeKind → Prop
  | .switch stated, below => Chooses stated below
  | .call .., below => ∀ kind ∈ below, kind.isArgument
  | .set .., below | .arg _, below | .return _, below => below = []
  | .router, below | .block _, below | .path .., below | .regexPath .., below | .blankPath _, below
  | .case _, below | .default, below | .test .., below => ∀ kind ∈ below, kind.isBodyPart

/-- What is held is part of a body, a case of a switch or an argument of a call. -/
theorem Holds.member {kind other : NodeKind} {below : List NodeKind} (holds : kind.Holds below)
    (member : other ∈ below) :
    other.isBodyPart ∨ (other.isCase ∧ ∃ stated, kind = .switch stated) ∨
      (other.isArgument ∧ kind.isCall) := by
  cases kind with
  | switch stated =>
    cases holds with
    | stated all => exact .inr (.inl ⟨all other member, _, rfl⟩)
    | called all =>
      rcases List.mem_cons.mp member with rfl | behind
      · exact .inl rfl
      · exact .inr (.inl ⟨all other behind, _, rfl⟩)
  | call function arguments => exact .inr (.inr ⟨holds other member, rfl⟩)
  | set name value | arg value | «return» attributes =>
    cases (show below = [] from holds)
    cases member
  | _ => exact .inl (holds other member)

theorem Holds.parts {kind : NodeKind} {below : List NodeKind} (holds : kind.Holds below)
    (bodied : kind.isBodied) : ∀ other ∈ below, other.isBodyPart := by
  cases kind with
  | switch | call | set | arg | «return» => cases bodied
  | _ => exact holds

/-- Nothing holds a block or a root. -/
theorem Holds.attached {kind other : NodeKind} {below : List NodeKind} (holds : kind.Holds below)
    (member : other ∈ below) : other ≠ .router ∧ ∀ name, other ≠ .block name := by
  have part := holds.member member
  constructor
  · rintro rfl
    simp [isBodyPart, isCase, isArgument] at part
  · rintro name rfl
    simp [isBodyPart, isCase, isArgument] at part

/-- A case is held by a switch. -/
theorem Holds.case {kind other : NodeKind} {below : List NodeKind} (holds : kind.Holds below)
    (member : other ∈ below) (case : other.isCase) : ∃ stated, kind = .switch stated := by
  have part := holds.member member
  cases other <;> simp_all [isBodyPart, isCase, isArgument]

/-- An argument is held by a call. -/
theorem Holds.argument {kind other : NodeKind} {below : List NodeKind} (holds : kind.Holds below)
    (member : other ∈ below) (argument : other.isArgument) : kind.isCall := by
  have part := holds.member member
  cases other <;> simp_all [isBodyPart, isCase, isArgument]

/-- Whatever holds a group may hold any parts of bodies, and nothing else. -/
theorem Holds.of_blank {kind group : NodeKind} {below : List NodeKind} (holds : kind.Holds below)
    (member : group ∈ below) (blank : group.isBlank) (others : List NodeKind) :
    kind.Holds others ↔ ∀ other ∈ others, other.isBodyPart := by
  have caseless : ¬ group.isCase := by cases group <;> simp_all [isBlank, isCase]
  cases kind with
  | switch stated =>
    cases holds with
    | stated all => exact absurd (all group member) caseless
    | called all =>
      rcases List.mem_cons.mp member with rfl | behind
      · cases blank
      · exact absurd (all group behind) caseless
  | call function arguments =>
    have argument := holds group member
    cases group <;> simp_all [isBlank, isArgument]
  | set name value | arg value | «return» attributes =>
    cases (show below = [] from holds)
    cases member
  | _ => exact Iff.rfl

/-- A switch has at most one default. -/
theorem Holds.defaults {stated : Option String} {below : List NodeKind}
    (holds : (switch stated).Holds below) : below.count .default ≤ 1 := by
  cases holds with
  | stated all once => exact once
  | called all once =>
    rw [List.count_cons_of_ne (by simp)]
    exact once

/-- A switch that does not state its value holds a call first. -/
theorem Holds.call_first {below : List NodeKind} (holds : (switch none).Holds below) :
    ∃ first others, below = first :: others ∧ first.isCall := by
  cases holds with
  | called => exact ⟨_, _, rfl, rfl⟩

end NodeKind

namespace Shape

def kind : Shape → NodeKind
  | .node content _ => content.kind

/-- Every node of a tree may stand where it stands. -/
inductive Orderly : Shape → Prop
  | node {content : NodeContent} {children : List Shape}
    (holds : content.kind.Holds (children.map kind)) (below : ∀ child ∈ children, Orderly child) :
    Orderly (.node content children)

end Shape

namespace Arena

variable {arena : Arena}

/-- The kinds of the children of a node, in order. -/
def childKinds (arena : Arena) (id : Nat) : List NodeKind :=
  (arena.node id).children.map fun child => (arena.node child).kind

theorem mem_childKinds {parent child : Nat} (held : child ∈ (arena.node parent).children) :
    (arena.node child).kind ∈ arena.childKinds parent :=
  List.mem_map_of_mem held

/-- A node holds what it may hold, and it stands under something or is a block. -/
structure Orderly (arena : Arena) (id : Nat) : Prop where
  holds : (arena.node id).kind.Holds (arena.childKinds id)
  detached : (arena.node id).parent = none → ∃ name, (arena.node id).kind = .block name

theorem shape_kind (linked : arena.Linked) (id : Nat) :
    (arena.shape id).kind = (arena.node id).kind := by
  rw [shape_eq linked]
  rfl

/-- The shape of a node shows the kinds of its children. -/
theorem holds_of_shape (linked : arena.Linked) {id : Nat} (orderly : (arena.shape id).Orderly) :
    (arena.node id).kind.Holds (arena.childKinds id) := by
  rw [shape_eq linked] at orderly
  cases orderly with
  | node holds =>
    have same : ((arena.node id).children.map arena.shape).map Shape.kind = arena.childKinds id := by
      rw [List.map_map]
      exact List.map_congr_left fun child _ => shape_kind linked child
    exact same ▸ holds

end Arena

end Signpost

import Signpost.Spec.Basic

/-!
# Documents without references

A reference can be read as an abbreviation: the children of its block, written out where it stands.
Names are lexical. A block is known to the siblings behind it and to everything below them, and what
it holds means what it means where the block has been declared. Values and parameters are no places
for references and stay as they are.
-/
namespace Signpost

namespace SpecNode

/-- What the blocks known at a place stand for, the latest first. -/
abbrev Bodies := List (String × List SpecNode)

mutual

/-- What an element stands for, and the bodies known behind it. -/
def expand (bodies : Bodies) : SpecNode → Bodies × List SpecNode
  | ⟨kind, attributes, text, children⟩ =>
    match kind with
    | .block =>
      match attributes.get? "name" with
      | some name => ((name, expandAll bodies children) :: bodies, [])
      | none => (bodies, [])
    | .ref => (bodies, ((attributes.get? "name").bind fun name => bodies.lookup name).getD [])
    | .value | .parameter => (bodies, [⟨kind, attributes, text, children⟩])
    | _ => (bodies, [⟨kind, attributes, text, expandAll bodies children⟩])

def expandAll (bodies : Bodies) : List SpecNode → List SpecNode
  | [] => []
  | child :: rest => (child.expand bodies).2 ++ expandAll (child.expand bodies).1 rest

end

/-- A document with its references written out. -/
def expanded (document : SpecNode) : SpecNode :=
  { document with children := expandAll [] document.children }

/-! ### Documents that are written out -/

/-- Neither a block nor a reference, and with none below, but for values and parameters. -/
inductive Plain : SpecNode → Prop
  | aside {spec : SpecNode} (kind : spec.kind = .value ∨ spec.kind = .parameter) : Plain spec
  | node {spec : SpecNode} (block : spec.kind ≠ .block) (reference : spec.kind ≠ .ref)
    (within : ∀ child ∈ spec.children, Plain child) : Plain spec

theorem Plain.solid {spec : SpecNode} (plain : spec.Plain) : spec.kind ≠ .block := by
  cases plain with
  | aside kind =>
    rcases kind with kind | kind <;> simp [kind]
  | node block => exact block

theorem Plain.children {spec : SpecNode} (plain : spec.Plain) (value : spec.kind ≠ .value)
    (parameter : spec.kind ≠ .parameter) : ∀ child ∈ spec.children, child.Plain := by
  cases plain with
  | aside kind =>
    rcases kind with kind | kind
    · exact absurd kind value
    · exact absurd kind parameter
  | node _ _ within => exact within

/-- Bodies that have been written out themselves. -/
def Bodies.Plain (bodies : Bodies) : Prop := ∀ entry ∈ bodies, ∀ spec ∈ entry.2, spec.Plain

theorem Bodies.Plain.none : Plain [] := by
  simp [Plain]

theorem Bodies.Plain.lookup {bodies : Bodies} (plain : bodies.Plain) {name : String}
    {body : List SpecNode} (known : bodies.lookup name = some body) : ∀ spec ∈ body, spec.Plain := by
  induction bodies with
  | nil => cases known
  | cons entry rest ih =>
    rw [List.lookup_cons] at known
    split at known
    · cases known
      exact plain entry List.mem_cons_self
    · exact ih (fun other member => plain other (List.mem_cons_of_mem _ member)) known

mutual

theorem expand_plain {bodies : Bodies} (plain : bodies.Plain) :
    (spec : SpecNode) →
      (spec.expand bodies).1.Plain ∧ ∀ other ∈ (spec.expand bodies).2, other.Plain
  | ⟨kind, attributes, text, children⟩ => by
    have below := expandAll_plain plain children
    cases kind with
    | block =>
      rw [expand]
      split
      · refine ⟨?_, by simp⟩
        intro entry member
        rcases List.mem_cons.mp member with rfl | later
        · exact below
        · exact plain entry later
      · exact ⟨plain, by simp⟩
    | ref =>
      refine ⟨plain, ?_⟩
      rw [expand]
      cases known : (attributes.get? "name").bind fun name => bodies.lookup name with
      | none => simp
      | some body =>
        obtain ⟨name, -, found⟩ := Option.bind_eq_some_iff.mp known
        exact plain.lookup found
    | value => exact ⟨plain, by simp [expand, Plain.aside]⟩
    | parameter => exact ⟨plain, by simp [expand, Plain.aside]⟩
    | _ =>
      refine ⟨plain, ?_⟩
      intro other member
      cases List.mem_singleton.mp member
      exact .node (by simp) (by simp) below

theorem expandAll_plain {bodies : Bodies} (plain : bodies.Plain) :
    (specs : List SpecNode) → ∀ other ∈ expandAll bodies specs, other.Plain
  | [], other, member => by
    rw [expandAll] at member
    cases member
  | spec :: rest, other, member => by
    rw [expandAll] at member
    have first := expand_plain plain spec
    rcases List.mem_append.mp member with early | late
    · exact first.2 other early
    · exact expandAll_plain first.1 rest other late

end

/-- An expanded document is written out throughout. -/
theorem expanded_plain (document : SpecNode) :
    ∀ child ∈ document.expanded.children, child.Plain :=
  expandAll_plain .none document.children

/-! ### References to nothing -/

/-- The name that an element makes known to the siblings behind it. -/
def declared? (spec : SpecNode) : Option String :=
  if spec.kind = .block then spec.attribute? "name" else none

end SpecNode

/-- An element whose children are elements to be built. -/
def SpecKind.nests : SpecKind → Bool
  | .block | .path | .switch | .case | .default | .test | .call => true
  | _ => false

namespace SpecNode

mutual

/-- A reference without a name, or with one that is not known where it stands: the element itself, an
element below it, or an element of the call that gives a switch its value. -/
inductive Dangles : List String → SpecNode → Prop
  | reference {names : List String} {spec : SpecNode} (kind : spec.kind = .ref)
    (unknown : ∀ name, spec.attribute? "name" = some name → name ∉ names) : Dangles names spec
  | nested {names : List String} {spec : SpecNode} (nests : spec.kind.nests = true)
    (inside : DanglesAmong names spec.children) : Dangles names spec
  | value {names : List String} {spec holder call : SpecNode} {more : List SpecNode}
    (kind : spec.kind = .switch) (unset : spec.attribute? "value" = none)
    (found : spec.children.find? (fun child => child.kind = .value) = some holder)
    (first : holder.children = call :: more) (inside : Dangles names call) : Dangles names spec

inductive DanglesAmong : List String → List SpecNode → Prop
  | here {names : List String} {spec : SpecNode} {rest : List SpecNode}
    (first : Dangles names spec) : DanglesAmong names (spec :: rest)
  | later {names : List String} {spec : SpecNode} {rest : List SpecNode}
    (behind : DanglesAmong (spec.declared?.toList ++ names) rest) :
    DanglesAmong names (spec :: rest)

end

end SpecNode

end Signpost

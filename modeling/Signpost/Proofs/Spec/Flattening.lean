import Signpost.Pattern.Reader
import Signpost.Proofs.Spec.Expansion

/-!
# Documents without groups

A path whose pattern has no segment only groups its children. A document can be read with the children
of each group in place of the group, wherever elements are built: in bodies, and in the bodies of the
cases of a switch. What a call holds and what a value holds are no bodies and stay as they are.
-/
namespace Signpost

namespace SpecNode

/-- A path that takes no segment. -/
def isGroup (spec : SpecNode) : Bool :=
  spec.kind = .path ∧ splitRoute ((spec.attribute? "pattern").getD "") = []

mutual

/-- What an element of a body is without groups. -/
def flatten : SpecNode → List SpecNode
  | ⟨kind, attributes, text, children⟩ =>
    match kind with
    | .path =>
      if isGroup ⟨.path, attributes, text, children⟩ then flattenAll children
      else [⟨.path, attributes, text, flattenAll children⟩]
    | .test => [⟨.test, attributes, text, flattenAll children⟩]
    | .switch => [⟨.switch, attributes, text, flattenCases children⟩]
    | _ => [⟨kind, attributes, text, children⟩]

def flattenAll : List SpecNode → List SpecNode
  | [] => []
  | child :: rest => child.flatten ++ flattenAll rest

/-- The cases of a switch with bodies without groups. -/
def flattenCases : List SpecNode → List SpecNode
  | [] => []
  | ⟨kind, attributes, text, children⟩ :: rest =>
    match kind with
    | .case | .default => ⟨kind, attributes, text, flattenAll children⟩ :: flattenCases rest
    | _ => ⟨kind, attributes, text, children⟩ :: flattenCases rest

end

/-- A document with its groups replaced by what they hold. -/
def flat (document : SpecNode) : SpecNode :=
  { document with children := flattenAll document.children }

mutual

/-- The groups among an element of a body and what it holds. -/
def groups : SpecNode → List SpecNode
  | ⟨kind, attributes, text, children⟩ =>
    match kind with
    | .path =>
      if isGroup ⟨.path, attributes, text, children⟩ then
        ⟨.path, attributes, text, children⟩ :: groupsAll children
      else groupsAll children
    | .test => groupsAll children
    | .switch => groupsCases children
    | _ => []

def groupsAll : List SpecNode → List SpecNode
  | [] => []
  | child :: rest => child.groups ++ groupsAll rest

def groupsCases : List SpecNode → List SpecNode
  | [] => []
  | ⟨kind, _, _, children⟩ :: rest =>
    match kind with
    | .case | .default => groupsAll children ++ groupsCases rest
    | _ => groupsCases rest

end

theorem groupsAll_append (first rest : List SpecNode) :
    groupsAll (first ++ rest) = groupsAll first ++ groupsAll rest := by
  induction first with
  | nil => rfl
  | cons spec others ih => rw [List.cons_append, groupsAll, groupsAll, ih, List.append_assoc]

theorem groupsAll_single (spec : SpecNode) : groupsAll [spec] = spec.groups := by
  rw [groupsAll, groupsAll, List.append_nil]

mutual

/-- Nothing that remains of an element is a group or holds one. -/
theorem groupsAll_flatten : (spec : SpecNode) → groupsAll spec.flatten = []
  | ⟨kind, attributes, text, children⟩ => by
    cases kind with
    | path =>
      rw [flatten]
      split
      next => exact groupsAll_flattenAll children
      next segments =>
        have same : isGroup ⟨.path, attributes, text, flattenAll children⟩ = false :=
          Bool.eq_false_iff.mpr segments
        rw [groupsAll_single, groups, if_neg (by simp [same]), groupsAll_flattenAll children]
    | test => rw [flatten, groupsAll_single, groups, groupsAll_flattenAll children]
    | switch => rw [flatten, groupsAll_single, groups, groupsCases_flattenCases children]
    | _ => rw [flatten, groupsAll_single, groups] <;> simp

theorem groupsAll_flattenAll : (specs : List SpecNode) → groupsAll (flattenAll specs) = []
  | [] => rfl
  | spec :: rest => by
    rw [flattenAll, groupsAll_append, groupsAll_flatten spec, groupsAll_flattenAll rest]
    rfl

theorem groupsCases_flattenCases : (specs : List SpecNode) → groupsCases (flattenCases specs) = []
  | [] => rfl
  | ⟨kind, attributes, text, children⟩ :: rest => by
    cases kind with
    | case | default =>
      rw [flattenCases, groupsCases, groupsAll_flattenAll children, groupsCases_flattenCases rest]
      rfl
    | _ =>
      rw [flattenCases, groupsCases]
      · exact groupsCases_flattenCases rest
      all_goals simp

end

/-- No group is left in a document without groups. -/
theorem groupsAll_flat (document : SpecNode) : groupsAll document.flat.children = [] :=
  groupsAll_flattenAll document.children

mutual

/-- What has been written out stays so. -/
theorem flatten_plain : (spec : SpecNode) → spec.Plain → ∀ other ∈ spec.flatten, other.Plain
  | ⟨kind, attributes, text, children⟩, plain => by
    cases kind with
    | path =>
      have below := flattenAll_plain children (plain.children (by simp) (by simp))
      rw [flatten]
      split
      · exact below
      · simpa using Plain.node (by simp) (by simp) below
    | test =>
      have below := flattenAll_plain children (plain.children (by simp) (by simp))
      simpa [flatten] using Plain.node (by simp) (by simp) below
    | switch =>
      have below := flattenCases_plain children (plain.children (by simp) (by simp))
      simpa [flatten] using Plain.node (by simp) (by simp) below
    | _ => simpa [flatten] using plain

theorem flattenAll_plain :
    (specs : List SpecNode) → (∀ spec ∈ specs, spec.Plain) → ∀ other ∈ flattenAll specs, other.Plain
  | [], _ => by simp [flattenAll]
  | spec :: rest, plain => by
    obtain ⟨here, later⟩ := List.forall_mem_cons.mp plain
    rw [flattenAll]
    exact List.forall_mem_append.mpr ⟨flatten_plain spec here, flattenAll_plain rest later⟩

theorem flattenCases_plain :
    (specs : List SpecNode) → (∀ spec ∈ specs, spec.Plain) →
      ∀ other ∈ flattenCases specs, other.Plain
  | [], _ => by simp [flattenCases]
  | ⟨kind, attributes, text, children⟩ :: rest, plain => by
    obtain ⟨here, later⟩ := List.forall_mem_cons.mp plain
    have others := flattenCases_plain rest later
    cases kind with
    | case | default =>
      have below := flattenAll_plain children (here.children (by simp) (by simp))
      rw [flattenCases]
      exact List.forall_mem_cons.mpr ⟨.node (by simp) (by simp) below, others⟩
    | _ =>
      rw [flattenCases]
      · exact List.forall_mem_cons.mpr ⟨here, others⟩
      all_goals simp

end

end SpecNode

end Signpost

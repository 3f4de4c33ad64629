import Mathlib.Data.List.Induction
import Signpost.Proofs.Tree.Links

/-!
# Shapes

The shape of a tree is what its nodes say and how they stand to one another, without their numbers.
Binding values one after another at a node comes to the same as binding the values that a node ends
up with when they have been bound there first, which is why the values of a block can be collected
before anyone refers to it.
-/
namespace Signpost

inductive Shape
  | node (content : NodeContent) (children : List Shape)

namespace Shape

mutual

/-- The literals that a tree puts on the level it stands on. -/
def literals : Shape → List String
  | .node content children =>
    if content.kind.isBlank then literalsAll children else content.kind.literal?.toList

def literalsAll : List Shape → List String
  | [] => []
  | shape :: rest => shape.literals ++ literalsAll rest

end

/-- No level inside of a tree has a literal twice. -/
inductive Distinct : Shape → Prop
  | node {content : NodeContent} {children : List Shape}
    (below : ∀ child ∈ children, Distinct child)
    (apart : content.kind.isBlank = false → (literalsAll children).Nodup) :
    Distinct (.node content children)

theorem literalsAll_append (first rest : List Shape) :
    literalsAll (first ++ rest) = literalsAll first ++ literalsAll rest := by
  induction first with
  | nil => rfl
  | cons shape others ih => rw [List.cons_append, literalsAll, literalsAll, ih, List.append_assoc]

end Shape

namespace Subtree

mutual

def shape : Subtree → Shape
  | .node _ content children => .node content (shapeAll children)

def shapeAll : List Subtree → List Shape
  | [] => []
  | tree :: rest => tree.shape :: shapeAll rest

end

theorem shapeAll_eq (trees : List Subtree) : shapeAll trees = trees.map shape := by
  induction trees with
  | nil => rfl
  | cons tree rest ih => rw [shapeAll, ih, List.map_cons]

end Subtree

namespace Arena

/-- The shape of everything below a node, the node included. -/
def shape (arena : Arena) (id : Nat) : Shape := (arena.subtree id).shape

variable {arena other : Arena}

theorem shape_eq (linked : arena.Linked) (id : Nat) :
    arena.shape id
      = .node (arena.node id).toNodeContent ((arena.node id).children.map arena.shape) := by
  rw [shape, subtree_eq linked, Subtree.shape, Subtree.shapeAll_eq, List.map_map]
  rfl

/-- A shape depends only on the nodes that belong to it. -/
theorem shape_congr (linked : arena.Linked) (linked' : other.Linked) {kept : Nat → Prop}
    (closed : ∀ id, kept id → ∀ child ∈ (arena.node id).children, kept child)
    (same : ∀ id, kept id → (other.node id).toNodeContent = (arena.node id).toNodeContent ∧
      (other.node id).children = (arena.node id).children) {id : Nat} (within : kept id) :
    other.shape id = arena.shape id := by
  induction remaining : arena.size - id using Nat.strongRecOn generalizing id with
  | ind remaining ih =>
    obtain ⟨content, children⟩ := same id within
    rw [shape_eq linked', shape_eq linked, content, children]
    refine congrArg (Shape.node _) (List.map_congr_left fun child member => ?_)
    have bound := linked.child member
    exact ih (arena.size - child) (by omega) (closed id within child member) rfl

end Arena

/-! ### Values -/

namespace NodeContent

/-- Binds a value as `Node.setValue` does. -/
def bind (content : NodeContent) (name value : String) : NodeContent :=
  (Node.setValue { content with } name value).toNodeContent

def bindAll (content : NodeContent) (values : List (String × String)) : NodeContent :=
  values.foldl (fun content entry => content.bind entry.1 entry.2) content

theorem bindAll_append (content : NodeContent) (first rest : List (String × String)) :
    content.bindAll (first ++ rest) = (content.bindAll first).bindAll rest :=
  List.foldl_append

@[simp]
theorem bind_kind (content : NodeContent) (name value : String) :
    (content.bind name value).kind = content.kind :=
  (Node.setValue_links _ name value).2.2

@[simp]
theorem bindAll_kind (content : NodeContent) (values : List (String × String)) :
    (content.bindAll values).kind = content.kind := by
  induction values generalizing content with
  | nil => rfl
  | cons entry rest ih => rw [bindAll, List.foldl_cons, ← bindAll, ih, bind_kind]

end NodeContent

theorem Node.setValue_content (node : Node) (name value : String) :
    (node.setValue name value).toNodeContent = node.toNodeContent.bind name value := by
  simp only [NodeContent.bind, setValue, addVar]
  split
  · rfl
  · split <;> rfl

namespace NodeContent

def Binds (content : NodeContent) (name : String) : Prop := ∃ value, (name, value) ∈ content.values

theorem any_values_iff (content : NodeContent) (name : String) :
    content.values.any (·.1 == name) = true ↔ content.Binds name := by
  simp [Binds]

theorem bind_bound {content : NodeContent} {name : String} (bound : content.Binds name)
    (value : String) :
    content.bind name value = { content with
      values := content.values.map fun entry => if entry.1 = name then (name, value) else entry } := by
  rw [bind, Node.setValue, if_pos ((any_values_iff content name).mpr bound)]

theorem bind_unbound {content : NodeContent} {name : String} (unbound : ¬ content.Binds name)
    (value : String) :
    content.bind name value = { content with
      values := content.values ++ [(name, value)]
      localVars := if name ∈ content.localVars then content.localVars
        else content.localVars ++ [name] } := by
  have missing : ¬ content.values.any (·.1 == name) = true :=
    fun found => unbound ((any_values_iff content name).mp found)
  rw [bind, Node.setValue, if_neg missing, Node.addVar]
  split <;> rfl

theorem binds_bind_iff (content : NodeContent) (name value other : String) :
    (content.bind name value).Binds other ↔ content.Binds other ∨ other = name := by
  by_cases bound : content.Binds name
  · rw [bind_bound bound]
    constructor
    · rintro ⟨text, member⟩
      obtain ⟨entry, inside, equal⟩ := List.mem_map.mp member
      split at equal
      · exact .inr (congrArg Prod.fst equal).symm
      · exact .inl ⟨text, equal ▸ inside⟩
    · rintro (⟨text, inside⟩ | rfl)
      · by_cases same : other = name
        · exact ⟨value, List.mem_map.mpr ⟨(other, text), inside, by simp [same]⟩⟩
        · exact ⟨text, List.mem_map.mpr ⟨(other, text), inside, by simp [same]⟩⟩
      · obtain ⟨text, inside⟩ := bound
        exact ⟨value, List.mem_map.mpr ⟨(other, text), inside, by simp⟩⟩
  · rw [bind_unbound bound]
    simp only [Binds, List.mem_append, List.mem_singleton, Prod.mk.injEq]
    constructor
    · rintro ⟨text, member | ⟨same, -⟩⟩
      · exact .inl ⟨text, member⟩
      · exact .inr same
    · rintro (⟨text, inside⟩ | rfl)
      · exact ⟨text, .inl inside⟩
      · exact ⟨value, .inr ⟨rfl, rfl⟩⟩

/-- A name that is bound anew keeps its place, whatever else has been bound in between. -/
theorem bind_comm {content : NodeContent} {name other : String} (bound : content.Binds name)
    (apart : other ≠ name) (value text : String) :
    (content.bind other text).bind name value = (content.bind name value).bind other text := by
  have still : (content.bind other text).Binds name :=
    (binds_bind_iff content other text name).mpr (.inl bound)
  rw [bind_bound still]
  by_cases known : content.Binds other
  · have stays : (content.bind name value).Binds other :=
      (binds_bind_iff content name value other).mpr (.inl known)
    rw [bind_bound stays, bind_bound bound, bind_bound known]
    simp only [List.map_map, NodeContent.mk.injEq, and_true, true_and]
    refine List.map_congr_left fun entry _ => ?_
    simp only [Function.comp_apply]
    by_cases first : entry.1 = other
    · simp [first, apart]
    · by_cases second : entry.1 = name
      · simp [second, Ne.symm apart]
      · simp [first, second]
  · have missing : ¬ (content.bind name value).Binds other := by
      rw [binds_bind_iff]
      rintro (inside | same)
      · exact known inside
      · exact apart same
    rw [bind_unbound missing, bind_bound bound, bind_unbound known]
    simp [apart]

theorem map_replace_absent (name value : String) {entries : List (String × String)}
    (absent : ∀ entry ∈ entries, entry.1 ≠ name) :
    (entries.map fun entry => if entry.1 = name then (name, value) else entry) = entries := by
  conv_rhs => rw [← List.map_id entries]
  exact List.map_congr_left fun entry inside => if_neg (absent entry inside)

theorem bind_bind (content : NodeContent) (name value text : String) :
    (content.bind name text).bind name value = content.bind name value := by
  have now : (content.bind name text).Binds name :=
    (binds_bind_iff content name text name).mpr (.inr rfl)
  rw [bind_bound now]
  by_cases bound : content.Binds name
  · rw [bind_bound bound, bind_bound bound]
    simp only [List.map_map, NodeContent.mk.injEq, and_true, true_and]
    refine List.map_congr_left fun entry _ => ?_
    simp only [Function.comp_apply]
    split <;> simp [*]
  · rw [bind_unbound bound, bind_unbound bound]
    simp only [List.map_append, List.map_cons, List.map_nil, if_true, NodeContent.mk.injEq, and_true,
      true_and]
    have absent : ∀ entry ∈ content.values, entry.1 ≠ name := by
      rintro entry inside rfl
      exact bound ⟨entry.2, inside⟩
    rw [map_replace_absent name value absent]

/-- Past names of its own, a value is bound as well before as behind the others. -/
theorem bindAll_comm {content : NodeContent} {name : String} (bound : content.Binds name)
    {entries : List (String × String)} (apart : name ∉ entries.map (·.1)) (value : String) :
    (content.bindAll entries).bind name value = (content.bind name value).bindAll entries := by
  induction entries generalizing content with
  | nil => rfl
  | cons entry rest ih =>
    rw [List.map_cons, List.mem_cons, not_or] at apart
    have still : (content.bind entry.1 entry.2).Binds name :=
      (binds_bind_iff content entry.1 entry.2 name).mpr (.inl bound)
    calc ((content.bind entry.1 entry.2).bindAll rest).bind name value
        = ((content.bind entry.1 entry.2).bind name value).bindAll rest := ih still apart.2
      _ = ((content.bind name value).bind entry.1 entry.2).bindAll rest := by
          rw [bind_comm bound (Ne.symm apart.1)]

theorem bindAll_replace (content : NodeContent) {name : String} {entries : List (String × String)}
    (nodup : (entries.map (·.1)).Nodup) (inside : name ∈ entries.map (·.1)) (value : String) :
    content.bindAll (entries.map fun entry => if entry.1 = name then (name, value) else entry)
      = (content.bindAll entries).bind name value := by
  induction entries generalizing content with
  | nil => cases inside
  | cons entry rest ih =>
    rw [List.map_cons, List.nodup_cons] at nodup
    by_cases same : entry.1 = name
    · have alone : name ∉ rest.map (·.1) := same ▸ nodup.1
      -- the name is bound by this entry alone, so binding it again may wait until all others are
      -- bound
      have absent : ∀ other ∈ rest, other.1 ≠ name := by
        rintro other member rfl
        exact alone (List.mem_map_of_mem member)
      have now : (content.bind name entry.2).Binds name :=
        (binds_bind_iff content name entry.2 name).mpr (.inr rfl)
      rw [List.map_cons, if_pos same, map_replace_absent name value absent]
      calc (content.bind name value).bindAll rest
          = ((content.bind name entry.2).bind name value).bindAll rest := by rw [bind_bind]
        _ = ((content.bind name entry.2).bindAll rest).bind name value :=
            (bindAll_comm now alone value).symm
        _ = (content.bindAll (entry :: rest)).bind name value := by
            rw [← same]
            rfl
    · have later : name ∈ rest.map (·.1) := by
        rcases List.mem_cons.mp inside with first | later
        · exact absurd first.symm same
        · exact later
      rw [List.map_cons, if_neg same]
      exact ih (content.bind entry.1 entry.2) nodup.2 later

theorem nodup_bind {content : NodeContent} (nodup : (content.values.map (·.1)).Nodup)
    (name value : String) : ((content.bind name value).values.map (·.1)).Nodup := by
  by_cases bound : content.Binds name
  · rw [bind_bound bound, List.map_map]
    have names : content.values.map ((·.1) ∘ fun entry =>
        if entry.1 = name then (name, value) else entry) = content.values.map (·.1) := by
      refine List.map_congr_left fun entry _ => ?_
      simp only [Function.comp_apply]
      split <;> simp [*]
    rw [names]
    exact nodup
  · rw [bind_unbound bound, List.map_append]
    refine List.nodup_append.mpr ⟨nodup, by simp, ?_⟩
    intro other member last single
    rw [List.mem_singleton.mp single]
    rintro rfl
    obtain ⟨entry, inside, same⟩ := List.mem_map.mp member
    exact bound ⟨entry.2, same ▸ inside⟩

theorem nodup_bindAll {content : NodeContent} (nodup : (content.values.map (·.1)).Nodup)
    (entries : List (String × String)) : ((content.bindAll entries).values.map (·.1)).Nodup := by
  induction entries generalizing content with
  | nil => exact nodup
  | cons entry rest ih => exact ih (nodup_bind nodup entry.1 entry.2)

/-- Values that have been bound at a node without any come to the same bound elsewhere as those that
they were made of. -/
theorem bindAll_collected (content : NodeContent) {base : NodeContent} (empty : base.values = [])
    (entries : List (String × String)) :
    content.bindAll (base.bindAll entries).values = content.bindAll entries := by
  induction entries using List.reverseRecOn with
  | nil => rw [show (base.bindAll []).values = [] from empty]
  | append_singleton entries entry ih =>
    have collected : ((base.bindAll entries).values.map (·.1)).Nodup :=
      nodup_bindAll (by simp [empty]) entries
    rw [bindAll_append base, bindAll_append content, ← ih]
    change content.bindAll ((base.bindAll entries).bind entry.1 entry.2).values
      = (content.bindAll (base.bindAll entries).values).bind entry.1 entry.2
    by_cases bound : (base.bindAll entries).Binds entry.1
    · obtain ⟨value, inside⟩ := bound
      rw [bind_bound ⟨value, inside⟩,
        bindAll_replace content collected (List.mem_map_of_mem inside) entry.2]
    · rw [bind_unbound bound, bindAll_append]
      rfl

end NodeContent

end Signpost

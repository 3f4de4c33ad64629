import Signpost.Proofs.Json.Reading
import Signpost.Spec.Json

/-!
# Documents that are written and read again

A document comes back from its own text exactly if the arrays and objects of the text nest no deeper than
a reader enters. A child lies two levels below its parent, in the array of an object, so every element
takes two levels from those that are left for its children, and one for its attributes.
-/
namespace Signpost

namespace Json

mutual

/-- How deep the arrays and objects of a value nest. -/
def nesting : Json → Nat
  | .array items => nestingItems items + 1
  | .object members => nestingMembers members + 1
  | _ => 0

def nestingItems : List Json → Nat
  | [] => 0
  | item :: rest => max item.nesting (nestingItems rest)

def nestingMembers : List (Option String × Json) → Nat
  | [] => 0
  | (_, value) :: rest => max value.nesting (nestingMembers rest)

end

theorem nestingMembers_append (first second : List (Option String × Json)) :
    nestingMembers (first ++ second) = max (nestingMembers first) (nestingMembers second) := by
  induction first with
  | nil => simp [nestingMembers]
  | cons member rest ih =>
    obtain ⟨name, value⟩ := member
    rw [List.cons_append, nestingMembers, nestingMembers, ih, Nat.max_assoc]

theorem nesting_text (content : String) : (text content).nesting = 0 := by
  rw [text, nesting] <;> nofun

theorem nestingMembers_texts (entries : List (String × String)) :
    nestingMembers (entries.map fun entry => (some entry.1, text entry.2)) = 0 := by
  induction entries with
  | nil => rfl
  | cons entry rest ih => rw [List.map_cons, nestingMembers, ih, nesting_text, Nat.max_self]

theorem texts?_texts (entries : List (String × String)) :
    (object (entries.map fun entry => (some entry.1, text entry.2))).texts? = some entries := by
  rw [texts?]
  induction entries with
  | nil => rfl
  | cons entry rest ih =>
    rw [List.map_cons, List.mapM_cons, ih]
    rfl

end Json

namespace Attributes

theorem isEmpty_iff {attributes : Attributes} : attributes.isEmpty ↔ attributes = .empty := by
  cases attributes
  rw [isEmpty, List.isEmpty_iff, empty, Attributes.mk.injEq]

theorem insertEntry_last {name : String} {entries : List (String × String)}
    (before : ∀ entry ∈ entries, entry.1 < name) (text : String) :
    insertEntry name text entries = entries ++ [(name, text)] := by
  induction entries with
  | nil => rfl
  | cons first rest ih =>
    have smaller := before first List.mem_cons_self
    have apart : name ≠ first.1 := fun same => String.lt_irrefl name (same ▸ smaller)
    rw [insertEntry, if_neg (String.lt_asymm smaller), if_neg apart,
      ih fun entry member => before entry (List.mem_cons_of_mem _ member), List.cons_append]

/-- Entries that are in order are put behind one another. -/
theorem ofList_entries (attributes : Attributes) : ofList attributes.entries = attributes := by
  -- what is still to be put in comes behind everything that is there
  have after (later : List (String × String)) (start : Attributes)
      (ordered : (start.entries ++ later).Pairwise fun left right => left.1 < right.1) :
      (later.foldl (fun attributes entry => attributes.insert entry.1 entry.2) start).entries
        = start.entries ++ later := by
    induction later generalizing start with
    | nil => rw [List.foldl_nil, List.append_nil]
    | cons entry rest ih =>
      have before := (List.pairwise_append.mp ordered).2.2
      have put : (start.insert entry.1 entry.2).entries = start.entries ++ [entry] :=
        insertEntry_last (fun other member => before other member entry List.mem_cons_self) entry.2
      rw [List.append_cons] at ordered
      rw [List.foldl_cons, ih _ (put ▸ ordered), put, ← List.append_cons]
  have same : (ofList attributes.entries).entries = attributes.entries :=
    after attributes.entries empty attributes.ordered
  cases attributes
  exact Attributes.mk.injEq .. ▸ same

end Attributes

theorem SpecKind.ofName?_name (kind : SpecKind) : ofName? kind.name = some kind := by
  cases kind <;> decide

namespace SpecNode

open Json

/-- The members of the object that an element is written as. -/
def members (node : SpecNode) : List (Option String × Json) :=
  [(some "kind", .text node.kind.name)]
    ++ (if node.attributes.isEmpty then []
      else [(some "attributes", .object <|
        node.attributes.entries.map fun entry => (some entry.1, .text entry.2))])
    ++ (node.text.map fun content => (some "text", .text content)).toList
    ++ (if node.children.isEmpty then [] else [(some "children", .array (toJsonList node.children))])

theorem toJson_eq (node : SpecNode) : node.toJson = .object node.members := by
  cases node
  rw [toJson, members]

theorem mem_members {node : SpecNode} {member : Option String × Json} (within : member ∈ node.members) :
    member = (some "kind", .text node.kind.name) ∨
    member = (some "attributes", .object <|
      node.attributes.entries.map fun entry => (some entry.1, .text entry.2)) ∨
    (∃ content, member = (some "text", .text content)) ∨
    member = (some "children", .array (toJsonList node.children)) := by
  rw [members] at within
  simp only [List.mem_append, List.mem_singleton, Option.mem_toList, Option.map_eq_some_iff] at within
  rcases within with ((kind | attributes) | ⟨content, -, rfl⟩) | children
  · exact .inl kind
  · split at attributes
    · cases attributes
    · exact .inr (.inl (List.mem_singleton.mp attributes))
  · exact .inr (.inr (.inl ⟨content, rfl⟩))
  · split at children
    · cases children
    · exact .inr (.inr (.inr (List.mem_singleton.mp children)))

/-- What is stated of an element, each part by its name. -/
theorem lookup_members (node : SpecNode) :
    node.members.lookup (some "kind") = some (.text node.kind.name) ∧
    (node.members.lookup (some "attributes")).isNone = node.attributes.isEmpty ∧
    node.members.lookup (some "text") = node.text.map .text ∧
    (node.members.lookup (some "children")).isNone = node.children.isEmpty := by
  rw [members]
  cases node.attributes.isEmpty <;> cases node.text <;> cases node.children.isEmpty <;>
    exact ⟨rfl, rfl, rfl, rfl⟩

theorem fields?_toJson (node : SpecNode) :
    node.toJson.fields? fieldNames = some [
      some (.text node.kind.name),
      if node.attributes.isEmpty then none
        else some (.object (node.attributes.entries.map fun entry => (some entry.1, .text entry.2))),
      node.text.map .text,
      if node.children.isEmpty then none else some (.array (toJsonList node.children))] := by
  rw [toJson_eq, members]
  cases node.attributes.isEmpty <;> cases node.text <;> cases node.children.isEmpty <;> rfl

theorem nesting_toJson (node : SpecNode) :
    node.toJson.nesting = max (if node.attributes.isEmpty then 0 else 1)
      (if node.children.isEmpty then 0 else nestingItems (toJsonList node.children) + 1) + 1 := by
  rw [toJson_eq, nesting, members]
  simp only [nestingMembers_append]
  cases node.attributes.isEmpty <;> cases node.text <;> cases node.children.isEmpty <;>
    simp [nestingMembers, nesting, nesting_text, nestingMembers_texts]

/-! ### Reading -/

theorem attributesOfJson?_texts (depth : Nat) (attributes : Attributes) :
    attributesOfJson? depth (.object (attributes.entries.map fun entry => (some entry.1, .text entry.2)))
      = if depth = 0 then none else some attributes := by
  rw [attributesOfJson?, texts?_texts, Option.map_some, Attributes.ofList_entries]

/-- What is read of an element that was written, given how its children are read. -/
theorem ofFields?_written (depth : Nat) (child? : Json → Option SpecNode) (node : SpecNode) :
    ofFields? depth child? node.toJson =
      if node.attributes.isEmpty ∨ 0 < depth then do
        let children ← if node.children.isEmpty then some []
          else if depth = 0 then none
          else (toJsonList node.children).mapM child?
        return { node with children }
      else none := by
  have kind : SpecKind.ofJson? depth (.text node.kind.name) = some node.kind :=
    SpecKind.ofName?_name node.kind
  rw [ofFields?, fields?_toJson]
  simp only [Option.bind_eq_bind, Option.bind_some, kind]
  -- what is left out is read as what is empty
  cases bare : node.attributes.isEmpty with
  | true =>
    rw [Attributes.isEmpty_iff.mp bare]
    cases depth <;> cases node.text <;> cases node.children.isEmpty <;> rfl
  | false =>
    have attributes := attributesOfJson?_texts depth node.attributes
    simp only [Bool.false_eq_true, if_false, attributes]
    cases depth <;> cases node.text <;> cases node.children.isEmpty <;> rfl

theorem with_children (node : SpecNode) :
    ⟨node.kind, node.attributes, node.text, node.children⟩ = node := by
  cases node
  rfl

theorem nesting_le_iff {node : SpecNode} {depth : Nat} :
    node.toJson.nesting ≤ depth + 1 ↔ (node.attributes.isEmpty ∨ 0 < depth) ∧
      (node.children.isEmpty ∨ nestingItems (toJsonList node.children) < depth) := by
  rw [nesting_toJson]
  cases node.attributes.isEmpty <;> cases node.children.isEmpty <;>
    simp only [Bool.false_eq_true, reduceIte, true_or, false_or, true_and,
      and_true, iff_true] <;> omega

/-- An element is read again if its arrays and objects nest as deep as may be entered, and if that holds
for its children, which stand in an array of their own. -/
theorem ofFields?_toJson {depth : Nat} {child? : Json → Option SpecNode} {node : SpecNode}
    (below : 0 < depth → (toJsonList node.children).mapM child?
      = if nestingItems (toJsonList node.children) < depth then some node.children else none) :
    ofFields? depth child? node.toJson
      = if node.toJson.nesting ≤ depth + 1 then some node else none := by
  rw [ofFields?_written]
  simp only [nesting_le_iff]
  by_cases room : node.attributes.isEmpty ∨ 0 < depth
  · rw [if_pos room]
    by_cases bare : node.children.isEmpty
    · rw [if_pos bare, if_pos ⟨room, .inl bare⟩]
      change some { node with children := [] } = some node
      rw [← List.isEmpty_iff.mp bare, with_children]
    · by_cases flat : depth = 0
      · rw [if_neg bare, if_pos flat, if_neg fun within => ?_]
        · rfl
        · exact absurd (within.2.resolve_left bare) (by omega)
      · rw [if_neg bare, if_neg flat, below (Nat.pos_of_ne_zero flat)]
        by_cases fits : nestingItems (toJsonList node.children) < depth
        · rw [if_pos fits, if_pos ⟨room, .inr fits⟩]
          exact congrArg some node.with_children
        · rw [if_neg fits, if_neg fun within => fits (within.2.resolve_left bare)]
          rfl
  · rw [if_neg room, if_neg fun within => room within.1]

mutual

theorem ofJson?_toJson :
    (node : SpecNode) → (depth : Nat) →
      ofJson? depth node.toJson = if node.toJson.nesting ≤ depth then some node else none
  | ⟨kind, attributes, text, children⟩, depth => by
    have below := mapM_ofJson?_toJsonList children
    match depth with
    | 0 => rw [ofJson?, nesting_toJson, if_neg (by omega)]
    | 1 =>
      -- no child can be read, but then there is no room for the array of the children either
      rw [ofJson?]
      exact ofFields?_toJson fun positive => absurd positive (Nat.lt_irrefl 0)
    | depth + 2 =>
      rw [ofJson?]
      apply ofFields?_toJson
      intro _
      rw [below depth]
      simp only [Nat.lt_succ_iff]

theorem mapM_ofJson?_toJsonList :
    (nodes : List SpecNode) → (depth : Nat) →
      (toJsonList nodes).mapM (ofJson? depth)
        = if nestingItems (toJsonList nodes) ≤ depth then some nodes else none
  | [], depth => by
    rw [toJsonList, nestingItems, if_pos (Nat.zero_le depth)]
    rfl
  | node :: rest, depth => by
    have own := ofJson?_toJson node depth
    have later := mapM_ofJson?_toJsonList rest depth
    rw [toJsonList, List.mapM_cons, own, later, nestingItems]
    by_cases within : node.toJson.nesting ≤ depth
    · by_cases others : nestingItems (toJsonList rest) ≤ depth
      · rw [if_pos within, if_pos others, if_pos (Nat.max_le.mpr ⟨within, others⟩)]
        rfl
      · rw [if_pos within, if_neg others, if_neg fun both => others (Nat.max_le.mp both).2]
        rfl
    · rw [if_neg within, if_neg fun both => within (Nat.max_le.mp both).1]
      rfl

end

/-! ### Writing -/

mutual

/-- No number stands in what an element is written as. -/
theorem toJson_numberless : (node : SpecNode) → node.toJson.Numberless
  | ⟨kind, attributes, text, children⟩ => by
    have below := toJsonList_numberless children
    rw [toJson_eq]
    apply Numberless.object
    intro member within
    rcases mem_members within with rfl | rfl | ⟨content, rfl⟩ | rfl
    · exact .string _
    · apply Numberless.object
      intro entry among
      obtain ⟨pair, -, rfl⟩ := List.mem_map.mp among
      exact .string _
    · exact .string _
    · exact .array below

theorem toJsonList_numberless :
    (nodes : List SpecNode) → ∀ item ∈ toJsonList nodes, item.Numberless
  | [] => by
    rw [toJsonList]
    nofun
  | node :: rest => by
    rw [toJsonList]
    intro item member
    rcases List.mem_cons.mp member with rfl | later
    · exact toJson_numberless node
    · exact toJsonList_numberless rest item later

end

/-- Documents survive being written and read. A document is read again from its text, and is the document
that was written, exactly if the arrays and objects of the text nest no deeper than a reader enters. The
text states attributes, a text and children only where there are some, and so tells an empty text from one
that is absent. -/
theorem read?_written (node : SpecNode) :
    read? node.render = (if node.toJson.nesting ≤ depthLimit then some node else none) ∧
    ∃ members, node.toJson = .object members ∧
      (∀ member ∈ members, ∃ name ∈ fieldNames, member.1 = some name) ∧
      members.lookup (some "kind") = some (.text node.kind.name) ∧
      (members.lookup (some "attributes")).isNone = node.attributes.isEmpty ∧
      members.lookup (some "text") = node.text.map .text ∧
      (members.lookup (some "children")).isNone = node.children.isEmpty := by
  constructor
  · rw [read?, render, Json.read?_render (toJson_numberless node)]
    exact ofJson?_toJson node depthLimit
  · refine ⟨node.members, toJson_eq node, ?_, lookup_members node⟩
    intro member within
    rcases mem_members within with rfl | rfl | ⟨content, rfl⟩ | rfl <;>
      exact ⟨_, by decide, rfl⟩

example : (SpecNode.value "").render = "\x7b\"kind\":\"value\",\"text\":\"\"\x7d" := by decide

end SpecNode

end Signpost

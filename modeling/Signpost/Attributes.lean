/-!
# Attributes

Texts by name, each name once. The entries are kept in ascending order of their names, so attributes
with the same entries are equal however they were put together.
-/
namespace Signpost

structure Attributes where
  entries : List (String × String)
  ordered : entries.Pairwise fun left right => left.1 < right.1

namespace Attributes

instance : DecidableEq Attributes := fun left right =>
  if same : left.entries = right.entries then
    isTrue (by cases left; cases right; simp_all)
  else isFalse fun equal => same (congrArg entries equal)

instance : Repr Attributes := ⟨fun attributes precedence => reprPrec attributes.entries precedence⟩

def empty : Attributes := ⟨[], List.Pairwise.nil⟩

instance : Inhabited Attributes := ⟨empty⟩

/-- Puts an entry in its place; a name that is there already gets the new text. -/
def insertEntry (name text : String) : List (String × String) → List (String × String)
  | [] => [(name, text)]
  | entry :: rest =>
    if name < entry.1 then (name, text) :: entry :: rest
    else if name = entry.1 then (name, text) :: rest
    else entry :: insertEntry name text rest

theorem mem_insertEntry {name text : String} {entries : List (String × String)}
    {entry : String × String} (member : entry ∈ insertEntry name text entries) :
    entry = (name, text) ∨ entry ∈ entries := by
  induction entries with
  | nil => simpa [insertEntry] using member
  | cons first rest ih =>
    simp only [insertEntry] at member
    split at member
    · simpa using member
    · split at member
      · rcases List.mem_cons.mp member with equal | later
        · exact .inl equal
        · exact .inr (List.mem_cons_of_mem _ later)
      · rcases List.mem_cons.mp member with equal | later
        · exact .inr (equal ▸ List.mem_cons_self)
        · rcases ih later with equal | old
          · exact .inl equal
          · exact .inr (List.mem_cons_of_mem _ old)

theorem insertEntry_ordered (name text : String) (entries : List (String × String))
    (ordered : entries.Pairwise fun left right => left.1 < right.1) :
    (insertEntry name text entries).Pairwise fun left right => left.1 < right.1 := by
  induction entries with
  | nil => simp [insertEntry]
  | cons first rest ih =>
    obtain ⟨before, tail⟩ := List.pairwise_cons.mp ordered
    simp only [insertEntry]
    split
    next smaller =>
      refine List.pairwise_cons.mpr ⟨fun entry member => ?_, ordered⟩
      rcases List.mem_cons.mp member with equal | later
      · exact equal ▸ smaller
      · exact String.lt_trans smaller (before entry later)
    next notSmaller =>
      split
      next same =>
        exact List.pairwise_cons.mpr ⟨fun entry member => same ▸ before entry member, tail⟩
      next different =>
        refine List.pairwise_cons.mpr ⟨fun entry member => ?_, ih tail⟩
        rcases mem_insertEntry member with equal | old
        · have bound : first.1 ≤ name := String.not_lt.mp notSmaller
          subst equal
          exact Std.lt_of_le_of_ne bound fun equal => different equal.symm
        · exact before entry old

def insert (attributes : Attributes) (name text : String) : Attributes :=
  ⟨insertEntry name text attributes.entries,
    insertEntry_ordered name text attributes.entries attributes.ordered⟩

/-- The last of several entries with the same name counts. -/
def ofList (entries : List (String × String)) : Attributes :=
  entries.foldl (fun attributes entry => attributes.insert entry.1 entry.2) empty

def get? (attributes : Attributes) (name : String) : Option String :=
  attributes.entries.lookup name

theorem lookup_cons (name text other : String) (entries : List (String × String)) :
    ((name, text) :: entries).lookup other
      = if other = name then some text else entries.lookup other := by
  by_cases same : other = name
  · simp [same]
  · simp [List.lookup_cons, beq_eq_false_iff_ne.mpr same, same]

theorem lookup_insertEntry (name text other : String) (entries : List (String × String)) :
    (insertEntry name text entries).lookup other
      = if other = name then some text else entries.lookup other := by
  induction entries with
  | nil => rw [insertEntry, lookup_cons]
  | cons first rest ih =>
    obtain ⟨own, value⟩ := first
    rw [insertEntry]
    split
    · rw [lookup_cons]
    · split
      next equal =>
        subst equal
        rw [lookup_cons, lookup_cons]
        split <;> rfl
      next apart =>
        rw [lookup_cons, lookup_cons, ih]
        by_cases here : other = own
        · subst here
          rw [if_pos rfl, if_pos rfl, if_neg fun same => apart same.symm]
        · rw [if_neg here, if_neg here]

theorem get?_insert (attributes : Attributes) (name text other : String) :
    (attributes.insert name text).get? other
      = if other = name then some text else attributes.get? other :=
  lookup_insertEntry name text other attributes.entries

theorem get?_ofList (entries : List (String × String)) (name : String) :
    (ofList entries).get? name = entries.reverse.lookup name := by
  have after (attributes : Attributes) :
      (entries.foldl (fun attributes entry => attributes.insert entry.1 entry.2) attributes).get? name
        = (entries.reverse.lookup name).or (attributes.get? name) := by
    induction entries generalizing attributes with
    | nil => rfl
    | cons entry rest ih =>
      obtain ⟨own, text⟩ := entry
      rw [List.foldl_cons, ih, List.reverse_cons, List.lookup_append, get?_insert, lookup_cons,
        Option.or_assoc]
      split <;> rfl
  exact (after empty).trans (Option.or_none)

theorem mem_ofList {entries : List (String × String)} {entry : String × String}
    (member : entry ∈ (ofList entries).entries) : entry ∈ entries := by
  have after (attributes : Attributes) (inside : entry ∈ (entries.foldl
      (fun attributes entry => attributes.insert entry.1 entry.2) attributes).entries) :
      entry ∈ attributes.entries ∨ entry ∈ entries := by
    clear member
    induction entries generalizing attributes with
    | nil => exact .inl inside
    | cons first rest ih =>
      rcases ih _ inside with old | later
      · rcases mem_insertEntry old with rfl | earlier
        · exact .inr List.mem_cons_self
        · exact .inl earlier
      · exact .inr (List.mem_cons_of_mem _ later)
  rcases after empty member with none | inside
  · cases none
  · exact inside

def contains (attributes : Attributes) (name : String) : Bool := (attributes.get? name).isSome

theorem lookup_isSome_iff_mem {entries : List (String × String)} {name : String} :
    (entries.lookup name).isSome ↔ name ∈ entries.map (·.1) := by
  rw [List.lookup_isSome_iff, List.mem_map]
  constructor
  · rintro ⟨entry, member, same⟩
    exact ⟨entry, member, (beq_iff_eq.mp same).symm⟩
  · rintro ⟨entry, member, rfl⟩
    exact ⟨entry, member, beq_self_eq_true _⟩

theorem contains_iff (attributes : Attributes) (name : String) :
    attributes.contains name ↔ name ∈ attributes.entries.map (·.1) :=
  lookup_isSome_iff_mem

theorem contains_ofList (entries : List (String × String)) (name : String) :
    (ofList entries).contains name ↔ name ∈ entries.map (·.1) := by
  rw [contains, get?_ofList, lookup_isSome_iff_mem, List.map_reverse, List.mem_reverse]

def isEmpty (attributes : Attributes) : Bool := attributes.entries.isEmpty

end Attributes

end Signpost

import Signpost.Proofs.Regex.Anchored
import Signpost.Proofs.Regex.Composition

/-!
# How merged fragments match

Between the two ends of a text an alternation of fragments matches what the first of them matches
that matches at all. The groups of the fragment are set, with numbers behind those of the fragments
before it, and the groups of all other fragments are not.
-/
namespace Signpost.Regex

variable {text : Array Char}

theorem Branches.matchTo_single (item : Expr) (next : Nat) :
    (Branches.sequence [some item]).matchTo text next = item.matchTo text next := by
  refine (Expr.matchTo_seq ?_).trans rfl
  exact (Table.runs_build _ _ _).trans (if_pos (Nat.zero_le _))

namespace Fragment

/-- How many groups a fragment opens. -/
def groups (fragment : Fragment) : Nat := (Branches.sequence fragment.items).groups

/-- How a fragment matches a whole text by itself. -/
def matchWhole (fragment : Fragment) (text : Array Char) : Option Marks :=
  (Branches.sequence fragment.items).matchTo text 1

theorem search_anchored (fragment : Fragment) :
    search text fragment.anchored
      = (fragment.matchWhole text).map fun marks => (0, text.size, marks) :=
  Branches.search_sequence fragment.items

/-- The marks of the first fragment that matches, the first group of all having the number `next`. -/
def choose (text : Array Char) (next : Nat) : List Fragment → Option Marks
  | [] => none
  | first :: rest =>
    match first.matchWhole text with
    | some marks =>
      some ((next, 0, text.size) :: marks.map fun mark => (mark.1 + next, mark.2))
    | none => choose text (next + 1 + first.groups) rest

theorem group_matchTo (fragment : Fragment) (next : Nat) :
    (Branches.sequence fragment.group.items).matchTo text next
      = (fragment.matchWhole text).map fun marks =>
          (next, 0, text.size) :: marks.map fun mark => (mark.1 + next, mark.2) := by
  refine (Branches.matchTo_single fragment.captured next).trans ?_
  rw [captured, Expr.matchTo_group, Nat.add_comm, Expr.matchTo_shift, Option.map_map]
  rfl

theorem chooseTo_eq (fragments : List Fragment) (next : Nat) :
    Branches.chooseTo text next (fragments.map fun fragment =>
      Branches.sequence fragment.group.items) = choose text next fragments := by
  induction fragments generalizing next with
  | nil => rfl
  | cons first rest ih =>
    have groups : (Branches.sequence first.group.items).groups = first.groups + 1 :=
      Nat.zero_add _
    rw [List.map_cons, Branches.chooseTo, group_matchTo, choose, groups, ih,
      Nat.add_comm first.groups, ← Nat.add_assoc]
    cases first.matchWhole text <;> rfl

theorem branches_alternatives {fragments : List Fragment} (filled : fragments ≠ [])
    (finished : List Expr) (depths : List Nat) :
    (branches finished depths fragments).finished.reverse
        ++ [(branches finished depths fragments).current]
      = finished.reverse ++ fragments.map fun fragment =>
          Branches.sequence fragment.group.items := by
  induction fragments generalizing finished depths with
  | nil => exact absurd rfl filled
  | cons first rest ih =>
    cases rest with
    | nil => rfl
    | cons next rest =>
      refine (ih (List.cons_ne_nil next rest) _ _).trans ?_
      simp

theorem search_merged {fragments : List Fragment} (filled : fragments ≠ []) :
    search text (merged fragments)
      = (choose text 1 fragments).map fun marks => (0, text.size, marks) := by
  refine (Branches.search_sequence [some (branches [] [] fragments).whole]).trans ?_
  rw [Branches.matchTo_single, Branches.whole_matchTo, branches_alternatives filled,
    List.reverse_nil, List.nil_append, chooseTo_eq]

/-- A fragment sets none but its own groups. -/
theorem matchWhole_within {fragment : Fragment} {marks : Marks}
    (matched : fragment.matchWhole text = some marks) :
    marks.Within fun number => 1 ≤ number ∧ number < 1 + fragment.groups :=
  Expr.matchTo_within Expr.captures_bounds matched

theorem groups_append (items more : List (Option Expr)) :
    (Branches.sequence (items ++ more)).groups
      = (Branches.sequence more).groups + (Branches.sequence items).groups := by
  induction items with
  | nil => simp [Branches.sequence, Expr.groups]
  | cons item rest ih =>
    cases item with
    | none => exact ih
    | some item =>
      change (Branches.sequence (rest ++ more)).groups + item.groups = _
      rw [ih, Nat.add_assoc]
      rfl

@[simp]
theorem append_groups (first second : Fragment) :
    (first.append second).groups = first.groups + second.groups :=
  groups_append second.items first.items

@[simp]
theorem literal_groups (text : List Char) : (literal text).groups = 0 := by
  induction text with
  | nil => rfl
  | cons c rest ih =>
    rw [literal]
    split
    · rw [append_groups, ih]
      rfl
    · rw [append_groups, ih]
      rfl

@[simp]
theorem literal_names (text : List Char) : (literal text).names = [] := by
  induction text with
  | nil => rfl
  | cons c rest ih =>
    rw [literal]
    split <;> simp [append, escaped, char, ih]

theorem anchored_groups (fragment : Fragment) : fragment.anchored.groups = fragment.groups := by
  change (Branches.sequence (fragment.items ++ _)).groups + 0 = _
  rw [groups_append]
  simp [Branches.sequence, Expr.groups, groups]

/-! ### Nesting -/

/-- The conditions on both ends of a text stand beside the items between them. -/
theorem anchoredDepth_eq (fragment : Fragment) :
    fragment.anchoredDepth = deepest fragment.depths + 1 := by
  have side : fragment.anchoredDepth = deepest (0 :: fragment.depths ++ [0]) + 1 := by
    rw [anchoredDepth]
    cases fragment.depths <;> rfl
  rw [side, List.cons_append, deepest_cons, deepest_append]
  simp

theorem literal_deepest (text : List Char) : deepest (literal text).depths = 0 := by
  induction text with
  | nil => rfl
  | cons c rest ih =>
    rw [literal]
    split <;> simp [append, escaped, char, deepest_append, ih]

theorem branches_depths {fragments : List Fragment} (filled : fragments ≠ [])
    (finished : List Expr) (depths : List Nat) :
    level (branches finished depths fragments).depths
        :: (branches finished depths fragments).finishedDepths
      = (fragments.map capturedDepth).reverse ++ depths := by
  induction fragments generalizing finished depths with
  | nil => exact absurd rfl filled
  | cons first rest ih =>
    cases rest with
    | nil => rfl
    | cons next rest =>
      refine (ih (List.cons_ne_nil next rest) _ _).trans ?_
      simp [group]

/-- A fragment by itself nests no deeper than in an alternation. -/
theorem anchored_shallower {fragments : List Fragment} {fragment : Fragment}
    (member : fragment ∈ fragments) : fragment.anchoredDepth ≤ mergedDepth fragments := by
  have inside : capturedDepth fragment ∈ (fragments.map capturedDepth).reverse ++ [] := by
    simpa using ⟨fragment, member, rfl⟩
  rw [← branches_depths (List.ne_nil_of_mem member) [] []] at inside
  have alternative := Nat.le_trans (le_deepest inside) (level_bounds _).1
  have own := (level_bounds fragment.depths).1
  have whole : mergedDepth fragments = (branches [] [] fragments).depth + 2 := by
    simp [mergedDepth, level]
  rw [anchoredDepth_eq, whole]
  change capturedDepth fragment ≤ (branches [] [] fragments).depth at alternative
  rw [capturedDepth] at alternative
  omega

/-- An alternation of a single fragment nests three levels deeper at most: it has two groups around the
fragment, and the ends of the text beside them. -/
theorem mergedDepth_single (fragment : Fragment) :
    mergedDepth [fragment] ≤ fragment.anchoredDepth + 3 := by
  have inner := (level_bounds fragment.depths).2
  have outer := (level_bounds [0, (branches [] [] [fragment]).depth + 1, 0]).2
  rw [mergedDepth, anchoredDepth_eq]
  refine outer.trans ?_
  simp [branches, Branches.depth, group, capturedDepth]
  omega

theorem names_nodup {fragments : List Fragment} (distinct : (allNames fragments).Nodup)
    {fragment : Fragment} (member : fragment ∈ fragments) : fragment.names.Nodup := by
  induction fragments with
  | nil => cases member
  | cons first rest ih =>
    rw [allNames] at distinct
    rcases List.mem_cons.mp member with rfl | later
    · exact distinct.of_append_right
    · exact ih distinct.of_append_left later

/-! ### Compiled fragments -/

theorem compile_iff {text : List Char} {source : String} {regex : Regex} {condition : Prop}
    [Decidable condition] {expr : Expr} (shape : source.toList = text)
    (reads : Expr.read? text = if condition then some expr else none) :
    compile? source = some regex ↔ condition ∧ regex = ⟨source, expr⟩ := by
  rw [compile?, shape, reads]
  by_cases holds : condition <;> simp [holds, eq_comm]

/-- Between both ends of a text a fragment uses no name twice and does not nest too deep. -/
def Compiles (fragment : Fragment) : Prop :=
  fragment.names.Nodup ∧ fragment.anchoredDepth ≤ Expr.nestLimit

theorem compile_anchored_iff {fragment : Fragment} {source : String} {regex : Regex}
    (shape : source.toList = "^".toList ++ fragment.text ++ "$".toList) :
    compile? source = some regex ↔ fragment.Compiles ∧ regex = ⟨source, fragment.anchored⟩ :=
  (compile_iff shape fragment.read_anchored).trans Iff.rfl

/-- Fragments that use no name twice and do not nest too deep compile as alternatives. -/
theorem compile_merged_iff {fragments : List Fragment} {source : String} {regex : Regex}
    (filled : fragments ≠ [])
    (shape : source.toList = "^(?:".toList ++ joined fragments ++ ")$".toList) :
    compile? source = some regex ↔
      ((allNames fragments).Nodup ∧ mergedDepth fragments ≤ Expr.nestLimit) ∧
        regex = ⟨source, merged fragments⟩ :=
  compile_iff shape (read_merged filled)

/-- Fragments that compile as alternatives compile one by one. -/
theorem compiles_of_merged {fragments : List Fragment} {fragment : Fragment}
    (distinct : (allNames fragments).Nodup) (shallow : mergedDepth fragments ≤ Expr.nestLimit)
    (member : fragment ∈ fragments) : fragment.Compiles :=
  ⟨names_nodup distinct member, Nat.le_trans (anchored_shallower member) shallow⟩

end Fragment

theorem search_within {expr : Expr} {start stop : Nat} {marks : Marks}
    (found : search text expr = some (start, stop, marks)) :
    marks.Within fun number => number ∈ (expr.captures 1).map (·.1) := by
  obtain ⟨position, -, first⟩ := List.exists_of_findSome?_eq_some found
  obtain ⟨run, head, only⟩ := Option.map_eq_some_iff.mp first
  cases only
  exact Expr.runs_within (fun capture member => List.mem_map_of_mem member) start _
    (List.mem_of_mem_head? head)

theorem le_groupCount {regex : Regex} {number : Nat}
    (member : number ∈ (regex.expr.captures 1).map (·.1)) : number ≤ regex.groupCount := by
  rw [groupCount, List.foldl_max]
  exact Nat.le_trans (List.le_max?_getD_of_mem member) (Nat.le_max_right _ _)

/-- No more groups are reported than are opened. -/
theorem groupCount_le (regex : Regex) : regex.groupCount ≤ regex.expr.groups := by
  rw [groupCount, List.foldl_max]
  refine Nat.max_le.mpr ⟨Nat.zero_le _, ?_⟩
  cases greatest : (regex.captures.map Prod.fst).max? with
  | none => exact Nat.zero_le _
  | some number =>
    obtain ⟨capture, member, rfl⟩ := List.mem_map.mp (List.max?_mem greatest)
    have bounds := Expr.captures_bounds capture member
    simp only [Option.getD_some]
    omega

/-- The part of a text that a group has matched. -/
def slice (text : String) (span : Nat × Nat) : String :=
  String.ofList (text.toList.toArray.extract span.1 span.2).toList

/-- The groups of a match are those that it marks. -/
theorem match?_groups {regex : Regex} {segment : String} {start stop : Nat} {marks : Marks}
    (found : search segment.toList.toArray regex.expr = some (start, stop, marks)) :
    ∃ groups, regex.match? segment = some groups ∧ ∀ index,
      groups[index + 1]?.join = (marks.lookup (index + 1)).map (slice segment) := by
  refine ⟨_, by rw [match?, found]; rfl, fun index => ?_⟩
  rw [List.getElem?_cons_succ, List.getElem?_map]
  by_cases reported : index < regex.groupCount
  · rw [List.getElem?_range reported]
    rfl
  · -- the numbers of the marks are among those that are reported
    have unmarked : marks.lookup (index + 1) = none := by
      rw [List.lookup_eq_none_iff]
      intro mark member
      have known := le_groupCount (search_within found mark member)
      simp only [bne_iff_ne]
      omega
    rw [unmarked, List.getElem?_eq_none (by simpa using reported)]
    rfl

end Signpost.Regex

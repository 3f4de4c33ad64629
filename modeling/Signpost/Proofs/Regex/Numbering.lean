import Signpost.Proofs.Regex.Alternation

/-!
# Numbers of groups

Groups are numbered by their opening parentheses. Behind an expression the numbers go on after all of
its groups, whether or not a match reports them; what a match reports ends with the last group that
can take part.
-/
namespace Signpost.Regex

namespace Expr

/-- The name and the content of the group with a number, the first group that opens being the first. -/
def groupAt? : Expr → Nat → Option (Option String × Expr)
  | .empty, _ | .chars _, _ | .assertion _, _ => none
  | .group name body, number =>
    if number = 1 then some (name, body) else body.groupAt? (number - 1)
  | .seq first second, number | .either first second, number =>
    if number ≤ first.groups then first.groupAt? number
    else second.groupAt? (number - first.groups)
  | .repeated body _ _ _, number => body.groupAt? number

/-- The number of the last group that a match reports. -/
def reported (expr : Expr) : Nat := ((expr.captures 1).map Prod.fst).foldl max 0

theorem foldl_max_start (start : Nat) (numbers : List Nat) :
    numbers.foldl max start = max start (numbers.foldl max 0) := by
  induction numbers generalizing start with
  | nil => simp
  | cons number rest ih =>
    rw [List.foldl_cons, List.foldl_cons, ih, ih (max 0 number)]
    omega

theorem foldl_max_shift (start more : Nat) (numbers : List Nat) :
    (numbers.map (· + more)).foldl max (start + more) = numbers.foldl max start + more := by
  induction numbers generalizing start with
  | nil => rfl
  | cons number rest ih =>
    rw [List.map_cons, List.foldl_cons, List.foldl_cons, Nat.add_max_add_right, ih]

theorem captures_none {expr : Expr} (groupless : expr.groups = 0) (next : Nat) :
    expr.captures next = [] := by
  refine List.eq_nil_iff_forall_not_mem.mpr fun capture member => ?_
  have bounds := captures_bounds capture member
  omega

theorem reported_le (expr : Expr) : expr.reported ≤ expr.groups := groupCount_le ⟨"", expr⟩

/-- The last number that is reported when the groups are numbered from a greater one on. -/
theorem reported_behind (expr : Expr) (more : Nat) :
    ((expr.captures (1 + more)).map Prod.fst).foldl max more = expr.reported + more := by
  have numbers : (expr.captures (1 + more)).map Prod.fst
      = ((expr.captures 1).map Prod.fst).map (· + more) := by
    rw [captures_shift, List.map_map, List.map_map]
    rfl
  have shifted := foldl_max_shift 0 more ((expr.captures 1).map Prod.fst)
  rw [Nat.zero_add] at shifted
  rw [numbers, shifted, reported]

theorem reported_group (name : Option String) (body : Expr) :
    (group name body).reported = body.reported + 1 := reported_behind body 1

/-- A group in the second of two expressions stands behind all groups of the first. -/
theorem reported_seq (first second : Expr) :
    (seq first second).reported
      = if second.captures 1 = [] then first.reported else second.reported + first.groups := by
  have split : (seq first second).reported
      = ((second.captures (1 + first.groups)).map Prod.fst).foldl max first.reported := by
    rw [reported, captures, List.map_append, List.foldl_append, reported]
  have behind : second.captures (1 + first.groups)
      = (second.captures 1).map fun capture => (capture.1 + first.groups, capture.2) :=
    captures_shift second 1 first.groups
  rw [split]
  cases filled : second.captures 1 with
  | nil => simp [behind, filled]
  | cons capture rest =>
    have last := reported_behind second first.groups
    have low := reported_le first
    rw [behind, filled, List.map_cons, List.map_cons, List.foldl_cons] at last ⊢
    have high : 1 ≤ capture.1 ∧ capture.1 < 1 + second.groups :=
      captures_bounds capture (by simp [filled])
    rw [foldl_max_start] at last ⊢
    rw [if_neg (List.cons_ne_nil _ _), ← last]
    omega

end Expr

namespace Branches

theorem sequence_single (item : Expr) :
    (sequence [some item]).groups = item.groups ∧
      ∀ next, (sequence [some item]).captures next = item.captures next := by
  simp [sequence, Expr.groups, Expr.captures]

theorem captures_append (items before : List (Option Expr)) (next : Nat) :
    (sequence (items ++ before)).captures next
      = (sequence before).captures next
        ++ (sequence items).captures (next + (sequence before).groups) := by
  induction items with
  | nil => simp [sequence, Expr.captures]
  | cons item rest ih =>
    cases item with
    | none => exact ih
    | some item =>
      have groups := Fragment.groups_append rest before
      change (sequence (rest ++ before)).captures next
        ++ item.captures (next + (sequence (rest ++ before)).groups) = _
      rw [ih, groups, List.append_assoc, ← Nat.add_assoc]
      rfl

/-- Items that follow leave the groups of earlier ones where they are. -/
theorem groupAt?_append (items before : List (Option Expr)) {number : Nat}
    (within : number ≤ (sequence before).groups) :
    (sequence (items ++ before)).groupAt? number = (sequence before).groupAt? number := by
  induction items with
  | nil => rfl
  | cons item rest ih =>
    cases item with
    | none => exact ih
    | some item =>
      have groups := Fragment.groups_append rest before
      have inside : number ≤ (sequence (rest ++ before)).groups := by omega
      change (if number ≤ (sequence (rest ++ before)).groups then
        (sequence (rest ++ before)).groupAt? number else _) = _
      rw [if_pos inside, ih]

end Branches

namespace Fragment

theorem anchored_captures (fragment : Fragment) (next : Nat) :
    fragment.anchored.captures next = (Branches.sequence fragment.items).captures next := by
  change (Branches.sequence (fragment.items ++ _)).captures next ++ [] = _
  rw [List.append_nil, Branches.captures_append]
  simp [Branches.sequence, Expr.captures, Expr.groups]

theorem captures_between (front own behind : Fragment) {item : Expr}
    (single : own.items = [some item]) :
    (front.append (own.append behind)).anchored.captures 1
      = (Branches.sequence front.items).captures 1 ++ (item.captures (1 + front.groups)
        ++ (Branches.sequence behind.items).captures (1 + front.groups + item.groups)) := by
  have shape : (front.append (own.append behind)).items = (behind.items ++ own.items) ++ front.items :=
    rfl
  rw [anchored_captures, shape, Branches.captures_append, Branches.captures_append, single,
    (Branches.sequence_single item).1, (Branches.sequence_single item).2]
  rfl

/-- Behind the last item that opens groups nothing more is reported. -/
theorem reported_between (front own behind : Fragment) {item : Expr}
    (single : own.items = [some item]) (groupless : behind.groups = 0) :
    (front.append (own.append behind)).anchored.reported
      = ((Branches.sequence front.items).seq item).reported := by
  rw [Expr.reported, captures_between front own behind single, Expr.captures_none groupless,
    List.append_nil]
  rfl

/-- A group between two fragments has the number behind the groups of the first. -/
theorem groupAt?_between (front own behind : Fragment) {item : Expr}
    (single : own.items = [some item]) (filled : 0 < item.groups) :
    (front.append (own.append behind)).anchored.groupAt? (front.groups + 1) = item.groupAt? 1 := by
  let before := front.items ++ [some (.assertion .textStart)]
  have counted : (Branches.sequence before).groups = front.groups := by
    rw [groups_append]
    exact Nat.zero_add _
  have shape : (front.append (own.append behind)).anchored
      = Branches.sequence ((some (.assertion .textEnd) :: behind.items) ++ (some item :: before)) := by
    simp [append, anchored, single, before]
  have groups : (Branches.sequence (some item :: before)).groups = front.groups + item.groups := by
    change (Branches.sequence before).groups + item.groups = _
    rw [counted]
  rw [shape, Branches.groupAt?_append _ _ (by omega)]
  change (if front.groups + 1 ≤ (Branches.sequence before).groups then _ else _) = _
  rw [if_neg (by omega), counted, Nat.add_sub_cancel_left]

end Fragment

end Signpost.Regex

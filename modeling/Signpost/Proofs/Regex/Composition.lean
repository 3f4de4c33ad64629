import Signpost.Proofs.Regex.Labels
import Signpost.Regex.Basic

/-!
# Putting expressions together

A fragment is a text that adds known items of known depths to the alternative in which it stands.
Fragments can be put one after another, into groups and into alternations, and their items follow.
-/
namespace Signpost.Regex

/-! ### Depths -/

theorem deepest_append (depths more : List Nat) :
    deepest (depths ++ more) = max (deepest depths) (deepest more) := by
  induction depths with
  | nil => exact (Nat.zero_max _).symm
  | cons depth rest ih => rw [List.cons_append, deepest_cons, ih, deepest_cons, Nat.max_assoc]

theorem le_deepest {depths : List Nat} {depth : Nat} (member : depth ∈ depths) :
    depth ≤ deepest depths := by
  induction depths with
  | nil => cases member
  | cons first rest ih =>
    rcases List.mem_cons.mp member with rfl | later
    · exact Nat.le_max_left _ _
    · exact Nat.le_trans (ih later) (Nat.le_max_right _ _)

theorem deepest_le {depths : List Nat} {bound : Nat} (below : ∀ depth ∈ depths, depth ≤ bound) :
    deepest depths ≤ bound := by
  induction depths with
  | nil => exact Nat.zero_le bound
  | cons first rest ih =>
    obtain ⟨here, later⟩ := List.forall_mem_cons.mp below
    exact Nat.max_le.mpr ⟨here, ih later⟩

/-- Side by side things nest at most one level deeper than by themselves. -/
theorem level_bounds (depths : List Nat) :
    deepest depths ≤ level depths ∧ level depths ≤ deepest depths + 1 := by
  match depths with
  | [] => exact ⟨Nat.le_refl 0, Nat.zero_le _⟩
  | [depth] => simp
  | first :: second :: rest => exact ⟨Nat.le_succ _, Nat.le_refl _⟩

/-! ### Fragments -/

def Reading.adding (reading : Reading) (items : List (Option Expr)) (depths : List Nat)
    (names : List String) : Reading :=
  { reading with
    here := { reading.here with
      items := items ++ reading.here.items
      depths := depths ++ reading.here.depths }
    names := names ++ reading.names }

theorem Reading.adding_adding (reading : Reading) (items more : List (Option Expr))
    (depths deeper : List Nat) (names others : List String) :
    (reading.adding items depths names).adding more deeper others
      = reading.adding (more ++ items) (deeper ++ depths) (others ++ names) := by
  simp [Reading.adding]

/-- A text adds items and names to a reading without flags, unless one of the names has been used
before. A question mark may not follow, since it would belong to the last item. -/
structure Fragment where
  text : List Char
  items : List (Option Expr)
  depths : List Nat
  names : List String
  starts : text.head? ≠ some '?'
  reads : ∃ steps ≤ text.length, ∀ (reading : Reading) more fuel,
    reading.flags = {} → reading.names.Nodup → more.head? ≠ some '?' →
      reading.run (steps + fuel) (text ++ more)
        = if (names ++ reading.names).Nodup then (reading.adding items depths names).run fuel more
          else none

namespace Fragment

def empty : Fragment where
  text := []
  items := []
  depths := []
  names := []
  starts := by simp
  reads := by
    refine ⟨0, Nat.le_refl 0, fun reading more fuel _ distinct _ => ?_⟩
    rw [Nat.zero_add]
    exact (if_pos distinct).symm

theorem head_append {first second : List Char} {c : Char} (early : first.head? ≠ some c)
    (late : second.head? ≠ some c) : (first ++ second).head? ≠ some c := by
  cases first with
  | nil => exact late
  | cons d rest => exact early

def append (first second : Fragment) : Fragment where
  text := first.text ++ second.text
  items := second.items ++ first.items
  depths := second.depths ++ first.depths
  names := second.names ++ first.names
  starts := head_append first.starts second.starts
  reads := by
    obtain ⟨early, bound, before⟩ := first.reads
    obtain ⟨late, limit, behind⟩ := second.reads
    refine ⟨early + late, by simp; omega, fun reading more fuel unset distinct plain => ?_⟩
    rw [List.append_assoc, Nat.add_assoc,
      before reading _ _ unset distinct (head_append second.starts plain)]
    -- the names of the first fragment are known when the second is read
    by_cases fresh : (first.names ++ reading.names).Nodup
    · rw [if_pos fresh, behind (reading.adding first.items first.depths first.names) more fuel unset fresh plain]
      rw [Reading.adding_adding, List.append_assoc]
      rfl
    · rw [if_neg fresh, if_neg]
      intro all
      rw [List.append_assoc] at all
      exact fresh all.of_append_right

/-- A single step that adds an item without a level of its own. -/
theorem single_reads {text : List Char} {c : Char} {rest : List Char} {item : Expr}
    (shape : text = c :: rest)
    (steps : ∀ (reading : Reading) (more : List Char), reading.flags = {} →
      reading.step c (rest ++ more) = some (reading.add item 0, more)) :
    ∃ steps ≤ text.length, ∀ (reading : Reading) more fuel,
      reading.flags = {} → reading.names.Nodup → more.head? ≠ some '?' →
        reading.run (steps + fuel) (text ++ more)
          = if ([] ++ reading.names).Nodup then (reading.adding [some item] [0] []).run fuel more
            else none := by
  subst shape
  refine ⟨1, by simp, fun reading more fuel unset distinct _ => ?_⟩
  -- the step has no names to check
  rw [List.nil_append, if_pos distinct, Nat.add_comm, List.cons_append,
    Reading.run_step (by rw [unset]), steps reading more unset]
  rfl

def char (c : Char) (plain : Reading.special c = false) : Fragment where
  text := [c]
  items := [some (.chars (.single c))]
  depths := [0]
  names := []
  starts := by
    rintro ⟨⟩
    cases plain
  reads := single_reads rfl fun reading more unset => by
    rw [List.nil_append, Reading.step_literal plain, unset]
    rfl

def escaped (c : Char) (allowed : escapable c) : Fragment where
  text := ['\\', c]
  items := [some (.chars (.single c))]
  depths := [0]
  names := []
  starts := by simp
  reads := single_reads rfl fun reading more unset => by
    have itself : readEscape reading.flags (c :: ([] ++ more)) = some (.char c, more) := by
      unfold readEscape
      exact if_pos allowed
    rw [Reading.step_escape, List.cons_append, itself]
    change some (reading.add (reading.flags.literal c) 0, more) = _
    rw [unset]
    rfl

theorem escapable_of_meta {c : Char} (special : c ∈ Regex.metaChars) : escapable c :=
  List.all_eq_true.mp (by decide : Regex.metaChars.all escapable = true) c special

theorem plain_of_not_meta {c : Char} (plain : c ∉ Regex.metaChars) : Reading.special c = false := by
  simp [Regex.metaChars] at plain
  simp [Reading.special, plain]

/-- A text that means itself. -/
def literal : List Char → Fragment
  | [] => empty
  | c :: rest =>
    if meta_ : c ∈ Regex.metaChars then (escaped c (escapable_of_meta meta_)).append (literal rest)
    else (char c (plain_of_not_meta meta_)).append (literal rest)

theorem literal_text (text : List Char) :
    (literal text).text
      = text.flatMap fun c => if c ∈ Regex.metaChars then ['\\', c] else [c] := by
  induction text with
  | nil => rfl
  | cons c rest ih =>
    rw [literal, List.flatMap_cons, ← ih]
    split <;> rfl

theorem literal_items (text : List Char) :
    (literal text).items = (text.map fun c => some (.chars (.single c))).reverse := by
  induction text with
  | nil => rfl
  | cons c rest ih =>
    rw [literal, List.map_cons, List.reverse_cons, ← ih]
    split <;> rfl

/-- What stands in a capture group of its own. -/
def captured (fragment : Fragment) : Expr := .group none (Branches.sequence fragment.items)

/-- How deep a group nests that has nothing but the fragment. -/
def capturedDepth (fragment : Fragment) : Nat := level fragment.depths + 1

theorem captured_reads (fragment : Fragment) :
    ∃ steps ≤ fragment.text.length, ∀ (reading : Reading) more fuel,
      reading.flags = {} → reading.names.Nodup →
        reading.run (steps + 2 + fuel) ('(' :: (fragment.text ++ ')' :: more))
          = if (fragment.names ++ reading.names).Nodup then
              (reading.adding [some fragment.captured] [fragment.capturedDepth]
                fragment.names).run fuel more
            else none := by
  obtain ⟨steps, bound, inside⟩ := fragment.reads
  refine ⟨steps, bound, fun reading more fuel unset distinct => ?_⟩
  have parts : steps + 2 + fuel = steps + (fuel + 1) + 1 := by omega
  -- a question mark behind the parenthesis would open another kind of group
  have start : (fragment.text ++ ')' :: more).head? ≠ some '?' :=
    head_append fragment.starts (by simp)
  rw [parts, Reading.run_step (by rw [unset]), Reading.step_capture unset start, Option.bind_some]
  refine (inside (reading.enter (.capture none) {}) (')' :: more) (fuel + 1) rfl distinct
    (by simp)).trans (if_congr Iff.rfl ?_ rfl)
  -- the closing parenthesis adds the group to the reading around it
  rw [Reading.run_step rfl]
  change Reading.run _ fuel more = _
  congr 1
  simp [Reading.adding, Reading.enter, Branches.add, Opening.wrap, captured, capturedDepth,
    Branches.whole, Branches.current, Branches.depth]

def group (fragment : Fragment) : Fragment where
  text := '(' :: (fragment.text ++ [')'])
  items := [some fragment.captured]
  depths := [fragment.capturedDepth]
  names := fragment.names
  starts := by simp
  reads := by
    obtain ⟨steps, bound, inside⟩ := fragment.captured_reads
    refine ⟨steps + 2, by simp; omega, fun reading more fuel unset distinct _ => ?_⟩
    rw [← inside reading more fuel unset distinct]
    simp

/-- What stands in a capture group of its own and may be missing. -/
def optional (fragment : Fragment) : Fragment where
  text := '(' :: (fragment.text ++ [')', '?'])
  items := [some (.repeated fragment.captured 0 (some 1) true)]
  depths := [fragment.capturedDepth + 1]
  names := fragment.names
  starts := by simp
  reads := by
    obtain ⟨steps, bound, inside⟩ := fragment.captured_reads
    refine ⟨steps + 3, by simp; omega, fun reading more fuel unset distinct plain => ?_⟩
    have shape : '(' :: (fragment.text ++ [')', '?']) ++ more
        = '(' :: (fragment.text ++ ')' :: '?' :: more) := by simp
    have fuel_ : steps + 3 + fuel = steps + 2 + (fuel + 1) := by omega
    rw [shape, fuel_, inside reading _ _ unset distinct]
    -- the group has been read, and the question mark repeats it
    refine if_congr Iff.rfl ?_ rfl
    rw [Reading.run_step (by simp [Reading.adding, unset])]
    change (Reading.readRepetition _ 0 (some 1) more).bind _ = _
    -- a second question mark would make the repetition lazy
    have greedy : (more.head? == some '?') = false := by simpa using plain
    rw [Reading.readRepetition_eq, if_neg plain, greedy]
    simp [Reading.adding, Branches.repeatLast, unset]

/-- What is read by itself and as the only content of a group is a fragment inside a group. -/
theorem exists_plain {body : List Char} {alone wrapped : Reading}
    (read : Reading.ofText? body = some alone)
    (encloses : Reading.ofText? ("^(?:".toList ++ body ++ ")$".toList) = some wrapped) :
    ∃ fragment : Fragment, fragment.text = "(?:".toList ++ body ++ [')'] ∧
      fragment.items = [some alone.here.whole] ∧ fragment.depths = [alone.here.depth + 1] ∧
      fragment.names.Perm alone.here.whole.labels := by
  -- the reading of the body passes on between parentheses, since the second text is read too
  obtain ⟨steps, bound, passes⟩ := Reading.ofText?_passes read encloses
  obtain ⟨-, closed⟩ := Reading.ofText?_iff.mp read
  refine ⟨{
    text := "(?:".toList ++ body ++ [')']
    items := [some alone.here.whole]
    depths := [alone.here.depth + 1]
    names := alone.names
    starts := by simp
    reads := ⟨steps + 2, by simp; omega, fun reading more fuel unset distinct _ => ?_⟩ },
    rfl, rfl, rfl, Reading.ofText?_labels read⟩
  have parts : steps + 2 + fuel = steps + (fuel + 1) + 1 := by omega
  have shape : "(?:".toList ++ body ++ [')'] ++ more = '(' :: '?' :: ':' :: (body ++ ')' :: more) := by
    simp
  rw [shape, parts, Reading.run_step (by rw [unset]), Reading.step_plain unset, Option.bind_some]
  refine (Reading.run_closed passes closed distinct more fuel).trans (if_congr Iff.rfl ?_ rfl)
  rw [Reading.adding, unset]
  rfl

/-! ### Whole texts -/

/-- What is read if a condition holds denotes an expression if it does not nest too deep either. -/
theorem read?_of_ite {text : List Char} {condition : Prop} [Decidable condition] {final : Reading}
    (read : Reading.ofText? text = if condition then some final else none) :
    Expr.read? text = if condition ∧ final.here.depth ≤ Expr.nestLimit then some final.here.whole
      else none := by
  rw [Expr.read?, read]
  by_cases holds : condition <;> simp [holds]

/-- A fragment by itself. -/
theorem ofText?_text (fragment : Fragment) :
    Reading.ofText? fragment.text = if fragment.names.Nodup then
      some (Reading.adding {} fragment.items fragment.depths fragment.names) else none := by
  obtain ⟨steps, bound, inside⟩ := fragment.reads
  have fuel : fragment.text.length + 1 = steps + (fragment.text.length - steps + 1) := by omega
  have whole := inside {} [] (fragment.text.length - steps + 1) rfl List.nodup_nil (by simp)
  have known : fragment.names ++ ({} : Reading).names = fragment.names := List.append_nil _
  rw [List.append_nil, known] at whole
  rw [Reading.ofText?, fuel, whole]
  by_cases distinct : fragment.names.Nodup
  · rw [if_pos distinct, if_pos distinct]
    simp [Reading.run, Reading.adding, Flags.skip]
  · rw [if_neg distinct, if_neg distinct]
    rfl

theorem read_text (fragment : Fragment) :
    Expr.read? fragment.text
      = if fragment.names.Nodup ∧ level fragment.depths ≤ Expr.nestLimit then
          some (Branches.sequence fragment.items) else none := by
  rw [read?_of_ite fragment.ofText?_text]
  simp [Reading.adding, Branches.whole, Branches.current, Branches.depth]

/-- A fragment between the two ends of the text. -/
def anchored (fragment : Fragment) : Expr :=
  Branches.sequence (some (.assertion .textEnd) :: fragment.items ++ [some (.assertion .textStart)])

def anchoredDepth (fragment : Fragment) : Nat := level (0 :: fragment.depths ++ [0])

theorem ofText?_anchored (fragment : Fragment) :
    Reading.ofText? ("^".toList ++ fragment.text ++ "$".toList)
      = if fragment.names.Nodup then
          some { here.items := some (.assertion .textEnd) :: fragment.items
                    ++ [some (.assertion .textStart)]
                 here.depths := 0 :: fragment.depths ++ [0]
                 names := fragment.names }
        else none := by
  obtain ⟨steps, bound, inside⟩ := fragment.reads
  have shape : "^".toList ++ fragment.text ++ "$".toList = '^' :: (fragment.text ++ ['$']) := rfl
  -- a text is read with a step more than it has characters, of which the fragment leaves some over
  have fuel : ('^' :: (fragment.text ++ ['$'])).length + 1
      = steps + (fragment.text.length - steps + 1 + 1) + 1 := by
    simp
    omega
  rw [shape, Reading.ofText?, fuel, Reading.run_step rfl, Reading.step_start rfl, Option.bind_some]
  dsimp only
  rw [inside _ ['$'] _ rfl List.nodup_nil (by simp)]
  change (if (fragment.names ++ []).Nodup then _ else _ : Option Reading).filter _ = _
  rw [List.append_nil]
  -- the names are what decides between the two readings
  by_cases distinct : fragment.names.Nodup
  · rw [if_pos distinct, if_pos distinct, Reading.run_step rfl, Reading.step_stop rfl,
      Option.bind_some]
    simp [Reading.run, Reading.adding, Reading.add, Branches.add]
  · rw [if_neg distinct, if_neg distinct]
    rfl

theorem read_anchored (fragment : Fragment) :
    Expr.read? ("^".toList ++ fragment.text ++ "$".toList)
      = if fragment.names.Nodup ∧ fragment.anchoredDepth ≤ Expr.nestLimit then
          some fragment.anchored else none :=
  (read?_of_ite fragment.ofText?_anchored).trans (if_congr Iff.rfl rfl rfl)

/-! ### Alternations -/

/-- Fragments in groups of their own, as alternatives. -/
def joined : List Fragment → List Char
  | [] => []
  | [last] => last.group.text
  | first :: rest => first.group.text ++ '|' :: joined rest

def allNames : List Fragment → List String
  | [] => []
  | first :: rest => allNames rest ++ first.names

/-- The alternatives of a group behind those that are finished. -/
def branches (finished : List Expr) (depths : List Nat) : List Fragment → Branches
  | [] => ⟨finished, [], depths, []⟩
  | [last] => ⟨finished, last.group.items, depths, last.group.depths⟩
  | first :: rest =>
    branches (Branches.sequence first.group.items :: finished)
      (level first.group.depths :: depths) rest

theorem joined_reads {fragments : List Fragment} (filled : fragments ≠ []) :
    ∃ steps ≤ (joined fragments).length, ∀ (reading : Reading) more fuel,
      reading.flags = {} → reading.names.Nodup → reading.here.items = [] →
      reading.here.depths = [] →
        reading.run (steps + fuel) (joined fragments ++ ')' :: more)
          = if (allNames fragments ++ reading.names).Nodup then
              Reading.run { reading with
                here := branches reading.here.finished reading.here.finishedDepths fragments
                names := allNames fragments ++ reading.names } fuel (')' :: more)
            else none := by
  induction fragments with
  | nil => exact absurd rfl filled
  | cons first rest ih =>
    obtain ⟨early, bound, before⟩ := first.group.reads
    -- the last alternative is followed by the closing parenthesis, any other by a bar
    cases rest with
    | nil =>
      refine ⟨early, bound, fun reading more fuel unset distinct fresh flat => ?_⟩
      refine (before reading (')' :: more) fuel unset distinct (by simp)).trans
        (if_congr Iff.rfl ?_ rfl)
      simp [Reading.adding, allNames, branches, fresh, flat, group]
    | cons next rest =>
      obtain ⟨late, limit, behind⟩ := ih (List.cons_ne_nil next rest)
      refine ⟨early + (late + 1), by simp [joined]; omega,
        fun reading more fuel unset distinct fresh flat => ?_⟩
      have shape : joined (first :: next :: rest) ++ ')' :: more
          = first.group.text ++ '|' :: (joined (next :: rest) ++ ')' :: more) := by
        simp [joined]
      have parts : early + (late + 1) + fuel = early + (late + fuel + 1) := by omega
      rw [shape, parts, before reading _ _ unset distinct (by simp)]
      have all_names : allNames (first :: next :: rest) ++ reading.names
          = allNames (next :: rest) ++ (first.group.names ++ reading.names) :=
        List.append_assoc _ _ _
      -- a name that is used twice stops the reading at the first of the alternatives that repeat it
      by_cases first_fresh : (first.group.names ++ reading.names).Nodup
      · rw [if_pos first_fresh, Reading.run_step (by simp [Reading.adding, unset])]
        have split (reading : Reading) (rest : List Char) : reading.step '|' rest
            = some ({ reading with here := reading.here.split }, rest) := rfl
        rw [split, Option.bind_some]
        refine (behind _ more fuel (by simp [Reading.adding, unset]) first_fresh rfl rfl).trans
          (if_congr (by rw [all_names]; rfl) ?_ rfl)
        simp [Reading.adding, Branches.split, Branches.current, allNames, branches, fresh, flat, group]
      · rw [if_neg first_fresh, if_neg]
        intro all
        rw [all_names] at all
        exact first_fresh all.of_append_right

/-- An alternation of fragments between the two ends of the text. -/
def merged (fragments : List Fragment) : Expr :=
  Branches.sequence [some (.assertion .textEnd), some (branches [] [] fragments).whole,
    some (.assertion .textStart)]

def mergedDepth (fragments : List Fragment) : Nat :=
  level [0, (branches [] [] fragments).depth + 1, 0]

theorem ofText?_merged {fragments : List Fragment} (filled : fragments ≠ []) :
    Reading.ofText? ("^(?:".toList ++ joined fragments ++ ")$".toList)
      = if (allNames fragments).Nodup then
          some { here.items := [some (.assertion .textEnd), some (branches [] [] fragments).whole,
                    some (.assertion .textStart)]
                 here.depths := [0, (branches [] [] fragments).depth + 1, 0]
                 names := allNames fragments }
        else none := by
  obtain ⟨steps, bound, inside⟩ := joined_reads filled
  have shape : "^(?:".toList ++ joined fragments ++ ")$".toList
      = '^' :: '(' :: '?' :: ':' :: (joined fragments ++ [')', '$']) := rfl
  have fuel : ('^' :: '(' :: '?' :: ':' :: (joined fragments ++ [')', '$'])).length + 1
      = steps + ((joined fragments).length - steps + 2 + 1 + 1 + 1) + 1 + 1 := by
    simp
    omega
  rw [shape, Reading.ofText?, fuel, Reading.run_step rfl, Reading.step_start rfl, Option.bind_some]
  dsimp only
  rw [Reading.run_step rfl, Reading.step_plain rfl, Option.bind_some]
  dsimp only
  rw [inside _ ['$'] _ rfl List.nodup_nil rfl rfl]
  change (if (allNames fragments ++ []).Nodup then _ else _ : Option Reading).filter _ = _
  rw [List.append_nil]
  by_cases distinct : (allNames fragments).Nodup
  -- closing the group leaves the condition on the end to be read
  · rw [if_pos distinct, if_pos distinct, Reading.run_step rfl]
    have close (reading : Reading) (rest : List Char) : reading.step ')' rest
        = reading.leave?.map fun reading => (reading, rest) := rfl
    rw [close]
    simp only [Reading.leave?, Reading.enter, Option.map_some, Option.bind_some]
    rw [Reading.run_step rfl, Reading.step_stop rfl, Option.bind_some]
    simp [Reading.run, Reading.add, Branches.add, Opening.wrap]
  · rw [if_neg distinct, if_neg distinct]
    rfl

theorem read_merged {fragments : List Fragment} (filled : fragments ≠ []) :
    Expr.read? ("^(?:".toList ++ joined fragments ++ ")$".toList)
      = if (allNames fragments).Nodup ∧ mergedDepth fragments ≤ Expr.nestLimit then
          some (merged fragments) else none :=
  (read?_of_ite (ofText?_merged filled)).trans (if_congr Iff.rfl rfl rfl)

end Fragment

end Signpost.Regex
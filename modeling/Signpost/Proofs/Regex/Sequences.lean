import Signpost.Proofs.Regex.Spans

/-!
# Runs through sequences

Which ends the runs of a sequence have, and what they mark on the way. A list of runs keeps one run to
each end, so what has been marked is not the same for all ways to an end; but every run that is kept is
one of the ways, and to every end there is some run. For classes that are repeated in a group of their
own, that the reader of a text may leave out or not, the marks of a run say how it cuts the text.
-/
namespace Signpost.Regex

variable {text : Array Char} {runs : List MatchRun} {stop : Nat}

/-! ### Kept runs -/

/-- Some run ends at a position. -/
def EndsAt (stop : Nat) (runs : List MatchRun) : Prop := ∃ marks, (stop, marks) ∈ runs

theorem endsAt_iff : EndsAt stop runs ↔ (firstTo stop runs).isSome := by
  rw [firstTo, Option.isSome_map, List.find?_isSome]
  constructor
  · rintro ⟨marks, member⟩
    exact ⟨_, member, beq_self_eq_true stop⟩
  · rintro ⟨run, member, same⟩
    exact ⟨run.2, beq_iff_eq.mp same ▸ member⟩

theorem endsAt_keepFirst : EndsAt stop (keepFirst 0 runs) ↔ EndsAt stop runs := by
  rw [endsAt_iff, endsAt_iff, firstTo_keepFirst (Nat.zero_testBit _)]

theorem mem_of_firstTo {marks : Marks} (first : firstTo stop runs = some marks) :
    (stop, marks) ∈ runs := by
  obtain ⟨run, found, rfl⟩ := Option.map_eq_some_iff.mp first
  have same : run.1 = stop := by simpa using List.find?_some found
  exact same ▸ List.mem_of_find?_eq_some found

/-- A run that goes on from others is one of them with what comes behind its end. -/
theorem mem_extend {next : Nat → List MatchRun} {run : MatchRun} (member : run ∈ extend runs next) :
    ∃ first ∈ runs, ∃ second ∈ next first.1, run = (second.1, second.2 ++ first.2) := by
  obtain ⟨first, inside, going⟩ := List.mem_flatMap.mp ((keepFirst_sublist 0 _).subset member)
  obtain ⟨second, behind, rfl⟩ := List.mem_map.mp going
  exact ⟨first, inside, second, behind, rfl⟩

theorem endsAt_extend {next : Nat → List MatchRun} {middle : Nat} (first : EndsAt middle runs)
    (second : EndsAt stop (next middle)) : EndsAt stop (extend runs next) := by
  obtain ⟨marks, member⟩ := first
  obtain ⟨more, behind⟩ := second
  exact endsAt_keepFirst.mpr ⟨more ++ marks,
    List.mem_flatMap.mpr ⟨_, member, List.mem_map.mpr ⟨_, behind, rfl⟩⟩⟩

/-! ### Items -/

namespace Branches

variable {items : List (Option Expr)} {item : Expr} {next start : Nat}

/-- A run behind an item comes from a run before it. -/
theorem mem_sequence {run : MatchRun}
    (member : run ∈ ((sequence (some item :: items)).table text next).runs start) :
    ∃ first ∈ ((sequence items).table text next).runs start,
      ∃ second ∈ (item.table text (next + (sequence items).groups)).runs first.1,
        run = (second.1, second.2 ++ first.2) := by
  change run ∈ (((sequence items).seq item).table text next).runs start at member
  rw [Expr.runs_seq] at member
  split at member
  · exact mem_extend member
  · cases member

theorem endsAt_sequence {middle : Nat} (inside : start ≤ text.size)
    (first : EndsAt middle (((sequence items).table text next).runs start))
    (second : EndsAt stop ((item.table text (next + (sequence items).groups)).runs middle)) :
    EndsAt stop (((sequence (some item :: items)).table text next).runs start) := by
  change EndsAt stop ((((sequence items).seq item).table text next).runs start)
  rw [Expr.runs_seq, if_pos inside]
  exact endsAt_extend first second

/-- A sequence of one item runs as the item. -/
theorem mem_sequence_single {run : MatchRun}
    (member : run ∈ ((sequence [some item]).table text next).runs start) :
    run ∈ (item.table text next).runs start := by
  obtain ⟨first, empty, second, behind, rfl⟩ := mem_sequence member
  rw [show sequence [] = .empty from rfl, Expr.runs_empty] at empty
  split at empty
  · rw [List.mem_singleton.mp empty] at behind ⊢
    rwa [List.append_nil]
  · cases empty

end Branches

/-! ### Literal text -/

theorem char_of_present {position : Nat} {c : Char}
    (present : Assertion.present (.single c) text position) : text[position]? = some c := by
  cases there : text[position]? with
  | none => simp [Assertion.present, there] at present
  | some other =>
    have same : c.toNat = other.toNat := by
      simpa [Assertion.present, there, CharClass.single, CharClass.contains, Nat.le_antisymm_iff]
        using present
    rw [Char.toNat_inj.mp same]

/-- A text stands behind another where all of its characters do. -/
theorem stands_behind_iff {before chars rest : List Char} :
    (∀ index < chars.length, (before ++ rest).toArray[before.length + index]? = chars[index]?) ↔
      ∃ after, rest = chars ++ after := by
  have behind (index : Nat) : (before ++ rest).toArray[before.length + index]? = rest[index]? := by
    rw [List.getElem?_toArray, List.getElem?_append_right (Nat.le_add_right _ _),
      Nat.add_sub_cancel_left]
  simp only [behind]
  constructor
  · intro there
    have shown : chars <+: rest := List.prefix_iff_getElem?.mpr fun index short => by
      rw [there index short, List.getElem?_eq_getElem short]
    obtain ⟨after, rfl⟩ := shown
    exact ⟨after, rfl⟩
  · rintro ⟨after, rfl⟩ index short
    exact List.getElem?_append_left short

namespace Fragment

/-- Behind literal text, a run has passed over it. -/
theorem mem_literal {chars : List Char} {items : List (Option Expr)} {next : Nat} {run : MatchRun}
    (member : run ∈
      ((Branches.sequence ((literal chars).items ++ items)).table text next).runs 0) :
    ∃ start, run.1 = start + chars.length ∧
      (∀ index < chars.length, text[start + index]? = chars[index]?) ∧
      (start, run.2) ∈ ((Branches.sequence items).table text next).runs 0 := by
  induction chars generalizing items with
  | nil => exact ⟨run.1, rfl, by simp, member⟩
  | cons c rest ih =>
    rw [literal_cons_items, List.append_assoc] at member
    -- the rest of the text is matched last, so what has been read before it ends with the first
    -- character
    obtain ⟨behind, length, there, inside⟩ := ih member
    obtain ⟨first, before, second, single, equal⟩ := Branches.mem_sequence inside
    rw [Expr.runs_chars] at single
    split at single
    next present =>
      rw [List.mem_singleton.mp single] at equal
      obtain ⟨rfl, marks⟩ := Prod.mk.inj equal
      rw [marks]
      refine ⟨first.1, ?_, ?_, before⟩
      · rw [length, List.length_cons]
        omega
      · intro index small
        cases index with
        | zero => exact char_of_present present
        | succ index =>
          rw [← Nat.add_assoc, Nat.add_right_comm]
          exact there index (Nat.lt_of_succ_lt_succ small)
    next => cases single

end Fragment

/-! ### Placeholders -/

theorem slice_around (before value after : List Char) :
    slice (String.ofList (before ++ value ++ after)) (before.length, before.length + value.length)
      = String.ofList value := by
  simp [slice, List.append_assoc]

/-- Where characters of a class are all there is up to an end, they make a value. -/
theorem value_between {set : CharClass} {before rest : List Char} (later : before.length ≤ stop)
    (all : ∀ position, before.length ≤ position → position < stop →
      Assertion.present set (before ++ rest).toArray position) :
    ∃ value after, rest = value ++ after ∧ stop = before.length + value.length ∧
      ∀ c ∈ value, set.contains c.toNat := by
  obtain ⟨length, rfl⟩ := Nat.exists_eq_add_of_le later
  have there (index : Nat) (short : index < length) :
      ∃ c, rest[index]? = some c ∧ set.contains c.toNat := by
    have present := all (before.length + index) (by omega) (by omega)
    rw [Assertion.present, List.getElem?_toArray, List.getElem?_append_right (by omega),
      Nat.add_sub_cancel_left, Option.any_eq_true] at present
    exact present
  have long : length ≤ rest.length := by
    by_contra short
    obtain ⟨c, found, -⟩ := there rest.length (by omega)
    rw [List.getElem?_eq_none (Nat.le_refl _)] at found
    cases found
  refine ⟨rest.take length, rest.drop length, (List.take_append_drop length rest).symm, ?_, ?_⟩
  · rw [List.length_take, Nat.min_eq_left long]
  · intro c member
    obtain ⟨index, short, rfl⟩ := List.mem_iff_getElem.mp member
    rw [List.length_take] at short
    obtain ⟨other, found, contains⟩ := there index (by omega)
    rw [List.getElem?_eq_getElem (by omega)] at found
    rw [List.getElem_take, Option.some.inj found]
    exact contains

namespace Expr

variable {set : CharClass} {next start : Nat} {run : MatchRun}

/-- A class that is repeated, in a group of its own. -/
def slot (set : CharClass) : Expr :=
  .group none (Branches.sequence [some (Branches.sequence [some (.repeated (.chars set) 1 none true)])])

theorem table_loop : (repeated (.chars set) 1 none true).table text next
    = Table.loop text.size ((chars set).table text next) true := rfl

/-- A loop over a class ends behind characters of the class and marks nothing. -/
theorem mem_loop
    (member : run ∈ ((repeated (.chars set) 1 none true).table text next).runs start) :
    run.2 = [] ∧ start < run.1 ∧ ∀ position, start ≤ position → position < run.1 →
      Assertion.present set text position := by
  constructor
  · have unmarked : run.2.Within fun _ => False :=
      runs_within (fun capture inside => by simp [captures] at inside) start run member
    exact List.eq_nil_iff_forall_not_mem.mpr unmarked
  · have ends : EndsAt run.1 _ := ⟨run.2, member⟩
    rw [endsAt_iff, table_loop, firstTo_loop] at ends
    split at ends
    next all => exact all
    next => cases ends

/-- A placeholder marks the characters that it has taken. -/
theorem mem_slot (member : run ∈ ((slot set).table text next).runs start) :
    run.2 = [(next, start, run.1)] ∧ start < run.1 ∧
      ∀ position, start ≤ position → position < run.1 → Assertion.present set text position := by
  rw [slot, runs_group] at member
  split at member
  · obtain ⟨inner, inside, rfl⟩ := List.mem_map.mp member
    obtain ⟨unmarked, taken⟩ :=
      mem_loop (Branches.mem_sequence_single (Branches.mem_sequence_single inside))
    exact ⟨by rw [unmarked], taken⟩
  · cases member

theorem endsAt_slot (inside : start ≤ text.size) (some_ : start < stop)
    (all : ∀ position, start ≤ position → position < stop →
      Assertion.present set text position) :
    EndsAt stop (((slot set).table text next).runs start) := by
  rw [slot, runs_group, if_pos inside]
  have ends : EndsAt stop (((Branches.sequence [some (Branches.sequence
      [some (.repeated (.chars set) 1 none true)])]).table text (next + 1)).runs start) := by
    rw [endsAt_iff, Branches.firstTo_single _ inside, Branches.firstTo_single _ inside, table_loop,
      firstTo_loop, if_pos ⟨some_, all⟩]
    rfl
  obtain ⟨marks, member⟩ := ends
  exact ⟨_, List.mem_map_of_mem member⟩

/-- What may be missing is tried once and left out otherwise. -/
theorem runs_optional {body : Expr} (taking : body.takesNothing = false)
    (inside : start ≤ text.size) :
    ((repeated body 0 (some 1) true).table text next).runs start
      = keepFirst 0 (keepFirst 0 (extend ((body.table text next).runs start)
          (Table.nothing text.size).runs ++ [(start, [])])) := by
  have table : (repeated body 0 (some 1) true).table text next
      = Table.andThen text.size (Table.nothing text.size)
          (Table.atMost text.size (body.table text next) true 1) := by
    simp [Expr.table, taking, Table.repeated, Table.exactly]
  rw [table, Table.andThen, Table.runs_build, if_pos inside, Table.nothing, Table.runs_build,
    if_pos inside, extend_single, Table.atMost, Table.runs_build, if_pos inside]
  rfl

theorem runs_nothing (start : Nat) :
    (Table.nothing text.size).runs start = if start ≤ text.size then [(start, [])] else [] :=
  Table.runs_build _ _ _

theorem mem_optional {body : Expr} (taking : body.takesNothing = false)
    (inside : start ≤ text.size)
    (member : run ∈ ((repeated body 0 (some 1) true).table text next).runs start) :
    run = (start, []) ∨ run ∈ (body.table text next).runs start := by
  rw [runs_optional taking inside] at member
  have among := (keepFirst_sublist 0 _).subset ((keepFirst_sublist 0 _).subset member)
  rcases List.mem_append.mp among with taken | skipped
  · obtain ⟨first, own, second, still, rfl⟩ := mem_extend taken
    rw [runs_nothing] at still
    split at still
    · rw [List.mem_singleton.mp still]
      exact .inr own
    · cases still
  · exact .inl (List.mem_singleton.mp skipped)

theorem endsAt_optional {body : Expr} (taking : body.takesNothing = false)
    (inside : start ≤ text.size) (last : stop ≤ text.size)
    (ends : stop = start ∨ EndsAt stop ((body.table text next).runs start)) :
    EndsAt stop (((repeated body 0 (some 1) true).table text next).runs start) := by
  rw [runs_optional taking inside, endsAt_keepFirst, endsAt_keepFirst]
  rcases ends with rfl | taken
  · exact ⟨[], List.mem_append_right _ (List.mem_singleton_self _)⟩
  · have still : EndsAt stop ((Table.nothing text.size).runs stop) := by
      rw [runs_nothing, if_pos last]
      exact ⟨[], List.mem_singleton_self _⟩
    obtain ⟨marks, member⟩ := endsAt_extend taken still
    exact ⟨marks, List.mem_append_left _ member⟩

end Expr

end Signpost.Regex

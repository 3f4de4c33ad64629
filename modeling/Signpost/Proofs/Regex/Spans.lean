import Signpost.Proofs.Regex.Alternation

/-!
# Spans of whole matches

Literal text, a group around one class that is repeated, and literal text again match a whole text in
one way at most, since the ends of the group are as far from the ends of the text as the literals are
long.
-/
namespace Signpost.Regex

variable {text : Array Char} {set : CharClass} {next : Nat}

/-! ### Single characters -/

theorem Expr.runs_chars (set : CharClass) (next start : Nat) :
    ((Expr.chars set).table text next).runs start
      = if Assertion.present set text start then [(start + 1, [])] else [] := by
  rw [table, Table.runs_build]
  by_cases inside : start ≤ text.size
  · rw [if_pos inside]
  · have missing : text[start]? = none := Array.getElem?_eq_none (by omega)
    simp [inside, Assertion.present, missing]

theorem present_single {position : Nat} {c : Char} (there : text[position]? = some c) :
    Assertion.present (.single c) text position = true := by
  simp [Assertion.present, there, CharClass.single, CharClass.contains]

/-- Behind a character of its class a run has ended just before it. -/
theorem firstTo_extend_chars {stop : Nat} (present : Assertion.present set text stop = true)
    (runs : List MatchRun) :
    firstTo (stop + 1) (extend runs ((Expr.chars set).table text next).runs) = firstTo stop runs := by
  rw [extend, firstTo_keepFirst (Nat.zero_testBit _)]
  induction runs with
  | nil => rfl
  | cons run rest ih =>
    obtain ⟨last, marks⟩ := run
    rw [List.flatMap_cons, firstTo_append, ih, firstTo_cons]
    dsimp only
    rw [Expr.runs_chars]
    by_cases here : last = stop
    · simp [here, present, firstTo_cons]
    · rw [if_neg here]
      split
      · simp [firstTo, here]
      · rfl

theorem Expr.runs_group (name : Option String) (body : Expr) (next start : Nat) :
    ((Expr.group name body).table text next).runs start
      = if start ≤ text.size then
          ((body.table text (next + 1)).runs start).map fun run =>
            (run.1, (next, start, run.1) :: run.2)
        else [] := by
  rw [table]
  exact Table.runs_build _ _ _

theorem Expr.runs_empty (next start : Nat) :
    (Expr.empty.table text next).runs start = if start ≤ text.size then [(start, [])] else [] :=
  Table.runs_build _ _ _

/-! ### Literal text -/

namespace Fragment

theorem literal_cons_items (c : Char) (rest : List Char) :
    (literal (c :: rest)).items = (literal rest).items ++ [some (.chars (.single c))] := by
  rw [literal]
  split <;> rfl

/-- Text that stands somewhere has its first character there, and the rest behind it. -/
theorem uncons_there {c : Char} {rest : List Char} {start : Nat}
    (there : ∀ index < (c :: rest).length, text[start + index]? = (c :: rest)[index]?) :
    text[start]? = some c ∧ ∀ index < rest.length, text[start + 1 + index]? = rest[index]? := by
  constructor
  · exact there 0 (Nat.zero_lt_succ _)
  · intro index inside
    rw [Nat.add_assoc, Nat.add_comm 1]
    exact there (index + 1) (Nat.succ_lt_succ inside)

/-- A run behind literal text has ended before it. -/
theorem firstTo_literal {chars : List Char} {items : List (Option Expr)} {stop : Nat}
    (there : ∀ index < chars.length, text[stop + index]? = chars[index]?) :
    firstTo (stop + chars.length)
        (((Branches.sequence ((literal chars).items ++ items)).table text next).runs 0)
      = firstTo stop (((Branches.sequence items).table text next).runs 0) := by
  induction chars generalizing items stop with
  | nil => rfl
  | cons c rest ih =>
    -- the first character belongs to what stands before the rest
    obtain ⟨here, behind⟩ := uncons_there there
    rw [literal_cons_items, List.append_assoc, List.length_cons, Nat.add_comm rest.length,
      ← Nat.add_assoc, ih behind]
    change firstTo (stop + 1) ((((Branches.sequence items).seq _).table text next).runs 0) = _
    rw [Expr.runs_seq, if_pos (Nat.zero_le _), firstTo_extend_chars (present_single here)]

/-- Literal text at the start of a text has a single run. -/
theorem runs_literal {chars : List Char} {items : List (Option Expr)} {start : Nat}
    (before : ((Branches.sequence items).table text next).runs 0 = [(start, [])])
    (there : ∀ index < chars.length, text[start + index]? = chars[index]?) :
    ((Branches.sequence ((literal chars).items ++ items)).table text next).runs 0
      = [(start + chars.length, [])] := by
  induction chars generalizing items start with
  | nil => exact before
  | cons c rest ih =>
    obtain ⟨here, behind⟩ := uncons_there there
    rw [literal_cons_items, List.append_assoc, List.length_cons, Nat.add_comm rest.length,
      ← Nat.add_assoc]
    refine ih ?_ behind
    change (((Branches.sequence items).seq _).table text next).runs 0 = _
    rw [Expr.runs_seq, if_pos (Nat.zero_le _), before, extend_single, Expr.runs_chars,
      if_pos (present_single here)]
    simp [keepFirst]

end Fragment

/-! ### Repeated classes -/

namespace Table

variable {size : Nat} {body : Table} {greedy : Bool}

theorem drop_loopTail (count dropped : Nat) :
    (loopTail size body greedy (count + dropped)).drop dropped
      = loopTail size body greedy count := by
  induction dropped with
  | zero => rfl
  | succ dropped ih => rw [← Nat.add_assoc, loopTail, List.drop_succ_cons, ih]

theorem runs_loopTail {start : Nat} (inside : start ≤ size) (index : Nat) :
    runs (loopTail size body greedy (size - start)).toArray index
      = (loop size body greedy).runs (start + 1 + index) := by
  have entries : size + 1 = size - start + (start + 1) := by omega
  rw [loop, runs, runs, List.getElem?_toArray, List.getElem?_toArray,
    ← drop_loopTail (size - start) (start + 1), ← entries, List.getElem?_drop]

/-- An iteration of a loop ends it or is followed by the loop from where it has ended. -/
theorem runs_loop (start : Nat) :
    (loop size body greedy).runs start
      = if start ≤ size then
          keepFirst 0 ((body.runs start).flatMap fun run =>
            let again := if start < run.1 then
                ((loop size body greedy).runs run.1).map fun next => (next.1, next.2 ++ run.2)
              else []
            if greedy then again ++ [run] else run :: again)
        else [] := by
  split
  next inside =>
    -- The table of the loop holds its entries from the last position down, each made from the ones
    -- behind it.
    have entry : (loop size body greedy).runs start
        = loopEntry body greedy start (loopTail size body greedy (size - start)) := by
      have entries : size - start + 1 + start = size + 1 := by omega
      have own : (loopTail size body greedy (size + 1))[start]? = some (Thunk.mk fun _ =>
          loopEntry body greedy (size - (size - start))
            (loopTail size body greedy (size - start))) := by
        rw [← List.head?_drop, ← entries, drop_loopTail]
        rfl
      rw [Nat.sub_sub_self inside] at own
      rw [loop, runs, List.getElem?_toArray, own]
      rfl
    rw [entry, loopEntry_eq]
    refine congrArg (keepFirst 0) (List.flatMap_congr fun run _ => ?_)
    by_cases further : start < run.1
    · have place : start + 1 + (run.1 - start - 1) = run.1 := by omega
      simp only [if_pos further, runs_loopTail inside, place]
    · simp only [if_neg further]
  next outside =>
    have missing : (loopTail size body greedy (size + 1))[start]? = none := by
      have length (count : Nat) : (loopTail size body greedy count).length = count := by
        induction count with
        | zero => rfl
        | succ count ih => rw [loopTail, List.length_cons, ih]
      rw [List.getElem?_eq_none_iff, length]
      omega
    rw [loop, runs, List.getElem?_toArray, missing]

end Table

/-- A value of characters of a class has them wherever it stands. -/
theorem present_between {before value after : List Char}
    (admitted : ∀ c ∈ value, set.contains c.toNat) :
    ∀ position, before.length ≤ position → position < before.length + value.length →
      Assertion.present set (before ++ value ++ after).toArray position := by
  intro position from_ behind
  obtain ⟨index, rfl⟩ := Nat.exists_eq_add_of_le from_
  have short : index < value.length := by omega
  have there : (before ++ value ++ after).toArray[before.length + index]? = some value[index] := by
    rw [List.getElem?_toArray, List.append_assoc, List.getElem?_append_right (by omega),
      Nat.add_sub_cancel_left, List.getElem?_append_left short, List.getElem?_eq_getElem short]
  rw [Assertion.present, there]
  exact admitted _ (List.getElem_mem short)

/-- All characters up to an end are those behind the first, unless the first is the last. -/
theorem present_from_iff {start stop : Nat} (present : Assertion.present set text start) :
    (start < stop ∧ ∀ position, start ≤ position → position < stop →
        Assertion.present set text position) ↔
      (start + 1 < stop ∧ ∀ position, start + 1 ≤ position → position < stop →
        Assertion.present set text position) ∨ start + 1 = stop := by
  constructor
  · rintro ⟨later, all⟩
    rcases Nat.eq_or_lt_of_le (Nat.succ_le_of_lt later) with last | further
    · exact .inr last
    · exact .inl ⟨further, fun position behind => all position (by omega)⟩
  · rintro (⟨further, all⟩ | rfl)
    · refine ⟨by omega, fun position from_ => ?_⟩
      rcases Nat.eq_or_lt_of_le from_ with rfl | behind
      · exact fun _ => present
      · exact all position behind
    · refine ⟨Nat.lt_succ_self start, fun position from_ before => ?_⟩
      rwa [Nat.le_antisymm (Nat.le_of_lt_succ before) from_]

/-- A repeated class can end behind every character up to which all belong to it. -/
theorem firstTo_loop (set : CharClass) (next start stop : Nat) :
    firstTo stop ((Table.loop text.size ((Expr.chars set).table text next) true).runs start)
      = if start < stop ∧ ∀ position, start ≤ position → position < stop →
            Assertion.present set text position then some []
        else none := by
  -- the loop goes on from the next position, so the induction is on what is left of the text
  induction left : text.size + 1 - start generalizing start with
  | zero =>
    have beyond : text[start]? = none := Array.getElem?_eq_none (by omega)
    have absent : Assertion.present set text start = false := by simp [Assertion.present, beyond]
    rw [Table.runs_loop, if_neg (by omega), if_neg]
    · rfl
    · rintro ⟨later, all⟩
      rw [all start (Nat.le_refl _) later] at absent
      cases absent
  | succ left ih =>
    rw [Table.runs_loop, if_pos (by omega), firstTo_keepFirst (Nat.zero_testBit _), Expr.runs_chars]
    by_cases present : Assertion.present set text start
    · have behind := ih (start + 1) (by omega)
      simp only [if_pos present, List.flatMap_cons, List.flatMap_nil, List.append_nil,
        Nat.lt_succ_self, if_true, List.map_id_fun', id_eq]
      rw [firstTo_append, behind, firstTo_cons, if_congr (present_from_iff present) rfl rfl]
      dsimp only
      by_cases further : start + 1 < stop ∧ ∀ position, start + 1 ≤ position → position < stop →
          Assertion.present set text position
      · rw [if_pos further, if_pos (Or.inl further)]
        rfl
      · rw [if_neg further, if_congr (or_iff_right further) rfl rfl]
        rfl
    · rw [if_neg present, if_neg]
      · rfl
      · rintro ⟨later, all⟩
        exact present (all start (Nat.le_refl _) later)

/-! ### Around a group -/

theorem Branches.firstTo_single (item : Expr) {start : Nat} (inside : start ≤ text.size)
    (next stop : Nat) :
    firstTo stop (((Branches.sequence [some item]).table text next).runs start)
      = firstTo stop ((item.table text next).runs start) := by
  change firstTo stop (((Expr.empty.seq item).table text next).runs start) = _
  rw [Expr.runs_seq, if_pos inside, Expr.runs_empty, if_pos inside, extend_single,
    firstTo_keepFirst (Nat.zero_testBit _)]
  rfl

namespace Fragment

/-- The ends of a group between two literals are fixed by the literals. -/
theorem matchWhole_between {own : Fragment} {body : Expr}
    (items : own.items = [some (.group none body)]) {before after : List Char} {stop : Nat}
    (size : text.size = stop + after.length) (ordered : before.length ≤ stop)
    (front : ∀ index < before.length, text[0 + index]? = before[index]?)
    (back : ∀ index < after.length, text[stop + index]? = after[index]?) :
    ((literal before).append (own.append (literal after))).matchWhole text
      = (firstTo stop ((body.table text 2).runs before.length)).map fun marks =>
          (1, before.length, stop) :: marks := by
  have early : ((Branches.sequence (literal before).items).table text 1).runs 0
      = [(before.length, [])] := by
    have whole := @runs_literal _ _ before [] 0 (Expr.runs_empty 1 0) front
    rwa [List.append_nil, Nat.zero_add] at whole
  have groups : (Branches.sequence (literal before).items).groups = 0 := literal_groups before
  rw [matchWhole, Expr.matchTo, size]
  change firstTo _ (((Branches.sequence
    ((literal after).items ++ own.items ++ (literal before).items)).table text 1).runs 0) = _
  rw [List.append_assoc, firstTo_literal back, items]
  change firstTo stop
    ((((Branches.sequence (literal before).items).seq _).table text 1).runs 0) = _
  rw [Expr.runs_seq, if_pos (Nat.zero_le _), early, extend_single,
    firstTo_keepFirst (Nat.zero_testBit _), groups, Expr.runs_group, if_pos (by omega)]
  exact firstTo_map (fun last marks => (1, before.length, last) :: marks) _

/-- Literal text around a group of a repeated class leaves the group what is between it. -/
theorem matchWhole_around {own : Fragment} {loop : Expr}
    (repeats : loop = .repeated (.chars set) 1 none true)
    (items : own.items = [some (.group none (Branches.sequence [some (Branches.sequence [some loop])]))])
    (before after : List Char) {value : List Char} (filled : value ≠ [])
    (admitted : ∀ c ∈ value, set.contains c.toNat) :
    ((literal before).append (own.append (literal after))).matchWhole
        (before ++ value ++ after).toArray
      = some [(1, before.length, before.length + value.length)] := by
  have long : 0 < value.length := List.length_pos_of_ne_nil filled
  have size : (before ++ value ++ after).toArray.size
      = before.length + value.length + after.length := by simp [Nat.add_assoc]
  -- Three pieces follow each other: the loop can end behind the value, and both texts stand where
  -- they must.
  have ends : firstTo (before.length + value.length)
      ((loop.table (before ++ value ++ after).toArray 2).runs before.length) = some [] := by
    rw [repeats]
    exact (firstTo_loop set 2 _ _).trans (if_pos ⟨by omega, present_between admitted⟩)
  have front : ∀ index < before.length,
      (before ++ value ++ after).toArray[0 + index]? = before[index]? := by
    intro index inside
    simp [List.append_assoc, List.getElem?_append_left inside]
  have back : ∀ index < after.length,
      (before ++ value ++ after).toArray[before.length + value.length + index]? = after[index]? := by
    intro index _
    rw [List.getElem?_toArray, List.getElem?_append_right (by simp)]
    simp
  rw [matchWhole_between items size (by omega) front back, Branches.firstTo_single _ (by omega),
    Branches.firstTo_single _ (by omega), ends]
  rfl

end Fragment

end Signpost.Regex

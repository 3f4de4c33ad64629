import Mathlib.Data.List.Nodup
import Mathlib.Data.List.Perm.Basic

/-!
# Moved elements

Elements of one sort are moved to other positions in a list, and the others keep their order. What the
elements are made into one by one is moved along with them. A reader that passes over the elements of
that sort does not notice, and neither does a search for an element by a key that no two of them have.
-/
namespace Signpost

/-- The elements of one sort have been moved to other positions. -/
structure Moved {α : Type} (moves : α → Bool) (before after : List α) : Prop where
  still : (after.filter fun element => !moves element)
    = before.filter fun element => !moves element
  movers : (after.filter moves).Perm (before.filter moves)

/-- Where no key occurs twice, elements in another order are found by their keys as before. -/
theorem find?_perm {α β : Type} [DecidableEq β] {key : α → Option β} {before after : List α}
    (perm : after.Perm before) (distinct : (before.filterMap key).Nodup) (value : β) :
    (after.find? fun element => key element == some value)
      = before.find? fun element => key element == some value := by
  -- at most one element has the key, so the two searches cannot find different ones
  have alone : (before.filter fun element => key element == some value).length ≤ 1 := by
    have once := List.nodup_iff_count_le_one.mp distinct value
    rw [List.count, List.countP_filterMap] at once
    rw [← List.countP_eq_length_filter]
    apply Nat.le_trans (List.countP_mono_left _) once
    intro element _ found
    simp [beq_iff_eq.mp found]
  have same := perm.filter fun element => key element == some value
  rw [← List.head?_filter, ← List.head?_filter]
  match filtered : before.filter fun element => key element == some value, alone with
  | [], _ =>
    rw [filtered] at same
    rw [same.eq_nil]
  | [element], _ =>
    rw [filtered] at same
    rw [List.perm_singleton.mp same]

namespace Moved

variable {α β : Type} {moves : α → Bool} {moves' : β → Bool} {before after : List α}

theorem refl (moves : α → Bool) (elements : List α) : Moved moves elements elements :=
  ⟨rfl, .refl _⟩

theorem append {first first' rest rest' : List α} (early : Moved moves first first')
    (late : Moved moves rest rest') : Moved moves (first ++ rest) (first' ++ rest') := by
  constructor
  · rw [List.filter_append, List.filter_append, early.still, late.still]
  · rw [List.filter_append, List.filter_append]
    exact early.movers.append late.movers

/-- What is moved in a part of a list is moved in the whole list. -/
theorem frame (moved : Moved moves before after) (front back : List α) :
    Moved moves (front ++ before ++ back) (front ++ after ++ back) :=
  ((refl moves front).append moved).append (refl moves back)

theorem perm (moved : Moved moves before after) : after.Perm before := by
  have split := List.filter_append_perm moves after
  rw [moved.still] at split
  exact split.symm.trans
    ((moved.movers.append_right _).trans (List.filter_append_perm moves before))

/-- Only the elements of the sort can have moved. -/
theorem eq_of_still (moved : Moved moves before after)
    (stays : ∀ element ∈ before, moves element = false) : after = before := by
  have stays' : ∀ element ∈ after, moves element = false := fun element member =>
    stays element (moved.perm.mem_iff.mp member)
  have all := moved.still
  rwa [List.filter_eq_self.mpr (by simpa using stays'), List.filter_eq_self.mpr (by simpa using stays)]
    at all

theorem map {change : α → β} (kept : ∀ element, moves' (change element) = moves element)
    (moved : Moved moves before after) : Moved moves' (before.map change) (after.map change) := by
  constructor
  · simp only [List.filter_map, Function.comp_def, kept, moved.still]
  · simp only [List.filter_map, Function.comp_def, kept]
    exact moved.movers.map change

/-! ### Readers -/

theorem filter_eq (moved : Moved moves before after) {holds : α → Bool}
    (passed : ∀ element, moves element = true → holds element = false) :
    after.filter holds = before.filter holds := by
  have both : holds = fun element => holds element && !moves element := by
    funext element
    cases sort : moves element <;> simp [passed element, sort]
  rw [both, ← List.filter_filter, ← List.filter_filter, moved.still]

/-- If elements of the sort are made into elements of another sort only, these are moved with them. -/
theorem flatMap {parts : α → List β}
    (within : ∀ element, moves element = true → ∀ part ∈ parts element, moves' part = true)
    (moved : Moved moves before after) :
    Moved moves' (before.flatMap parts) (after.flatMap parts) := by
  have apart (elements : List α) : (elements.flatMap parts).filter (fun part => !moves' part)
      = (elements.filter fun element => !moves element).flatMap
          fun element => (parts element).filter fun part => !moves' part := by
    induction elements with
    | nil => rfl
    | cons element rest ih =>
      rw [List.flatMap_cons, List.filter_append, ih]
      cases sort : moves element with
      | true =>
        have gone : (parts element).filter (fun part => !moves' part) = [] := by
          simpa [List.filter_eq_nil_iff] using within element sort
        simp [sort, gone]
      | false => simp [sort]
  constructor
  · rw [apart, apart, moved.still]
  · exact (moved.perm.flatMap_right parts).filter moves'

theorem flatMap_eq (moved : Moved moves before after) {parts : α → List β}
    (nothing : ∀ element, moves element = true → parts element = []) :
    after.flatMap parts = before.flatMap parts := by
  have all : Moved (fun _ => false) (before.flatMap parts) (after.flatMap parts) := by
    apply moved.flatMap
    intro element sort part member
    rw [nothing element sort] at member
    cases member
  exact all.eq_of_still fun _ _ => rfl

theorem filterMap_eq (moved : Moved moves before after) {read : α → Option β}
    (passed : ∀ element, moves element = true → read element = none) :
    after.filterMap read = before.filterMap read := by
  rw [List.filterMap_eq_flatMap_toList, List.filterMap_eq_flatMap_toList]
  exact moved.flatMap_eq fun element sort => by simp [passed element sort]

theorem find?_eq (moved : Moved moves before after) {holds : α → Bool}
    (passed : ∀ element, moves element = true → holds element = false) :
    after.find? holds = before.find? holds := by
  rw [← List.head?_filter, ← List.head?_filter, moved.filter_eq passed]

end Moved

end Signpost

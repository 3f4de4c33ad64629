import Signpost.Machine
import Signpost.Program.Batch
import Signpost.Proofs.Success

/-!
# Marks of merged patterns

Marks only number the branches of a program. Merging the same patterns with other marks gives groups
that select alike.
-/
namespace Signpost.Batch

def BranchSlot.unmarked (branch : BranchSlot) : BranchSlot := { branch with mark := 0 }

def BatchGroup.unmarked (group : BatchGroup) : BatchGroup :=
  { group with branches := group.branches.map BranchSlot.unmarked }

def Pending.unmarked (pending : Pending) : Pending :=
  { pending with branches := pending.branches.map BranchSlot.unmarked }

theorem finish_unmarked {pending other : Pending} (same : pending.unmarked = other.unmarked)
    {group : BatchGroup} (finished : pending.finish = .ok group) :
    ∃ another, other.finish = .ok another ∧
      BatchGroup.unmarked group = BatchGroup.unmarked another := by
  have source : pending.unmarked.source = other.unmarked.source := congrArg Pending.source same
  change pending.source = other.source at source
  have branches : pending.branches.map BranchSlot.unmarked
      = other.branches.map BranchSlot.unmarked := congrArg Pending.branches same
  rw [Pending.finish] at finished
  split at finished
  next regex compiled =>
    cases finished
    rw [source] at compiled
    exact ⟨⟨regex, other.branches⟩, by simp [Pending.finish, compiled],
      by simp [BatchGroup.unmarked, branches]⟩
  next => cases finished

theorem push_unmarked {pending other : Pending} (same : pending.unmarked = other.unmarked)
    (pattern : Pattern) (arm mark another : Nat) :
    (pending.push pattern arm mark).unmarked = (other.push pattern arm another).unmarked := by
  simp only [Pending.unmarked, Pending.mk.injEq] at same
  obtain ⟨alternatives, size, group, branches⟩ := same
  simp [Pending.unmarked, Pending.push, Pending.isEmpty, BranchSlot.unmarked, alternatives, size,
    group, branches]

theorem mergeFrom_unmarked {limit arm mark another : Nat} {pending other : Pending}
    {patterns : List Pattern} {groups : List BatchGroup}
    (same : pending.unmarked = other.unmarked)
    (merged : mergeFrom limit pending arm mark patterns = .ok groups) :
    ∃ others, mergeFrom limit other arm another patterns = .ok others ∧
      groups.map BatchGroup.unmarked = others.map BatchGroup.unmarked := by
  induction patterns generalizing pending other arm mark another groups with
  | nil =>
    -- whether anything is pending and whether it overflows depends on the alternatives alone, so
    -- both sides take the same branch
    have empty : pending.unmarked.isEmpty = other.unmarked.isEmpty := congrArg Pending.isEmpty same
    change pending.isEmpty = other.isEmpty at empty
    rw [mergeFrom] at merged ⊢
    rw [← empty]
    split at merged
    next none =>
      cases merged
      exact ⟨[], if_pos none, rfl⟩
    next filled =>
      obtain ⟨last, finished, only⟩ := bind_ok_iff.mp merged
      cases pure_ok_iff.mp only
      obtain ⟨final, ended, alike⟩ := finish_unmarked same finished
      refine ⟨[final], ?_, by simp [alike]⟩
      rw [if_neg filled, bind_ok_iff]
      exact ⟨final, ended, rfl⟩
  | cons pattern rest ih =>
    have overflow : pending.unmarked.overflows limit pattern
        = other.unmarked.overflows limit pattern :=
      congrArg (Pending.overflows · limit pattern) same
    change pending.overflows limit pattern = other.overflows limit pattern at overflow
    rw [mergeFrom] at merged ⊢
    rw [← overflow]
    split at merged
    next full =>
      obtain ⟨first, finished, more⟩ := bind_ok_iff.mp merged
      obtain ⟨later, separate, all⟩ := bind_ok_iff.mp more
      cases pure_ok_iff.mp all
      obtain ⟨leading, ended, alike⟩ := finish_unmarked same finished
      -- a new expression begins without branches on both sides
      obtain ⟨others, behind, rest_alike⟩ := ih (push_unmarked rfl pattern arm _ another) separate
      refine ⟨leading :: others, ?_, by simp [alike, rest_alike]⟩
      simp only [full, if_true, bind_ok_iff, pure_ok_iff]
      exact ⟨leading, ended, others, behind, rfl⟩
    next open_ =>
      obtain ⟨others, behind, alike⟩ := ih (push_unmarked same pattern arm _ another) merged
      exact ⟨others, by rw [if_neg open_]; exact behind, alike⟩

theorem select_unmarked (groups : List BatchGroup) (segment : String) :
    Machine.select (groups.map BatchGroup.unmarked) segment = Machine.select groups segment := by
  have each (group : BatchGroup) :
      Machine.selectBranch segment (BatchGroup.unmarked group)
        = Machine.selectBranch segment group := by
    simp only [Machine.selectBranch, BatchGroup.unmarked, Option.bind_eq_bind, List.find?_map]
    refine Option.bind_congr fun found _ => ?_
    rw [Option.bind_map]
    rfl
  rw [Machine.select, Machine.select, List.findSome?_map]
  exact congrArg (groups.findSome? ·) (funext each)

/-- What merged patterns select does not depend on the marks that were given out before. -/
theorem select_issued {limit issued : Nat} {patterns : List Pattern} {groups : List BatchGroup}
    (merged : merge limit issued patterns = .ok groups) (another : Nat) :
    ∃ others, merge limit another patterns = .ok others ∧
      ∀ segment, Machine.select others segment = Machine.select groups segment := by
  obtain ⟨others, behind, alike⟩ := mergeFrom_unmarked rfl merged
  refine ⟨others, behind, fun segment => ?_⟩
  rw [← select_unmarked others, ← alike, select_unmarked]

end Signpost.Batch

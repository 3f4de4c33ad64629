import Signpost.Proofs.Regex.Insertion

/-!
# Names of groups

The reader knows the names that have been used before, so that none is used twice. They are the names
of all groups of the expression that is read, those included that no match reports.
-/
namespace Signpost.Regex

/-- The names of all groups that an expression opens. -/
def Expr.labels : Expr → List String
  | .empty | .chars _ | .assertion _ => []
  | .group name body => name.toList ++ body.labels
  | .seq first second | .either first second => first.labels ++ second.labels
  | .repeated body _ _ _ => body.labels

/-- The names of the groups in items. -/
def itemLabels (items : List (Option Expr)) : List String :=
  items.flatMap fun item => (item.map Expr.labels).getD []

namespace Branches

def labels (branches : Branches) : List String :=
  itemLabels branches.items ++ branches.finished.flatMap Expr.labels

theorem sequence_labels (items : List (Option Expr)) :
    (sequence items).labels.Perm (itemLabels items) := by
  induction items with
  | nil => exact .refl _
  | cons item before ih =>
    cases item with
    | none => exact ih
    | some item => exact (ih.append_right item.labels).trans List.perm_append_comm

theorem whole_labels (branches : Branches) : branches.whole.labels.Perm branches.labels := by
  obtain ⟨finished, items⟩ := branches
  have choice (later : Expr) : (finished.foldl (fun later earlier => .either earlier later)
      later).labels.Perm (later.labels ++ finished.flatMap Expr.labels) := by
    induction finished generalizing later with
    | nil => simp
    | cons first rest ih =>
      refine (ih (.either first later)).trans ?_
      rw [Expr.labels, List.flatMap_cons, ← List.append_assoc]
      exact List.perm_append_comm.append_right _
  exact (choice _).trans ((sequence_labels items).append_right _)

end Branches

def Opening.labels : Opening → List String
  | .plain => []
  | .capture name => name.toList

theorem Opening.wrap_labels (opening : Opening) (body : Expr) :
    (opening.wrap body).labels = opening.labels ++ body.labels := by
  cases opening with
  | plain => rfl
  | capture name => rfl

namespace Reading

def openLabels (groups : List OpenGroup) : List String :=
  groups.flatMap fun group => group.opening.labels ++ group.before.labels

/-- The names of all groups that have been closed or are still open. -/
def labels (reading : Reading) : List String :=
  reading.here.labels ++ openLabels reading.enclosing

/-- The names that are known are those of the groups read. -/
def Named (reading : Reading) : Prop := reading.names.Perm reading.labels

variable {reading next : Reading}

theorem add_named (named : reading.Named) {item : Expr} {depth : Nat}
    (unlabelled : item.labels = []) : (reading.add item depth).Named := by
  simpa [Named, labels, add, Branches.add, Branches.labels, itemLabels, unlabelled] using named

theorem enter_named (named : reading.Named) {opening : Opening} (inside : Flags)
    (unlabelled : opening.labels = []) : (reading.enter opening inside).Named := by
  simpa [Named, labels, enter, openLabels, Branches.labels, itemLabels, unlabelled] using named

theorem enterNamed_named (named : reading.Named) {text rest : List Char}
    (taken : reading.enterNamed text = some (next, rest)) : next.Named := by
  obtain ⟨⟨name, after⟩, -, entered⟩ := Option.bind_eq_some_iff.mp taken
  dsimp only at entered
  split at entered
  · cases entered
  · cases entered
    have known := named.cons name
    simpa [Named, labels, enter, openLabels, Branches.labels, itemLabels, Opening.labels] using known

theorem leave_named (named : reading.Named) (left : reading.leave? = some next) : next.Named := by
  rw [leave?] at left
  split at left
  · cases left
  next group enclosing inside =>
    cases left
    have body := reading.here.whole_labels
    rw [Named, List.perm_iff_count] at named ⊢
    rw [List.perm_iff_count] at body
    intro name
    have before := named name
    have closed := body name
    -- the labels of the group move from the open groups to the items of the group around it
    simp only [labels, inside, openLabels, Branches.labels, Branches.add, itemLabels,
      Opening.wrap_labels, List.flatMap_cons, List.count_append, Option.map_some,
      Option.getD_some] at before closed ⊢
    omega

theorem readRepetition_named (named : reading.Named) {low : Nat} {high : Option Nat}
    {text rest : List Char} (taken : reading.readRepetition low high text = some (next, rest)) :
    next.Named := by
  obtain ⟨here, repeated, only⟩ := Option.bind_eq_some_iff.mp taken
  cases only
  rw [Branches.repeatLast] at repeated
  split at repeated
  next item before items =>
    cases repeated
    simpa [Named, labels, Branches.labels, itemLabels, items, Expr.labels] using named
  next => cases repeated

theorem readCounted_named (named : reading.Named) {text rest : List Char}
    (taken : reading.readCounted text = some (next, rest)) : next.Named := by
  rw [readCounted_eq] at taken
  obtain ⟨low, -, later⟩ := Option.bind_eq_some_iff.mp taken
  obtain ⟨⟨high, behind⟩, -, ends⟩ := Option.bind_eq_some_iff.mp later
  dsimp only at ends
  split at ends
  next =>
    split at ends
    · cases ends
    · exact readRepetition_named named ends
  next => cases ends

theorem readExtension_names (named : reading.Named) {text rest : List Char}
    (taken : reading.readExtension text = some (next, rest)) : next.Named := by
  by_cases other : text.head? ∉ [some '=', some '!', some '<'] ∧ text.take 2 ≠ ['P', '<']
  · rw [readExtension_flags other.1 other.2] at taken
    obtain ⟨⟨inside, letters, mark, after⟩, -, only⟩ := Option.bind_eq_some_iff.mp taken
    dsimp only at only
    split at only
    · cases only
      exact enter_named named inside rfl
    · split at only
      · cases only
      · cases only
        simpa [Named, labels, Branches.noteFlags, Branches.labels, itemLabels] using named
  · obtain ⟨inside, alike⟩ := readExtension_named other taken
    have same := alike reading []
    rw [List.append_nil, List.append_nil] at same
    rw [same] at taken
    exact enterNamed_named named taken

/-- Every step that introduces a name opens the group that has it. -/
theorem step_named (named : reading.Named) {c : Char} {text rest : List Char}
    (taken : reading.step c text = some (next, rest)) : next.Named := by
  by_cases plain : special c = false
  · rw [step_literal plain] at taken
    cases taken
    exact add_named named rfl
  · rcases special_cases plain with
      rfl | rfl | rfl | rfl | rfl | rfl | rfl | rfl | rfl | rfl | rfl | rfl
    · change reading.readGroup text = _ at taken
      by_cases mark : (reading.flags.skip text).head? = some '?'
      · obtain ⟨inside, shape⟩ := List.head?_eq_some_iff.mp mark
        rw [readGroup_extension shape] at taken
        exact readExtension_names named taken
      · rw [readGroup_capture mark] at taken
        cases taken
        exact enter_named named reading.flags rfl
    · obtain ⟨left, closes, only⟩ := Option.map_eq_some_iff.mp taken
      cases only
      exact leave_named named closes
    -- a bar finishes an alternative with all of its labels
    · cases taken
      have whole := Branches.sequence_labels reading.here.items
      rw [Named, List.perm_iff_count] at named ⊢
      rw [List.perm_iff_count] at whole
      intro name
      have before := named name
      have finished := whole name
      simp only [labels, Branches.labels, Branches.split, Branches.current, itemLabels,
        List.flatMap_cons, List.flatMap_nil, List.count_append, List.count_nil] at before finished ⊢
      omega
    · obtain ⟨⟨class_, after⟩, -, only⟩ := Option.map_eq_some_iff.mp taken
      cases only
      exact add_named named rfl
    · exact readRepetition_named named taken
    · exact readRepetition_named named taken
    · exact readRepetition_named named taken
    · exact readCounted_named named taken
    · rw [step_escape] at taken
      obtain ⟨⟨escape, after⟩, -, only⟩ := Option.map_eq_some_iff.mp taken
      cases only
      cases escape <;> exact add_named named rfl
    · obtain ⟨set, -, only⟩ := Option.map_eq_some_iff.mp taken
      cases only
      exact add_named named rfl
    · cases taken
      exact add_named named rfl
    · cases taken
      exact add_named named rfl

theorem run_named (named : reading.Named) {fuel : Nat} {text : List Char}
    (ran : reading.run fuel text = some next) : next.Named := by
  induction fuel generalizing reading text with
  | zero => cases ran
  | succ fuel ih =>
    rw [run] at ran
    split at ran
    · obtain rfl : reading = next := Option.some.inj ran
      exact named
    · obtain ⟨⟨middle, after⟩, stepped, later⟩ := Option.bind_eq_some_iff.mp ran
      exact ih (step_named named stepped) later

/-- The names are those of the expression read. -/
theorem ofText?_labels {text : List Char} (read : ofText? text = some next) :
    next.names.Perm next.here.whole.labels := by
  obtain ⟨ran, closed⟩ := ofText?_iff.mp read
  have start : Named {} := List.Perm.refl []
  have named := run_named start ran
  rw [Named, labels, closed] at named
  refine named.trans ?_
  rw [openLabels, List.flatMap_nil, List.append_nil]
  exact next.here.whole_labels.symm

end Reading

/-- No name is used twice in what can be read. -/
theorem Expr.read?_labels {text : List Char} {expr : Expr} (denotes : Expr.read? text = some expr) :
    expr.labels.Nodup := by
  obtain ⟨final, read, -, rfl⟩ := Expr.read?_iff.mp denotes
  have names := Reading.run_nodup (Reading.ofText?_iff.mp read).1 List.nodup_nil
  exact (Reading.ofText?_labels read).nodup_iff.mp names

end Signpost.Regex

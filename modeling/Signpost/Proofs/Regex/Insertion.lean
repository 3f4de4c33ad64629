import Signpost.Proofs.Regex.Fragments

/-!
# Inserting expressions into others

An expression that can be read by itself and also between the parentheses of a group is read alike in
every group: the steps that read it by itself are taken there too, and they end in front of the
closing parenthesis. Reading it between parentheses rules out that it ends in a comment, which would
swallow them.
-/
namespace Signpost.Regex

theorem Flags.skip_parenthesis (flags : Flags) (more : List Char) :
    flags.skip (')' :: more) = ')' :: more := by
  have solid : ¬ Text.isBlank ')' := by decide
  rw [Flags.skip]
  split
  · simp [skipBlanks, solid]
  · rfl

namespace Reading

/-- A text leads from one reading to another in front of every closing parenthesis, unless a name
that is introduced on the way has been used before. -/
def Passes (start : Reading) (text : List Char) (steps : Nat) (final : Reading) : Prop :=
  ∀ outer names more fuel, (start.names ++ names).Nodup →
    (start.under outer names).run (steps + fuel) (text ++ ')' :: more)
      = if (final.names ++ names).Nodup then (final.under outer names).run fuel (')' :: more)
        else none

/-- A text ends in a comment, which swallows what stands behind it. -/
def Swallows (start : Reading) (text : List Char) (fuel : Nat) (final : Reading) : Prop :=
  ∀ outer names extra, (final.names ++ names).Nodup →
    (start.under outer names).run (fuel + extra) (text ++ [')', '$'])
      = some (final.under outer names)

theorem nodup_of_suffix {names more others : List String} (suffix : names <:+ more)
    (distinct : (more ++ others).Nodup) : (names ++ others).Nodup := by
  obtain ⟨before, rfl⟩ := suffix
  rw [List.append_assoc] at distinct
  exact distinct.of_append_right

/-! One step at a time. -/

section

variable {start next final : Reading} {fuel : Nat} {text rest after : List Char} {c : Char}

/-- Flags belong to a reading itself, so further groups do not change what is skipped. -/
theorem run_under (outer : List OpenGroup) (names : List String) :
    (start.under outer names).run (fuel + 1) text =
      match start.flags.skip text with
      | [] => some (start.under outer names)
      | c :: rest => ((start.under outer names).step c rest).bind fun found =>
          found.1.run fuel found.2 := rfl

theorem run_under_step (shape : start.flags.skip text = c :: rest) (outer : List OpenGroup)
    (names : List String) (more : List Char) :
    (start.under outer names).run (fuel + 1) (text ++ more)
      = ((start.under outer names).step c (rest ++ more)).bind fun found =>
          found.1.run fuel found.2 := by
  have left : start.flags.skip text ≠ [] := by simp [shape]
  rw [run_under, start.flags.skip_append more left, shape, List.cons_append]

/-- Where there is nothing left to read, a closing parenthesis follows or is swallowed. -/
theorem run_cases_nil (none : start.flags.skip text = []) (fuel : Nat) :
    Passes start text 0 start ∨ Swallows start text (fuel + 1) start := by
  rcases start.flags.skip_cases text with same | ⟨-, swallowed⟩
  · refine .inl fun outer names more fuel distinct => ?_
    rw [if_pos distinct, Nat.zero_add]
    cases fuel with
    | zero => rfl
    | succ fuel => rw [run_under, run_under, same, none, List.nil_append, Flags.skip_parenthesis]
  · refine .inr fun outer names extra _ => ?_
    rw [Nat.add_right_comm, run_under, swallowed]

theorem Passes.step {steps : Nat} (passes : Passes next after steps final)
    (growing : next.names <:+ final.names) (shape : start.flags.skip text = c :: rest)
    (taken : ∀ more, start.step c (rest ++ ')' :: more) = some (next, after ++ ')' :: more)) :
    Passes start text (steps + 1) final := by
  intro outer names more extra distinct
  rw [Nat.add_right_comm, run_under_step shape, (step_under (taken _)).2 outer names distinct]
  -- a name used before stops the reading here, and its like stays among the names to the end
  by_cases fresh : (next.names ++ names).Nodup
  · rw [if_pos fresh]
    exact passes outer names more extra fresh
  · rw [if_neg fresh, if_neg fun all => fresh (nodup_of_suffix growing all)]
    rfl

theorem Swallows.step (swallows : Swallows next after fuel final)
    (growing : next.names <:+ final.names) (shape : start.flags.skip text = c :: rest)
    (taken : ∀ more, start.step c (rest ++ ')' :: more) = some (next, after ++ ')' :: more)) :
    Swallows start text (fuel + 1) final := by
  intro outer names extra distinct
  have fresh := nodup_of_suffix growing distinct
  obtain ⟨grown, under⟩ := step_under (taken ['$'])
  rw [Nat.add_right_comm, run_under_step shape, under outer names (nodup_of_suffix grown fresh),
    if_pos fresh]
  exact swallows outer names extra distinct

/-- A step that ends in a comment leaves nothing to read, whatever stands behind it. -/
theorem Swallows.of_comment (shape : start.flags.skip text = c :: rest)
    (comment : start.step c (rest ++ [')', '$']) = some (final, [])) (fuel : Nat) :
    Swallows start text (fuel + 2) final := by
  intro outer names extra distinct
  obtain ⟨grown, under⟩ := step_under comment
  rw [Nat.add_right_comm, run_under_step shape, under outer names (nodup_of_suffix grown distinct),
    if_pos distinct, Option.bind_some]
  dsimp only
  exact (run_under outer names).trans (by rw [Flags.skip_nil])

end

/-- What has been read by itself can be read in front of a closing parenthesis, or it ends in a
comment. -/
theorem run_cases {fuel : Nat} {start final : Reading} {text : List Char}
    (alone : start.run fuel text = some final) :
    start.names <:+ final.names ∧
      ((∃ steps < fuel, Passes start text steps final) ∨ Swallows start text fuel final) := by
  induction fuel generalizing start text with
  | zero => cases alone
  | succ fuel ih =>
    rw [run] at alone
    split at alone
    next none =>
      obtain rfl : start = final := Option.some.inj alone
      refine ⟨List.suffix_refl _, ?_⟩
      exact (run_cases_nil none fuel).imp_left fun passes => ⟨0, Nat.succ_pos fuel, passes⟩
    next c rest shape =>
      obtain ⟨⟨next, after⟩, stepped, later⟩ := Option.bind_eq_some_iff.mp alone
      obtain ⟨growing, cases_⟩ := ih later
      refine ⟨(step_under stepped).1.trans growing, ?_⟩
      rcases step_confined start c rest next after stepped with same | ⟨rfl, comment⟩
      · refine cases_.imp ?_ fun swallows => swallows.step growing shape same
        rintro ⟨steps, within, passes⟩
        exact ⟨steps + 1, Nat.succ_lt_succ within, passes.step growing shape same⟩
      · -- the last step has left nothing, so the reading behind it is the final one
        obtain ⟨fuel, rfl⟩ : ∃ fewer, fuel = fewer + 1 := by
          cases fuel with
          | zero => cases later
          | succ fuel => exact ⟨fuel, rfl⟩
        dsimp only at later
        rw [run, Flags.skip_nil] at later
        obtain rfl : next = final := Option.some.inj later
        exact .inr (.of_comment shape comment fuel)

theorem run_step {reading : Reading} (compact : reading.flags.extended = false) (fuel : Nat)
    (c : Char) (rest : List Char) :
    reading.run (fuel + 1) (c :: rest)
      = (reading.step c rest).bind fun found => found.1.run fuel found.2 := by
  rw [run, Flags.skip, compact]
  rfl

theorem run_nodup {fuel : Nat} {start final : Reading} {text : List Char}
    (alone : start.run fuel text = some final) (distinct : start.names.Nodup) :
    final.names.Nodup := by
  induction fuel generalizing start text with
  | zero => cases alone
  | succ fuel ih =>
    rw [run] at alone
    split at alone
    · obtain rfl : start = final := Option.some.inj alone
      exact distinct
    next c rest _ =>
      obtain ⟨⟨next, after⟩, stepped, later⟩ := Option.bind_eq_some_iff.mp alone
      have same := (step_under stepped).2 [] [] (by simpa using distinct)
      have whole : start.under [] [] = start := by simp [under]
      rw [whole, stepped] at same
      split at same
      next fresh => exact ih later (by simpa using fresh)
      next => cases same

theorem step_start {reading : Reading} (unset : reading.flags = {}) (rest : List Char) :
    reading.step '^' rest = some (reading.add (.assertion .textStart) 0, rest) := by
  change some (reading.add (.assertion reading.flags.start) 0, rest) = _
  rw [unset]
  rfl

theorem step_stop {reading : Reading} (unset : reading.flags = {}) (rest : List Char) :
    reading.step '$' rest = some (reading.add (.assertion .textEnd) 0, rest) := by
  change some (reading.add (.assertion reading.flags.stop) 0, rest) = _
  rw [unset]
  rfl

/-- A group without a number. -/
theorem step_plain {reading : Reading} (unset : reading.flags = {}) (rest : List Char) :
    reading.step '(' ('?' :: ':' :: rest) = some (reading.enter .plain {}, rest) := by
  have mark : reading.flags.skip ('?' :: ':' :: rest) = '?' :: ':' :: rest := by
    rw [unset]
    rfl
  refine (readGroup_extension mark).trans ?_
  rw [readExtension_flags (by simp) (by simp), unset]
  rfl

/-- A group with a number. -/
theorem step_capture {reading : Reading} (unset : reading.flags = {}) {rest : List Char}
    (plain : rest.head? ≠ some '?') :
    reading.step '(' rest = some (reading.enter (.capture none) {}, rest) := by
  have whole : reading.flags.skip rest = rest := by
    rw [unset]
    rfl
  refine (readGroup_capture (by rwa [whole])).trans ?_
  rw [whole, unset]

/-- A text that passes through a group is read up to the end of the group. -/
theorem run_closed {body : List Char} {steps : Nat} {final : Reading}
    (passes : Passes {} body steps final) (closed : final.enclosing = []) {group : OpenGroup}
    {enclosing : List OpenGroup} {names : List String} (distinct : names.Nodup)
    (more : List Char) (fuel : Nat) :
    run ⟨{}, {}, group :: enclosing, names⟩ (steps + (fuel + 1)) (body ++ ')' :: more)
      = if (final.names ++ names).Nodup then
          run ⟨group.outside,
            group.before.add (group.opening.wrap final.here.whole) (final.here.depth + 1), enclosing,
            final.names ++ names⟩ fuel more
        else none := by
  have inside := passes (group :: enclosing) names more (fuel + 1) distinct
  refine inside.trans (if_congr Iff.rfl ?_ rfl)
  rw [run, Flags.skip_parenthesis]
  change ((leave? (final.under (group :: enclosing) names)).map
    fun reading => (reading, more)).bind _ = _
  rw [leave?]
  simp [under, closed]

theorem ofText?_iff {text : List Char} {final : Reading} :
    ofText? text = some final ↔ run {} (text.length + 1) text = some final ∧ final.enclosing = [] := by
  rw [ofText?, Option.filter_eq_some_iff, List.isEmpty_iff]

/-- What is read by itself and as the only content of a group passes through every group. -/
theorem ofText?_passes {body : List Char} {alone wrapped : Reading}
    (read : ofText? body = some alone)
    (encloses : ofText? ("^(?:".toList ++ body ++ ")$".toList) = some wrapped) :
    ∃ steps ≤ body.length, Passes {} body steps alone := by
  obtain ⟨ran, -⟩ := ofText?_iff.mp read
  obtain ⟨-, ⟨steps, within, passes⟩ | swallows⟩ := run_cases ran
  · exact ⟨steps, Nat.le_of_lt_succ within, passes⟩
  · -- the comment would swallow the parenthesis, and the group would stay open
    obtain ⟨all, ended⟩ := ofText?_iff.mp encloses
    have distinct := run_nodup ran List.nodup_nil
    have shape : "^(?:".toList ++ body ++ ")$".toList
        = '^' :: '(' :: '?' :: ':' :: (body ++ [')', '$']) := rfl
    have fuel : (body ++ [')', '$']).length + 4 = body.length + 6 := by simp
    rw [shape, List.length_cons, List.length_cons, List.length_cons, List.length_cons, fuel,
      run_step rfl, step_start rfl, Option.bind_some] at all
    dsimp only at all
    rw [run_step rfl, step_plain rfl, Option.bind_some] at all
    have open_ := swallows [⟨.plain, {}, Branches.add {} (.assertion .textStart) 0⟩] [] 4
      (by simpa using distinct)
    have same := Option.some.inj (all.symm.trans open_)
    simp [same, under] at ended

end Reading

/-- A text denotes an expression if its groups are closed and nothing nests too deep. -/
theorem Expr.read?_iff {text : List Char} {expr : Expr} :
    Expr.read? text = some expr ↔ ∃ final, Reading.ofText? text = some final ∧
      final.here.depth ≤ nestLimit ∧ final.here.whole = expr := by
  rw [read?, Option.bind_eq_bind, Option.bind_eq_some_iff]
  refine exists_congr fun final => and_congr_right fun _ => ?_
  split
  next shallow => simp [shallow]
  next deep => simp [deep]

end Signpost.Regex
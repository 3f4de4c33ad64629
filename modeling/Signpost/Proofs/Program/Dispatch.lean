import Signpost.Proofs.Program.Emission

/-!
# Finding arms

The lookup of a literal dispatch finds the first arm with a literal, and the arms of a dispatch
stand in the order of the members that they were made from.
-/
namespace Signpost.Program

theorem lookup_zipIdx (arms : List (String × List Instruction)) (first : Nat) (literal : String) :
    ((arms.zipIdx first).map fun (arm, index) => (arm.1, index)).lookup literal
      = (arms.findIdx? (·.1 == literal)).map (· + first) := by
  induction arms generalizing first with
  | nil => rfl
  | cons arm rest ih =>
    rw [List.zipIdx_cons, List.map_cons, List.lookup_cons, List.findIdx?_cons]
    by_cases same : arm.1 = literal
    · simp [same]
    · have apart : (literal == arm.1) = false := by simpa using Ne.symm same
      simp only [apart, beq_iff_eq, same, if_false, ih, Option.map_map]
      -- the positions of the rest are counted from one further on
      exact congrArg (Option.map · _) (funext fun index => by
        simp only [Function.comp_apply]
        omega)

/-- Of several entries with one name the lookup keeps the first. -/
theorem lookup_foldl (entries kept : List (String × Nat)) (literal : String) :
    (entries.foldl (fun lookup entry =>
        if (lookup.lookup entry.1).isSome then lookup else lookup ++ [entry]) kept).lookup literal
      = (kept.lookup literal).or (entries.lookup literal) := by
  induction entries generalizing kept with
  | nil => simp
  | cons entry rest ih =>
    obtain ⟨name, index⟩ := entry
    rw [List.foldl_cons, ih, List.lookup_cons]
    by_cases same : literal = name
    · subst same
      cases known : kept.lookup literal <;> simp [List.lookup_append, known]
    · have apart : (literal == name) = false := by simpa using same
      rw [apart]
      -- an entry whose name is known already is dropped, and any other one joins at the end
      split
      · rfl
      · simp [List.lookup_append, List.lookup_cons, apart]

theorem literalLookup_eq (arms : List (String × List Instruction)) (literal : String) :
    (literalLookup arms).lookup literal = arms.findIdx? (·.1 == literal) := by
  rw [literalLookup, lookup_foldl, lookup_zipIdx]
  simp

/-- Looking up the arm of a literal finds the first arm with that literal. -/
theorem literalLookup_arm (arms : List (String × List Instruction)) (literal : String) :
    ((literalLookup arms).lookup literal).bind (arms[·]?) = arms.find? (·.1 == literal) := by
  rw [literalLookup_eq, List.find?_eq_bind_findIdx?_getElem?]

theorem literalLookup_bound {arms : List (String × List Instruction)} {literal : String} {arm : Nat}
    (found : (literalLookup arms).lookup literal = some arm) : ∃ pair, arms[arm]? = some pair := by
  rw [literalLookup_eq] at found
  obtain ⟨inside, -⟩ := List.findIdx?_eq_some_iff_getElem.mp found
  exact ⟨arms[arm], List.getElem?_eq_getElem inside⟩

section

variable {α β : Type} {skipped : α → Prop} {made : α → β → Prop} {inputs : List α}
  {outputs : List β}

/-- What is found behind the first element of a list is found in the list. -/
theorem Picks.behind {made : α → β → Prop} {first : α} {inputs : List α} {found : Option α}
    {result : Option β}
    (later : Option.Rel (fun input output => input ∈ inputs ∧ made input output) found result) :
    Option.Rel (fun input output => input ∈ first :: inputs ∧ made input output) found result := by
  cases later with
  | none => exact .none
  | some both => exact .some ⟨List.mem_cons_of_mem first both.1, both.2⟩

/-- A search finds what has been made from what a search of the origins finds. -/
theorem Picks.find (picks : Picks skipped made inputs outputs) (holds : α → Bool)
    (holds' : β → Bool)
    (passed : ∀ input, skipped input → holds input = false)
    (alike : ∀ input output, made input output → holds input = holds' output) :
    Option.Rel (fun input output => input ∈ inputs ∧ made input output)
      (inputs.find? holds) (outputs.find? holds') := by
  induction picks with
  | nil => exact .none
  | @skip input inputs outputs here _ ih =>
    rw [List.find?_cons, passed input here]
    exact Picks.behind ih
  | @take input output inputs outputs here _ ih =>
    rw [List.find?_cons, List.find?_cons, ← alike input output here]
    cases holds input with
    | true => exact .some ⟨List.mem_cons_self, here⟩
    | false => exact Picks.behind ih

/-- What is not skipped is what something has been made from. -/
theorem Picks.filter (picks : Picks skipped made inputs outputs) (holds : α → Bool)
    (passed : ∀ input, skipped input → holds input = false)
    (taken : ∀ input output, made input output → holds input = true) :
    List.Forall₂ made (inputs.filter holds) outputs := by
  induction picks with
  | nil => exact .nil
  | @skip input inputs outputs here _ ih =>
    rw [List.filter_cons_of_neg (by simp [passed input here])]
    exact ih
  | @take input output inputs outputs here _ ih =>
    rw [List.filter_cons_of_pos (taken input output here)]
    exact .cons here ih

/-- The elements of a list that something has been made from stand in the order of the results. -/
theorem Picks.getElem (picks : Picks skipped made inputs outputs) (holds : α → Bool)
    (passed : ∀ input, skipped input → holds input = false)
    (taken : ∀ input output, made input output → holds input = true) (position : Nat) :
    Option.Rel (fun input output => input ∈ inputs ∧ made input output)
      (inputs.filter holds)[position]? outputs[position]? := by
  have each := picks.filter holds passed taken
  have inside (input : α) (member : input ∈ inputs.filter holds) : input ∈ inputs :=
    List.mem_of_mem_filter member
  clear picks
  generalize inputs.filter holds = filtered at each inside
  induction each generalizing position with
  | nil => exact .none
  | cons here _ ih =>
    obtain ⟨first, rest⟩ := List.forall_mem_cons.mp inside
    cases position with
    | zero => exact .some ⟨first, here⟩
    | succ position => exact ih position rest

end

end Signpost.Program

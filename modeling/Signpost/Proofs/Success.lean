import Mathlib.Data.List.Forall2

/-!
# Steps that succeed

What it says about the steps of a sequence that the sequence as a whole has succeeded, or has not.
-/
namespace Signpost

theorem ok_bind {ε α β : Type} (value : α) (next : α → Except ε β) :
    (Except.ok value >>= next) = next value := rfl

/-- A sequence succeeds exactly when both of its parts do. -/
theorem bind_ok_iff {ε α β : Type} {first : Except ε α} {next : α → Except ε β} {value : β} :
    (first >>= next) = .ok value ↔ ∃ middle, first = .ok middle ∧ next middle = .ok value := by
  cases first <;> simp [bind, Except.bind]

theorem bind_error_iff {ε α β : Type} {first : Except ε α} {next : α → Except ε β} {problem : ε} :
    (first >>= next) = .error problem ↔
      first = .error problem ∨ ∃ middle, first = .ok middle ∧ next middle = .error problem := by
  cases first <;> simp [bind, Except.bind]

theorem pure_ok_iff {ε α : Type} {value other : α} :
    (pure value : Except ε α) = .ok other ↔ value = other := by
  simp [pure, Except.pure]

theorem mapError_ok_iff {ε δ α : Type} {convert : ε → δ} {result : Except ε α} {value : α} :
    result.mapError convert = .ok value ↔ result = .ok value := by
  cases result <;> simp [Except.mapError]

theorem toOption_some_iff {ε α : Type} {result : Except ε α} {value : α} :
    result.toOption = some value ↔ result = .ok value := by
  cases result <;> simp [Except.toOption]

theorem ok_of_toOption {ε α : Type} {result : Except ε α} {value : α}
    (found : result.toOption = some value) : result = .ok value :=
  toOption_some_iff.mp found

/-- Going through a list succeeds exactly when every element does. -/
theorem mapM_ok_iff {ε α β : Type} {each : α → Except ε β} {inputs : List α} {outputs : List β} :
    inputs.mapM each = .ok outputs
      ↔ List.Forall₂ (fun input output => each input = .ok output) inputs outputs := by
  induction inputs generalizing outputs with
  | nil =>
    rw [List.mapM_nil, pure_ok_iff]
    constructor
    · rintro rfl
      exact .nil
    · rintro ⟨⟩
      rfl
  | cons input rest ih =>
    simp only [List.mapM_cons, bind_ok_iff, pure_ok_iff, ih]
    constructor
    · rintro ⟨output, first, outputs, later, rfl⟩
      exact .cons first later
    · rintro (_ | ⟨first, later⟩)
      exact ⟨_, first, _, later, rfl⟩

theorem mapM_ok {ε α β : Type} {inputs : List α} {each : α → Except ε β} {value : α → β}
    (succeeds : ∀ input ∈ inputs, each input = .ok (value input)) :
    inputs.mapM each = .ok (inputs.map value) := by
  rw [mapM_ok_iff, List.forall₂_map_right_iff, List.forall₂_same]
  exact succeeds

theorem mapM_map_ok {ε α β γ : Type} {inputs : List α} {before : α → β} {each : β → Except ε γ}
    {after : α → γ} (succeeds : ∀ input ∈ inputs, each (before input) = .ok (after input)) :
    (inputs.map before).mapM each = .ok (inputs.map after) := by
  rw [mapM_ok_iff, List.forall₂_map_left_iff, List.forall₂_map_right_iff, List.forall₂_same]
  exact succeeds

/-- What every output has in common with its input, all of them have in common with theirs. -/
theorem mapM_ok_map {ε α β γ : Type} {each : α → Except ε β} {shown : α → γ} {view : β → γ}
    {inputs : List α} {outputs : List β} (done : inputs.mapM each = .ok outputs)
    (same : ∀ input ∈ inputs, ∀ output, each input = .ok output → view output = shown input) :
    outputs.map view = inputs.map shown := by
  have all := mapM_ok_iff.mp done
  clear done
  induction all with
  | nil => rfl
  | cons here _ ih =>
    obtain ⟨first, rest⟩ := List.forall_mem_cons.mp same
    rw [List.map_cons, List.map_cons, first _ here, ih rest]

/-- In lists that are related element by element, every output has its input. -/
theorem forall₂_origin {α β : Type} {related : α → β → Prop} {inputs : List α} {outputs : List β}
    (all : List.Forall₂ related inputs outputs) :
    ∀ output ∈ outputs, ∃ input ∈ inputs, related input output := by
  induction all with
  | nil => simp
  | cons here _ ih =>
    intro output member
    rcases List.mem_cons.mp member with rfl | later
    · exact ⟨_, List.mem_cons_self, here⟩
    · obtain ⟨input, there, holds⟩ := ih output later
      exact ⟨input, List.mem_cons_of_mem _ there, holds⟩

/-- Every output of a search that finds something for all inputs has its input. -/
theorem mapM_some_origin {α β : Type} {each : α → Option β} {inputs : List α} {outputs : List β}
    (found : inputs.mapM each = some outputs) :
    ∀ output ∈ outputs, ∃ input ∈ inputs, each input = some output := by
  induction inputs generalizing outputs with
  | nil =>
    cases found
    simp
  | cons input rest ih =>
    simp only [List.mapM_cons, Option.bind_eq_bind, Option.bind_eq_some_iff, Option.pure_def,
      Option.some.injEq] at found
    obtain ⟨first, here, others, behind, rfl⟩ := found
    intro output member
    rcases List.mem_cons.mp member with rfl | later
    · exact ⟨input, List.mem_cons_self, here⟩
    · obtain ⟨origin, among, made⟩ := ih behind output later
      exact ⟨origin, List.mem_cons_of_mem _ among, made⟩

/-- Lists of the same names, with related entries under them. -/
def Entrywise {α β : Type} (related : α → β → Prop) (inputs : List (String × α))
    (outputs : List (String × β)) : Prop :=
  List.Forall₂ (fun input output => input.1 = output.1 ∧ related input.2 output.2) inputs outputs

theorem Entrywise.lookup {α β : Type} {related : α → β → Prop} {inputs : List (String × α)}
    {outputs : List (String × β)} (all : Entrywise related inputs outputs) {name : String} {input : α}
    (found : inputs.lookup name = some input) :
    ∃ output, outputs.lookup name = some output ∧ related input output := by
  induction all with
  | nil => cases found
  | @cons first second _ _ here _ ih =>
    rw [List.lookup_cons] at found ⊢
    rw [← here.1]
    split at found
    · cases found
      exact ⟨second.2, rfl, here.2⟩
    · exact ih found

theorem Entrywise.imp {α β : Type} {related weaker : α → β → Prop} {inputs : List (String × α)}
    {outputs : List (String × β)} (implies : ∀ input output, related input output →
      weaker input output) (all : Entrywise related inputs outputs) :
    Entrywise weaker inputs outputs :=
  List.Forall₂.imp (fun _ _ both => ⟨both.1, implies _ _ both.2⟩) all

end Signpost

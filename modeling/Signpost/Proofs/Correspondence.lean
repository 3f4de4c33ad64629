import Mathlib.Data.List.Perm.Basic

/-!
# Lists that correspond

Two lists correspond if their elements can be paired off by a relation, in whatever order they stand.
Nothing is left over on either side then, and nothing is used twice.
-/
namespace Signpost

/-- Every element of one list is related to its own element of another. -/
def Corresponds {α β : Type} (related : α → β → Prop) (inputs : List α) (outputs : List β) : Prop :=
  ∃ sorted : List α, sorted.Perm inputs ∧ List.Forall₂ related sorted outputs

namespace Corresponds

variable {α β γ δ : Type} {related : α → β → Prop} {inputs more : List α} {outputs others : List β}

theorem of_forall₂ (each : List.Forall₂ related inputs outputs) : Corresponds related inputs outputs :=
  ⟨inputs, .refl inputs, each⟩

theorem nil : Corresponds related [] [] := of_forall₂ .nil

theorem single {input : α} {output : β} (here : related input output) :
    Corresponds related [input] [output] := of_forall₂ (.cons here .nil)

theorem perm (corresponds : Corresponds related inputs outputs) (same : inputs.Perm more) :
    Corresponds related more outputs := by
  obtain ⟨sorted, among, each⟩ := corresponds
  exact ⟨sorted, among.trans same, each⟩

/-- The order of the outputs does not matter either. -/
theorem perm_outputs (corresponds : Corresponds related inputs outputs) (same : outputs.Perm others) :
    Corresponds related inputs others := by
  obtain ⟨sorted, among, each⟩ := corresponds
  obtain ⟨again, paired, moved⟩ := List.perm_comp_forall₂ same.symm each.flip
  exact ⟨again, moved.trans among, paired.flip⟩

theorem append (here : Corresponds related inputs outputs) (behind : Corresponds related more others) :
    Corresponds related (inputs ++ more) (outputs ++ others) := by
  obtain ⟨sorted, among, each⟩ := here
  obtain ⟨sorted', among', each'⟩ := behind
  exact ⟨sorted ++ sorted', among.append among', List.rel_append each each'⟩

/-- What comes from paired elements corresponds as a whole, if nothing comes of those that are left
out. -/
theorem flatMap_filter {made : γ → δ → Prop} {inputs : List γ} {outputs : List δ}
    {before : γ → List α} {after : δ → List β} (each : List.Forall₂ made inputs outputs)
    (keep : γ → Bool)
    (inside : ∀ input ∈ inputs, ∀ output, made input output → keep input = true →
      Corresponds related (before input) (after output))
    (nothing : ∀ input output, made input output → keep input = false → after output = []) :
    Corresponds related ((inputs.filter keep).flatMap before) (outputs.flatMap after) := by
  induction each with
  | nil => exact nil
  | @cons input output inputs outputs here _ ih =>
    obtain ⟨first, rest⟩ := List.forall_mem_cons.mp inside
    rw [List.filter_cons, List.flatMap_cons]
    split
    next kept =>
      rw [List.flatMap_cons]
      exact (first output here kept).append (ih rest)
    next left =>
      rw [nothing input output here (by simpa using left), List.nil_append]
      exact ih rest

theorem flatMap {made : γ → δ → Prop} {inputs : List γ} {outputs : List δ} {before : γ → List α}
    {after : δ → List β} (each : List.Forall₂ made inputs outputs)
    (inside : ∀ input ∈ inputs, ∀ output, made input output →
      Corresponds related (before input) (after output)) :
    Corresponds related (inputs.flatMap before) (outputs.flatMap after) := by
  have whole := flatMap_filter each (fun _ => true)
    (fun input among output made _ => inside input among output made) nofun
  rwa [List.filter_true] at whole

/-- Each of the paired elements may stand in front of what comes from it, or before all of that. -/
theorem heads {made : γ → δ → Prop} {inputs : List γ} {outputs : List δ} {head : γ → α}
    {before : γ → List α} {head' : δ → β} {after : δ → List β}
    (each : List.Forall₂ made inputs outputs)
    (here : ∀ input ∈ inputs, ∀ output, made input output → related (head input) (head' output))
    (inside : ∀ input ∈ inputs, ∀ output, made input output →
      Corresponds related (before input) (after output)) :
    Corresponds related (inputs.flatMap fun input => head input :: before input)
      (outputs.map head' ++ outputs.flatMap after) := by
  have heads : Corresponds related (inputs.flatMap fun input => [head input])
      (outputs.flatMap fun output => [head' output]) :=
    flatMap each fun input among output made => single (here input among output made)
  rw [List.map_eq_flatMap]
  refine (heads.append (flatMap each inside)).perm ?_
  exact List.flatMap_append_perm inputs _ before

end Corresponds

end Signpost

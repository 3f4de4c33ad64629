import Signpost.Proofs.Pattern.Builtin
import Signpost.Proofs.Pattern.Written
import Signpost.Proofs.Program.Batching

/-!
# Values are recovered

A segment pattern filled with a value that its type admits matches what has come out, and gives the
value back. It does so by itself and in a merged expression, since it is the only alternative there.
-/
namespace Signpost

open Regex

/-- The text of a segment in which placeholders have values. -/
def Segment.filled (value : String → String) : Segment → String
  | .literal first rest => String.ofList (Glyph.text (first :: rest))
  | .slotted before slot after =>
    String.ofList (Glyph.text before ++ (value slot.name).toList ++ Glyph.text after)

/-! ### Types of placeholders -/

namespace Slot

theorem valueType_cases (slot : Slot) :
    slot.valueType = .string ∨ slot.valueType = .int ∨ slot.valueType = .float := by
  rw [valueType]
  cases keyword : slot.keyword with
  | none => exact .inl rfl
  | some word =>
    rcases keyword_cases (slot.known word keyword) with rfl | rfl | rfl
    · exact .inl rfl
    · exact .inr (.inl rfl)
    · exact .inr (.inr rfl)

theorem builtin (slot : Slot) : slot.valueType.Builtin := by
  intro token
  rcases slot.valueType_cases with type | type | type <;> simp [type]

/-- The expression of a placeholder is its class, repeated, in a group of its own. -/
theorem exists_fragment (slot : Slot) :
    ∃ own : Fragment, slot.parameter.Reads own ∧
      own.items = [some (.slot slot.valueType.charClass)] := by
  obtain ⟨own, reads⟩ := @Parameter.exists_fragment slot.parameter
    (slot.builtin.opens_iff.mpr rfl) fun _ => slot.builtin.compiles
  refine ⟨own, reads, ?_⟩
  rw [reads.items, Parameter.expr_builtin slot.builtin]
  rfl

end Slot

/-! ### One segment by itself -/

namespace Segment

theorem arises (segment : Segment) : segment.pattern.Arises := .read segment.read_source

theorem textOf_textPart (pattern : Pattern) (glyphs : List Glyph) (parts : List PatternPart) :
    pattern.textOf (textPart glyphs ++ parts)
      = (Fragment.literal (Glyph.text glyphs)).text ++ pattern.textOf parts := by
  cases glyphs with
  | nil => rfl
  | cons first rest =>
    simp [Pattern.textOf, textPart, Pattern.partRegex, Regex.escape, Fragment.literal_text]

theorem builtin (segment : Segment) :
    ∀ parameter ∈ segment.pattern.parameters, parameter.valueType.Builtin := by
  intro parameter member
  obtain ⟨slot, -, rfl⟩ : ∃ slot, segment.slot? = some slot ∧ slot.parameter = parameter := by
    simpa [pattern] using member
  exact slot.builtin

theorem typesCompile (segment : Segment) : segment.pattern.TypesCompile :=
  fun parameter member _ => (segment.builtin parameter member).compiles

/-- A segment with a placeholder denotes an expression that matches it filled. -/
theorem exists_fragment (before : List Glyph) (slot : Slot) (after : List Glyph) :
    ∃ fragment : Fragment, Batch.Denotes (slotted before slot after).pattern fragment ∧
      Pattern.Stands fragment (slotted before slot after).pattern.parameters ∧
      ∀ value : List Char, value ≠ [] → (∀ c ∈ value, slot.valueType.admits c) →
        fragment.matchWhole (Glyph.text before ++ value ++ Glyph.text after).toArray
          = some [(1, before.length, before.length + value.length)] := by
  obtain ⟨own, reads, items⟩ := slot.exists_fragment
  have counted := Pattern.groupCount_le (slotted before slot after).arises
    (slotted before slot after).typesCompile
  have stands := (Pattern.Stands.literal (Glyph.text before)).append
    ((Pattern.Stands.parameter reads).append (.literal (Glyph.text after)))
  refine ⟨_, ⟨?_, stands.groups, counted.1, counted.2⟩, stands, ?_⟩
  -- part by part the text is that of the pattern
  · have behind := textOf_textPart (slotted before slot after).pattern after []
    rw [List.append_nil] at behind
    rw [← Pattern.textOf_parts]
    change _ = Pattern.textOf _ (textPart before ++ .parameter 0 :: textPart after)
    rw [textOf_textPart, Pattern.textOf, List.flatMap_cons, ← Pattern.textOf, behind]
    simp [Fragment.append, reads.text, Pattern.partRegex, Pattern.textOf, pattern, slot?]
  · intro value filled admitted
    have matched := Fragment.matchWhole_around rfl items (Glyph.text before) (Glyph.text after)
      filled fun c member => (slot.valueType.admits_iff c).mp (admitted c member)
    simpa [Glyph.text] using matched

variable {value : String → String} {before after : List Glyph} {slot : Slot}

/-- A segment that has been filled with an admitted value gives it back. -/
theorem matchAlone_filled (filled : (value slot.name).toList ≠ [])
    (admitted : ∀ c ∈ (value slot.name).toList, slot.valueType.admits c) :
    (slotted before slot after).pattern.matchAlone ((slotted before slot after).filled value)
      = some [(slot.name, value slot.name)] := by
  obtain ⟨fragment, denotes, stands, matches_⟩ := exists_fragment before slot after
  have found := matches_ _ filled admitted
  rw [denotes.matchAlone (stands.compiles_builtin (builtin _)), Segment.filled, String.toList_ofList, found, Option.map_some]
  have given := slice_around (Glyph.text before) (value slot.name).toList (Glyph.text after)
  rw [String.ofList_toList, Glyph.text, List.length_map] at given
  -- the placeholder has the first group, so the frame is made of what stands there
  change some [(slot.name, slice _ (before.length, _))] = _
  rw [Glyph.text, given]

/-! ### Alone on its level -/

theorem merge_slotted (limit issued : Nat) :
    ∃ groups, Batch.merge limit issued [(slotted before slot after).pattern] = .ok groups := by
  obtain ⟨fragment, denotes, stands, -⟩ := exists_fragment before slot after
  have distinct := (stands.compiles_builtin (builtin _)).1
  have shallow : Fragment.mergedDepth [fragment] ≤ Expr.nestLimit := by
    have own := stands.shallow_builtin (builtin _)
    have bound := Fragment.mergedDepth_single fragment
    rw [Fragment.anchoredDepth_eq] at bound
    rw [Expr.nestLimit]
    omega
  have compiled := (Fragment.compile_merged_iff (by simp)
    (Batch.sourceOf_text (.cons denotes .nil))).mpr
      ⟨⟨by simpa [Fragment.allNames] using distinct, shallow⟩, rfl⟩
  have finished : ∃ group, (({} : Batch.Pending).push (slotted before slot after).pattern 0
      (issued + 1)).finish = .ok group := by
    have source : (({} : Batch.Pending).push (slotted before slot after).pattern 0
      (issued + 1)).source = Batch.sourceOf [(slotted before slot after).pattern] := rfl
    rw [Batch.Pending.finish, source, compiled]
    exact ⟨_, rfl⟩
  obtain ⟨group, finished⟩ := finished
  -- nothing is pending before the pattern, so the pattern alone is what is finished
  refine ⟨[group], ?_⟩
  rw [Batch.merge, Batch.mergeFrom, if_neg (by simp [Batch.Pending.overflows, Batch.Pending.isEmpty]),
    Batch.mergeFrom, if_neg (by simp [Batch.Pending.push, Batch.Pending.isEmpty]), finished]
  rfl

theorem select_filled {limit issued : Nat} {groups : List BatchGroup}
    (merged : Batch.merge limit issued [(slotted before slot after).pattern] = .ok groups)
    (filled : (value slot.name).toList ≠ [])
    (admitted : ∀ c ∈ (value slot.name).toList, slot.valueType.admits c) :
    Machine.select groups ((slotted before slot after).filled value)
      = some (0, [(slot.name, value slot.name)]) := by
  have arise : ∀ pattern ∈ [(slotted before slot after).pattern], pattern.Arises := by
    simpa using (slotted before slot after).arises
  have compile : ∀ pattern ∈ [(slotted before slot after).pattern], pattern.TypesCompile := by
    simpa using (slotted before slot after).typesCompile
  have alone : Batch.selectAlone ((slotted before slot after).filled value) 0
      [(slotted before slot after).pattern] = some (0, [(slot.name, value slot.name)]) := by
    rw [Batch.selectAlone, matchAlone_filled filled admitted]
  obtain ⟨-, something⟩ := (Batch.merge_partition merged).select arise compile List.drop_zero _
  -- no pattern stands before the only one
  exact (something 0 _ alone).mpr (Batch.undisturbed_of_counts merged (by simp) 0)

end Segment

end Signpost

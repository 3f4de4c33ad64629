import Mathlib.Data.List.Chain
import Signpost.Proofs.Pattern.Origin

/-!
# Parts of patterns

Cutting a pattern never leaves two texts side by side, because text is collected up to the next
placeholder. A pattern without parameters is therefore one text, or empty.
-/
namespace Signpost

namespace PatternPiece

def isText : PatternPiece → Bool
  | .text _ => true
  | .placeholder .. => false

/-- Of two neighbours at least one is a placeholder. -/
def Separated (pieces : List PatternPiece) : Prop :=
  pieces.IsChain fun first second => first.isText = false ∨ second.isText = false

/-- The pieces begin with a placeholder, if there are any. -/
def Opens (pieces : List PatternPiece) : Prop := ∀ first ∈ pieces.head?, first.isText = false

end PatternPiece

open PatternPiece

namespace CutMode

def isText : CutMode → Bool
  | .text _ => true
  | .placeholder .. => false

theorem push_isText (mode : CutMode) (chars : List Char) :
    (mode.push chars).isText = mode.isText := by
  cases mode with
  | text => rfl
  | placeholder => rfl

end CutMode

theorem withText_separated {read : List Char} {pieces : List PatternPiece}
    (separated : Separated pieces) (opens : Opens pieces) : Separated (withText read pieces) := by
  rw [withText]
  split
  · exact separated
  · exact List.isChain_cons.mpr ⟨fun second head => .inr (opens second head), separated⟩

/-- Text is collected up to a placeholder, and inside a placeholder that one comes next. -/
theorem cutPattern_separated (index : Nat) (mode : CutMode) (chars : List Char) :
    Separated (cutPattern index mode chars).1 ∧
      (mode.isText = false → Opens (cutPattern index mode chars).1) := by
  have stops : Separated [] ∧ Opens [] := ⟨.nil, by simp [Opens]⟩
  fun_induction cutPattern index mode chars with
  | case1 index read => exact ⟨withText_separated stops.1 stops.2, by simp [CutMode.isText]⟩
  | case2 | case3 => exact ⟨stops.1, fun _ => stops.2⟩
  | case4 index mode escaped rest kept ih =>
    rw [CutMode.push_isText] at ih
    exact ih
  -- the text ends at an opener, so what follows begins with a placeholder
  | case5 index c rest _ _ next read opener pieces fault cut ih =>
    rw [cut] at ih
    exact ⟨withText_separated ih.1 (ih.2 rfl), by simp [CutMode.isText]⟩
  | case6 | case7 => exact ⟨stops.1, fun _ => stops.2⟩
  | case8 index c rest _ _ next read _ _ _ ih => exact ih
  | case9 index c rest _ _ next required start depth read _ ih => exact ih
  | case10 index c rest _ _ next required start depth read _ _ pieces fault cut ih =>
    rw [cut] at ih
    exact ⟨List.isChain_cons.mpr ⟨fun _ _ => .inl rfl, ih.1⟩, fun _ => by simp [Opens, isText]⟩
  | case11 index c rest _ _ next required start depth read _ _ _ ih => exact ih
  | case12 index c rest _ _ next required start depth read _ _ _ ih => exact ih

/-- Of two neighbouring parts at least one refers to a parameter. -/
def PatternPart.Separated (parts : List PatternPart) : Prop :=
  parts.IsChain fun first second =>
    (∃ index, first = .parameter index) ∨ ∃ index, second = .parameter index

/-- Texts become literals and placeholders become parameters, so the parts stay separated. -/
theorem resolvePieces_separated {known parameters : List Parameter} {pieces : List PatternPiece}
    {parts : List PatternPart} (resolved : resolvePieces known pieces = .ok (parts, parameters))
    (separated : Separated pieces) :
    PatternPart.Separated parts ∧
      (Opens pieces → ∀ first ∈ parts.head?, ∃ index, first = .parameter index) := by
  induction pieces generalizing known parts with
  | nil =>
    cases resolved
    exact ⟨.nil, by simp⟩
  | cons piece rest ih =>
    obtain ⟨apart, others⟩ := List.isChain_cons.mp separated
    cases piece with
    | text text =>
      obtain ⟨later, found, rfl⟩ := resolvePieces_text_iff.mp resolved
      obtain ⟨kept, begins⟩ := ih found others
      -- behind a text comes a placeholder, because two texts never stand side by side
      have opens : Opens rest := by
        intro second head
        rcases apart second head with text | placeholder
        · cases text
        · exact placeholder
      refine ⟨List.isChain_cons.mpr ⟨fun second head => .inr (begins opens second head), kept⟩, ?_⟩
      intro opens
      cases opens _ rfl
    | placeholder required body =>
      obtain ⟨parameter, later, taken, found, rfl⟩ := resolvePieces_placeholder_iff.mp resolved
      refine ⟨List.isChain_cons.mpr ⟨fun _ _ => .inl ⟨_, rfl⟩, (ih found others).1⟩, ?_⟩
      intro _ first head
      cases head
      exact ⟨_, rfl⟩

/-- Parts that refer to no parameter are one text, or none. -/
theorem parts_of_unparameterized {parts : List PatternPart}
    (separated : PatternPart.Separated parts) (none : partIndices parts = []) :
    parts = [] ∨ ∃ text, parts = [.literal text] := by
  match parts with
  | [] => exact .inl rfl
  | .parameter index :: rest => cases none
  | [.literal only] => exact .inr ⟨only, rfl⟩
  | .literal first :: .parameter index :: rest => cases none
  | .literal first :: .literal second :: rest =>
    obtain ⟨apart, -⟩ := List.isChain_cons_cons.mp separated
    rcases apart with ⟨index, equal⟩ | ⟨index, equal⟩
    · cases equal
    · cases equal

namespace Pattern

theorem read_separated {source : String} {pattern : Pattern} (taken : read source = .ok pattern) :
    PatternPart.Separated pattern.parts := by
  obtain ⟨-, -, resolved⟩ := readStripped_ok_iff.mp (read_ok_iff.mp taken)
  exact (resolvePieces_separated resolved (cutPattern_separated 0 (.text []) _).1).1

theorem Arises.separated {pattern : Pattern} (arises : pattern.Arises) :
    PatternPart.Separated pattern.parts := by
  induction arises with
  | read taken => exact read_separated taken
  | declared _ changed ih =>
    rw [(RouteTree.declareInPattern_origin changed).1]
    exact ih

/-- A pattern without parameters has a text. -/
theorem Arises.literal {pattern : Pattern} (arises : pattern.Arises)
    (plain : pattern.isLiteral = true) : ∃ text, pattern.literal? = some text := by
  have indices := arises.ordered.1
  rw [List.isEmpty_iff.mp plain] at indices
  rw [literal?, if_pos plain]
  rcases parts_of_unparameterized arises.separated indices with none | ⟨text, one⟩
  · exact ⟨"", by rw [none]⟩
  · exact ⟨text, by rw [one]⟩

end Pattern

end Signpost

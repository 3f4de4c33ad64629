import Signpost.Text.Ranges

/-!
# Blanks

The characters with the property White_Space, and the removal of a class of characters from both
ends of a text.
-/
namespace Signpost.Text

/-- The code points with the property White_Space. -/
def blankRanges : List (Nat × Nat) := [
    (0x9, 0xD), (0x20, 0x20), (0x85, 0x85), (0xA0, 0xA0), (0x1680, 0x1680), (0x2000, 0x200A),
    (0x2028, 0x2029), (0x202F, 0x202F), (0x205F, 0x205F), (0x3000, 0x3000)]

def isBlank (c : Char) : Bool := inRanges c.toNat blankRanges

/-- What remains when the characters of a class are taken off both ends. -/
def strip (drop : Char → Bool) (text : List Char) : List Char :=
  ((text.dropWhile drop).reverse.dropWhile drop).reverse

def trim (text : String) : String := String.ofList (strip isBlank text.toList)

/-- Nothing but blanks. -/
def blankText (text : String) : Bool := text.toList.all isBlank

/-- Nothing remains exactly of what is all in the class. -/
theorem strip_eq_nil_iff (drop : Char → Bool) (text : List Char) :
    strip drop text = [] ↔ text.all drop = true := by
  have front (chars : List Char) : chars.dropWhile drop = [] ↔ chars.all drop = true := by
    constructor
    · intro none
      have kept := @List.any_dropWhile _ drop chars
      rw [none] at kept
      simpa using kept.symm
    · intro all
      have dropped := @List.dropWhile_append_of_pos _ drop chars [] (List.all_eq_true.mp all)
      rwa [List.append_nil] at dropped
  rw [strip, List.reverse_eq_nil_iff, front, List.all_reverse]
  constructor
  · intro all
    rw [← front]
    -- a first character that stays behind would not be in the class
    cases left : text.dropWhile drop with
    | nil => rfl
    | cons first rest =>
      have stays := List.head?_dropWhile_not drop text
      rw [left] at all stays
      simp_all
  · intro all
    rw [(front text).mpr all, List.all_nil]

theorem trim_eq_empty_iff (text : String) : trim text = "" ↔ blankText text = true := by
  rw [trim, ← String.toList_eq_nil_iff, String.toList_ofList, strip_eq_nil_iff, blankText]

end Signpost.Text

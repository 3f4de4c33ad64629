import Signpost.Pattern.Reader
import Signpost.Proofs.Success

/-!
# Steps of reading a pattern

A pattern is cut character by character, and a backslash is taken with the character behind it. What one
of them does depends on where the cutting stands: in literal text, or in a placeholder at some depth of
inner brackets. The pieces are resolved one after another, each placeholder behind the parameters that
are known.
-/
namespace Signpost

/-! ### Bytes -/

/-- How many bytes characters take. -/
def byteSize (chars : List Char) : Nat := (String.ofList chars).utf8ByteSize

@[simp]
theorem byteSize_nil : byteSize [] = 0 := rfl

@[simp]
theorem byteSize_cons (c : Char) (chars : List Char) :
    byteSize (c :: chars) = c.utf8Size + byteSize chars := by
  simp [byteSize, String.ofList_cons, String.utf8ByteSize_append]

@[simp]
theorem byteSize_append (front rest : List Char) :
    byteSize (front ++ rest) = byteSize front + byteSize rest := by
  rw [byteSize, String.ofList_append, String.utf8ByteSize_append, byteSize, byteSize]

/-! ### Characters with a meaning -/

/-- The characters that mean something by themselves where literal text is read. -/
def isGuarded (c : Char) : Bool := c ∈ ['\\', '\x7b', '[', '\x7d', ']', '/']

namespace Placeholder

def opener (required : Bool) : Char := if required then '\x7b' else '['

def closer (required : Bool) : Char := if required then '\x7d' else ']'

/-- The characters that open brackets inside a placeholder. -/
def opens (c : Char) : Bool := c ∈ ['\x7b', '[', '(']

/-- The characters that close brackets inside a placeholder. -/
def closes (c : Char) : Bool := c ∈ ['\x7d', ']', ')']

/-- The depth of inner brackets behind a character, unless it closes the placeholder. Any closer closes
the innermost bracket; where no bracket is open, a closer of another kind is text. -/
def deepen? (required : Bool) (depth : Nat) (c : Char) : Option Nat :=
  if opens c then some (depth + 1)
  else if closes c then
    if 0 < depth then some (depth - 1) else if c = closer required then none else some 0
  else some depth

section

variable {required : Bool} {depth : Nat} {c : Char}

theorem deepen?_closer (required : Bool) : deepen? required 0 (closer required) = none := by
  cases required <;> rfl

theorem deepen?_eq_none (stops : deepen? required depth c = none) :
    depth = 0 ∧ c = closer required := by
  rw [deepen?] at stops
  split at stops
  · cases stops
  · split at stops
    · split at stops
      · cases stops
      next level =>
        split at stops
        next same => exact ⟨by omega, same⟩
        next => cases stops
    · cases stops

end

end Placeholder

/-! ### One character -/

open Placeholder

/-- What is kept of an escape: the character in literal text, all of it in a placeholder. -/
def CutMode.escape (mode : CutMode) (c : Char) : List Char :=
  match mode with
  | .text _ => [c]
  | .placeholder .. => ['\\', c]

section

variable {index start depth : Nat} {read rest : List Char} {c : Char}

theorem cutPattern_escaped (index : Nat) (mode : CutMode) (c : Char) (rest : List Char) :
    cutPattern index mode ('\\' :: c :: rest)
      = cutPattern (index + byteSize ['\\', c]) (mode.push (mode.escape c)) rest := by
  have backslash : Char.utf8Size '\\' = 1 := by decide
  have size : index + byteSize ['\\', c] = index + 1 + c.utf8Size := by
    simp [backslash, Nat.add_assoc]
  rw [size]
  cases mode with
  | text read => rw [cutPattern, CutMode.escape]
  | placeholder required start depth read => rw [cutPattern, CutMode.escape]

theorem cutPattern_text (unescaped : c ≠ '\\') :
    cutPattern index (.text read) (c :: rest)
      = if c = '\x7b' ∨ c = '[' then
          (withText read
              (cutPattern (index + byteSize [c]) (.placeholder (c = '\x7b') index 0 []) rest).1,
            (cutPattern (index + byteSize [c]) (.placeholder (c = '\x7b') index 0 []) rest).2)
        else if c = '\x7d' ∨ c = ']' then ([], some (.unexpectedCloser index c))
        else if c = '/' then ([], some (.segmentSeparator index))
        else cutPattern (index + byteSize [c]) (.text (c :: read)) rest := by
  have size : byteSize [c] = c.utf8Size := by simp
  rw [size, cutPattern]
  · rfl
  · exact fun equal _ => unescaped equal
  · exact fun _ _ equal _ => unescaped equal

theorem cutPattern_placeholder {required : Bool} (unescaped : c ≠ '\\') :
    cutPattern index (.placeholder required start depth read) (c :: rest)
      = match deepen? required depth c with
        | some deeper =>
          cutPattern (index + byteSize [c]) (.placeholder required start deeper (c :: read)) rest
        | none =>
          (.placeholder required read.reverse
              :: (cutPattern (index + byteSize [c]) (.text []) rest).1,
            (cutPattern (index + byteSize [c]) (.text []) rest).2) := by
  have size : byteSize [c] = c.utf8Size := by simp
  rw [size, cutPattern]
  · cases step : deepen? required depth c with
    | none =>
      obtain ⟨rfl, rfl⟩ := deepen?_eq_none step
      cases required <;> simp [closer]
    | some deeper =>
      -- the cutting asks for the closer of the placeholder before it asks for an inner one
      simp only [deepen?, opens, closes, decide_eq_true_eq, List.mem_cons, List.not_mem_nil,
        or_false] at step
      split at step
      next opener =>
        cases step
        rw [if_pos opener]
      next free =>
        rw [if_neg free]
        split at step
        next ends =>
          split at step
          next inner =>
            cases step
            rw [if_neg fun both => absurd both.1 (by omega), if_pos ⟨inner, ends⟩]
          next level =>
            have zero : depth = 0 := by omega
            split at step
            · cases step
            next other =>
              cases step
              rw [if_neg fun both => other both.2, if_neg fun both => level both.1, zero]
              rfl
        next plain =>
          cases step
          rw [if_neg, if_neg fun both => plain both.2]
          · rfl
          · rintro ⟨-, rfl⟩
            cases required <;> simp at plain
  · exact fun equal _ => unescaped equal
  · exact fun _ _ equal _ => unescaped equal

theorem cutPattern_literal (free : isGuarded c = false) :
    cutPattern index (.text read) (c :: rest)
      = cutPattern (index + byteSize [c]) (.text (c :: read)) rest := by
  simp only [isGuarded, List.mem_cons, List.not_mem_nil, or_false, decide_eq_false_iff_not,
    not_or] at free
  rw [cutPattern_text free.1]
  simp [free]

theorem cutPattern_opener (required : Bool) :
    cutPattern index (.text read) (opener required :: rest)
      = (withText read (cutPattern (index + byteSize [opener required])
            (.placeholder required index 0 []) rest).1,
          (cutPattern (index + byteSize [opener required])
            (.placeholder required index 0 []) rest).2) := by
  cases required <;>
    · rw [cutPattern_text (by decide)]
      simp [opener]

theorem cutPattern_unexpected (closer : c = '\x7d' ∨ c = ']') :
    cutPattern index (.text read) (c :: rest) = ([], some (.unexpectedCloser index c)) := by
  rcases closer with rfl | rfl <;>
    · rw [cutPattern_text (by decide)]
      simp

theorem cutPattern_separator (index : Nat) (read rest : List Char) :
    cutPattern index (.text read) ('/' :: rest) = ([], some (.segmentSeparator index)) := by
  rw [cutPattern_text (by decide)]
  simp

theorem cutPattern_inside {required : Bool} {deeper : Nat} (unescaped : c ≠ '\\')
    (step : deepen? required depth c = some deeper) :
    cutPattern index (.placeholder required start depth read) (c :: rest)
      = cutPattern (index + byteSize [c]) (.placeholder required start deeper (c :: read)) rest := by
  rw [cutPattern_placeholder unescaped, step]

theorem cutPattern_closer (required : Bool) :
    cutPattern index (.placeholder required start 0 read) (closer required :: rest)
      = (.placeholder required read.reverse
            :: (cutPattern (index + byteSize [closer required]) (.text []) rest).1,
          (cutPattern (index + byteSize [closer required]) (.text []) rest).2) := by
  have unescaped : closer required ≠ '\\' := by cases required <;> decide
  rw [cutPattern_placeholder unescaped, deepen?_closer]

end

/-! ### One piece -/

section

variable {known parameters : List Parameter} {pieces : List PatternPiece} {parts : List PatternPart}

theorem resolvePieces_text_iff {text : List Char} :
    resolvePieces known (.text text :: pieces) = .ok (parts, parameters) ↔
      ∃ later, resolvePieces known pieces = .ok (later, parameters) ∧
        parts = .literal (String.ofList text) :: later := by
  rw [resolvePieces, bind_ok_iff]
  constructor
  · rintro ⟨⟨later, all⟩, found, only⟩
    cases pure_ok_iff.mp only
    exact ⟨later, found, rfl⟩
  · rintro ⟨later, found, rfl⟩
    exact ⟨(later, parameters), found, rfl⟩

theorem resolvePieces_placeholder_iff {required : Bool} {body : List Char} :
    resolvePieces known (.placeholder required body :: pieces) = .ok (parts, parameters) ↔
      ∃ parameter later, readParameter known required body = .ok parameter ∧
        resolvePieces (known ++ [parameter]) pieces = .ok (later, parameters) ∧
        parts = .parameter known.length :: later := by
  rw [resolvePieces, bind_ok_iff]
  constructor
  · rintro ⟨parameter, taken, more⟩
    obtain ⟨⟨later, all⟩, found, only⟩ := bind_ok_iff.mp more
    cases pure_ok_iff.mp only
    exact ⟨parameter, later, taken, found, rfl⟩
  · rintro ⟨parameter, later, taken, found, rfl⟩
    exact ⟨parameter, taken, bind_ok_iff.mpr ⟨(later, parameters), found, rfl⟩⟩

end

/-! ### Whole patterns -/

namespace Pattern

variable {source : String} {pattern : Pattern}

theorem readStripped_ok_iff :
    readStripped source = .ok pattern ↔
      pattern.source = source ∧ (cutPattern 0 (.text []) source.toList).2 = none ∧
        resolvePieces [] (cutPattern 0 (.text []) source.toList).1
          = .ok (pattern.parts, pattern.parameters) := by
  rw [readStripped]
  cases cutPattern 0 (.text []) source.toList with
  | mk pieces fault =>
    dsimp only
    rw [bind_ok_iff]
    constructor
    · rintro ⟨⟨parts, parameters⟩, resolved, finished⟩
      cases fault with
      | some problem => cases finished
      | none =>
        cases pure_ok_iff.mp finished
        exact ⟨rfl, rfl, resolved⟩
    · rintro ⟨rfl, rfl, resolved⟩
      exact ⟨(pattern.parts, pattern.parameters), resolved, rfl⟩

theorem read_ok_iff :
    Pattern.read source = .ok pattern ↔ readStripped (stripSlashes source) = .ok pattern := by
  rw [Pattern.read, mapError_ok_iff]

end Pattern

end Signpost

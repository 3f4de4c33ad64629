import Signpost.Proofs.Pattern.Cutting

/-!
# Positions of faults

A pattern that is refused is named without the slashes around it, and a position in the fault counts
the bytes in front of the character it speaks of. That character is unescaped, and what stands in front
of it is read without a fault, so the fault is the first one. A placeholder is called unterminated only
if no closer behind its opener matches, and a backslash is alone only at the end.
-/
namespace Signpost

open Placeholder

/-- A character at a position in bytes that no backslash in front of it escapes. -/
structure StandsAt (pattern : List Char) (index : Nat) (front : List Char) (c : Char)
    (rest : List Char) : Prop where
  split : pattern = front ++ c :: rest
  position : index = byteSize front
  unescaped : isWhole front = true

/-- What a fault with a position says about the pattern. -/
def PatternFault.Located (pattern : List Char) : PatternFault → Prop
  | .unexpectedCloser index found =>
    (found = '\x7d' ∨ found = ']') ∧
      ∃ front rest, StandsAt pattern index front found rest ∧ Readable front
  | .segmentSeparator index => ∃ front rest, StandsAt pattern index front '/' rest ∧ Readable front
  | .unterminatedPlaceholder start =>
    ∃ front rest required, StandsAt pattern start front (opener required) rest ∧ Readable front ∧
      ∀ body behind, rest = body ++ closer required :: behind →
        innerDepth? required 0 body ≠ some 0
  | .loneEscape index => ∃ front, StandsAt pattern index front '\\' []
  | _ => True

/-! ### Faults without a position -/

/-- The fault lies in the body of a placeholder and has no position. -/
def PatternFault.isInner : PatternFault → Bool
  | .unexpectedCloser .. | .segmentSeparator _ | .unterminatedPlaceholder _ | .loneEscape _ => false
  | _ => true

theorem PatternFault.located_of_isInner {fault : PatternFault} (inner : fault.isInner = true)
    (pattern : List Char) : fault.Located pattern := by
  cases fault with
  | unexpectedCloser | segmentSeparator | unterminatedPlaceholder | loneEscape => cases inner
  | _ => trivial

theorem checkName_error {known : List Parameter} {name : List Char} {fault : PatternFault}
    (refused : checkName known name = .error fault) : fault.isInner = true := by
  cases name with
  | nil =>
    cases refused
    rfl
  | cons first others =>
    rw [checkName] at refused
    split at refused
    · cases refused
      rfl
    · split at refused
      · cases refused
        rfl
      · split at refused
        · cases refused
          rfl
        · cases refused

theorem customType_error {token : String} {fault : PatternFault}
    (refused : customType token = .error fault) : fault.isInner = true := by
  rw [customType] at refused
  split at refused
  · cases refused
    rfl
  · split at refused
    · cases refused
    · cases refused
      rfl

theorem readTypeToken_error {tokens : List (List Char)} {fault : PatternFault}
    (refused : readTypeToken tokens = .error fault) : fault.isInner = true := by
  cases tokens with
  | nil => cases refused
  | cons token rest =>
    rw [readTypeToken] at refused
    split at refused
    · cases refused
      rfl
    · split at refused
      · cases refused
      · split at refused
        · cases refused
        · rcases bind_error_iff.mp refused with custom | ⟨_, -, done⟩
          · exact customType_error custom
          · cases done

theorem readFunctionTokens_error {tokens : List (List Char)} {fault : PatternFault}
    (refused : readFunctionTokens tokens = .error fault) : fault.isInner = true := by
  induction tokens with
  | nil => cases refused
  | cons token rest ih =>
    rw [readFunctionTokens, List.mapM_cons] at refused
    rcases bind_error_iff.mp refused with here | ⟨_, -, later⟩
    · split at here
      · cases here
        rfl
      · split at here
        · cases here
        · cases here
          rfl
    · rcases bind_error_iff.mp later with behind | ⟨_, -, done⟩
      · exact ih behind
      · cases done

theorem readParameter_error {known : List Parameter} {required : Bool} {body : List Char}
    {fault : PatternFault} (refused : readParameter known required body = .error fault) :
    fault.isInner = true := by
  rw [readParameter] at refused
  rcases bind_error_iff.mp refused with name | ⟨_, -, later⟩
  · exact checkName_error name
  · rcases bind_error_iff.mp later with typed | ⟨_, -, last⟩
    · exact readTypeToken_error typed
    · rcases bind_error_iff.mp last with chain | ⟨_, -, done⟩
      · exact readFunctionTokens_error chain
      · cases done

theorem resolvePieces_error {known : List Parameter} {pieces : List PatternPiece}
    {fault : PatternFault} (refused : resolvePieces known pieces = .error fault) :
    fault.isInner = true := by
  induction pieces generalizing known with
  | nil => cases refused
  | cons piece rest ih =>
    cases piece with
    | text text =>
      rcases bind_error_iff.mp refused with later | ⟨_, -, done⟩
      · exact ih later
      · cases done
    | placeholder required body =>
      rcases bind_error_iff.mp refused with here | ⟨_, -, more⟩
      · exact readParameter_error here
      · rcases bind_error_iff.mp more with later | ⟨_, -, done⟩
        · exact ih later
        · cases done

/-! ### Faults with a position -/

/-- Where pieces have been resolved, a fault at which the cutting stops is where it says. -/
theorem cutPattern_located {pattern : List Char} {pieces : List PatternPiece} {fault : PatternFault}
    (cut : cutPattern 0 (.text []) pattern = (pieces, some fault)) (resolves : Resolves pieces) :
    fault.Located pattern := by
  obtain ⟨front, rest, earlier, mode, rfl, reached, stops⟩ := exists_stop pattern
  rw [reached.cut] at cut
  obtain ⟨rfl, stopped⟩ := Prod.mk.inj cut
  cases stops with
  | ended =>
    cases mode with
    | text => cases stopped
    | placeholder required start depth read =>
      -- the placeholder is still open at the end, so nothing behind its opener has closed it
      cases stopped
      obtain ⟨before, inner, first, text, rfl, rfl, level, opened, rfl⟩ := reached.placeholder
      rw [List.append_nil]
      refine ⟨before, inner, required, ⟨rfl, rfl, opened.isWhole⟩, ?_, ?_⟩
      · exact opened.readable resolves.front.front
      · rintro body behind rfl
        exact innerDepth?_unclosed level
  | lone =>
    rw [cutPattern] at stopped
    cases stopped
    exact ⟨front, rfl, rfl, reached.isWhole⟩
  | closer closer =>
    rw [cutPattern_unexpected closer] at stopped
    cases stopped
    exact ⟨closer, front, _, ⟨rfl, rfl, reached.isWhole⟩, reached.readable resolves.front⟩
  | separator =>
    rw [cutPattern_separator] at stopped
    cases stopped
    exact ⟨front, _, ⟨rfl, rfl, reached.isWhole⟩, reached.readable resolves.front⟩

/-! ### Slashes around a pattern -/

/-- A text is what is left of another one when the slashes around it are taken off. -/
structure Unslashed (source pattern : String) : Prop where
  split : ∃ before behind, source.toList
    = List.replicate before '/' ++ pattern.toList ++ List.replicate behind '/'
  front : pattern.toList.head? ≠ some '/'
  back : pattern.toList.getLast? ≠ some '/'

theorem unslashed_stripSlashes (source : String) : Unslashed source (stripSlashes source) := by
  have pattern : (stripSlashes source).toList = Text.strip (· == '/') source.toList := by
    rw [stripSlashes, String.toList_ofList]
  refine ⟨?_, ?_, ?_⟩
  · obtain ⟨before, behind, split, early, late⟩ := exists_around (· == '/') source.toList
    refine ⟨before.length, behind.length, ?_⟩
    rw [pattern, ← List.eq_replicate_length.mpr fun c member => by simpa using early c member,
      ← List.eq_replicate_length.mpr fun c member => by simpa using late c member]
    exact split
  · rw [pattern]
    intro first
    cases strip_first '/' first
  · rw [pattern]
    intro last
    cases strip_last '/' last

namespace Pattern

theorem readStripped_located {source : String} {fault : PatternFault}
    (refused : readStripped source = .error fault) : fault.Located source.toList := by
  rw [readStripped] at refused
  rcases bind_error_iff.mp refused with inner | ⟨⟨parts, parameters⟩, resolved, finished⟩
  · exact PatternFault.located_of_isInner (resolvePieces_error inner) _
  · cases cut : cutPattern 0 (.text []) source.toList with
    | mk pieces stopped =>
      rw [cut] at resolved finished
      cases stopped with
      | none => cases finished
      | some problem =>
        cases finished
        exact cutPattern_located cut ⟨parts, parameters, resolved⟩

/-- The error of a pattern that is refused names the pattern without the slashes around it, and a position
in it is the one of the first character that cannot be read. -/
theorem read_error_located {source : String} {error : PatternError}
    (refused : Pattern.read source = .error error) :
    Unslashed source error.pattern ∧ error.fault.Located error.pattern.toList := by
  rw [Pattern.read] at refused
  cases result : readStripped (stripSlashes source) with
  | ok pattern =>
    rw [result] at refused
    cases refused
  | error fault =>
    rw [result] at refused
    cases refused
    exact ⟨unslashed_stripSlashes source, readStripped_located result⟩

/-- A closer without an opener, behind an escape, a placeholder and characters of several bytes. -/
theorem read_error_located_stray :
    Pattern.read "/é\\]\x7bid:int\x7dß]x/"
      = .error ⟨"é\\]\x7bid:int\x7dß]x", .unexpectedCloser 14 ']'⟩ ∧
    Unslashed "/é\\]\x7bid:int\x7dß]x/" "é\\]\x7bid:int\x7dß]x" ∧
    ∃ front rest, StandsAt "é\\]\x7bid:int\x7dß]x".toList 14 front ']' rest ∧ Readable front := by
  have refused : Pattern.read "/é\\]\x7bid:int\x7dß]x/"
      = .error ⟨"é\\]\x7bid:int\x7dß]x", .unexpectedCloser 14 ']'⟩ := by decide +kernel
  obtain ⟨bare, -, located⟩ := read_error_located refused
  exact ⟨refused, bare, located⟩

end Pattern

end Signpost

import Signpost.Proofs.Pattern.Spelling

/-!
# How far a pattern has been cut

A pattern is cut from left to right, and at every point the characters in front of it say where the
cutting stands: in literal text, or in a placeholder at some depth of inner brackets. The cutting only
stops at the end, at a backslash with nothing behind it, and in literal text at a closer or a slash; so
what it stops at is the first thing that cannot be read.
-/
namespace Signpost

/-! ### Escapes -/

/-- Characters are taken one by one, and a backslash with the one behind it. -/
theorem escapes_induction {motive : List Char → Prop} (nil : motive []) (lone : motive ['\\'])
    (escaped : ∀ c rest, motive rest → motive ('\\' :: c :: rest))
    (plain : ∀ c rest, c ≠ '\\' → motive rest → motive (c :: rest)) (chars : List Char) :
    motive chars :=
  match chars with
  | [] => nil
  | [c] => if same : c = '\\' then same ▸ lone else plain c [] same nil
  | c :: next :: rest =>
    if same : c = '\\' then
      same ▸ escaped next rest (escapes_induction nil lone escaped plain rest)
    else plain c (next :: rest) same (escapes_induction nil lone escaped plain (next :: rest))

/-- No escape is left open at the end: whatever follows is read by itself. -/
def isWhole : List Char → Bool
  | [] => true
  | ['\\'] => false
  | '\\' :: _ :: rest => isWhole rest
  | _ :: rest => isWhole rest

theorem isWhole_cons {c : Char} (unescaped : c ≠ '\\') (rest : List Char) :
    isWhole (c :: rest) = isWhole rest := by
  rw [isWhole]
  · exact fun same _ => unescaped same
  · exact fun _ _ same _ => unescaped same

theorem isWhole_append {front : List Char} (whole : isWhole front = true) (rest : List Char) :
    isWhole (front ++ rest) = isWhole rest := by
  induction front using escapes_induction with
  | nil => rfl
  | lone => cases whole
  | escaped c more ih => exact ih whole
  | plain c more unescaped ih =>
    rw [isWhole_cons unescaped] at whole
    rw [List.cons_append, isWhole_cons unescaped, ih whole]

/-! ### Placeholders -/

namespace Placeholder

/-- The depth of inner brackets behind some characters, unless they close the placeholder or end inside an
escape. -/
def innerDepth? (required : Bool) (depth : Nat) : List Char → Option Nat
  | [] => some depth
  | ['\\'] => none
  | '\\' :: _ :: rest => innerDepth? required depth rest
  | c :: rest => (deepen? required depth c).bind fun deeper => innerDepth? required deeper rest

section

variable {required : Bool} {depth inner : Nat} {first : List Char} {c : Char}

theorem innerDepth?_cons (unescaped : c ≠ '\\') (rest : List Char) :
    innerDepth? required depth (c :: rest)
      = (deepen? required depth c).bind fun deeper => innerDepth? required deeper rest := by
  rw [innerDepth?]
  · exact fun same _ => unescaped same
  · exact fun _ _ same _ => unescaped same

theorem innerDepth?_append (read : innerDepth? required depth first = some inner) (rest : List Char) :
    innerDepth? required depth (first ++ rest) = innerDepth? required inner rest := by
  induction first using escapes_induction generalizing depth with
  | nil =>
    cases read
    rfl
  | lone => cases read
  | escaped c more ih => exact ih read
  | plain c more unescaped ih =>
    rw [innerDepth?_cons unescaped] at read
    obtain ⟨deeper, step, later⟩ := Option.bind_eq_some_iff.mp read
    rw [List.cons_append, innerDepth?_cons unescaped, step]
    exact ih later

theorem isWhole_of_innerDepth? (read : innerDepth? required depth first = some inner) :
    isWhole first = true := by
  induction first using escapes_induction generalizing depth with
  | nil => rfl
  | lone => cases read
  | escaped c more ih => exact ih read
  | plain c more unescaped ih =>
    rw [innerDepth?_cons unescaped] at read
    obtain ⟨deeper, step, later⟩ := Option.bind_eq_some_iff.mp read
    rw [isWhole_cons unescaped]
    exact ih later

/-- What does not close a placeholder has no closer of it where no bracket is open. -/
theorem innerDepth?_unclosed {rest : List Char}
    (read : innerDepth? required depth (first ++ closer required :: rest) = some inner) :
    innerDepth? required depth first ≠ some 0 := by
  intro level
  have unescaped : closer required ≠ '\\' := by cases required <;> decide
  rw [innerDepth?_append level, innerDepth?_cons unescaped, deepen?_closer] at read
  cases read

end

end Placeholder

open Placeholder

/-! ### Steps one after another -/

/-- The pieces that have been cut behind the front of a pattern, and where the cutting stands. -/
inductive CutTo : List Char → List PatternPiece → CutMode → Prop
  | start : CutTo [] [] (.text [])
  | escaped {front : List Char} {pieces : List PatternPiece} {mode : CutMode} (c : Char)
    (before : CutTo front pieces mode) : CutTo (front ++ ['\\', c]) pieces (mode.push (mode.escape c))
  | literal {front read : List Char} {pieces : List PatternPiece} {c : Char}
    (free : isGuarded c = false) (before : CutTo front pieces (.text read)) :
    CutTo (front ++ [c]) pieces (.text (c :: read))
  | opened {front read : List Char} {pieces : List PatternPiece} (required : Bool)
    (before : CutTo front pieces (.text read)) :
    CutTo (front ++ [opener required]) (pieces ++ withText read [])
      (.placeholder required (byteSize front) 0 [])
  | inside {front read : List Char} {pieces : List PatternPiece} {required : Bool}
    {start depth deeper : Nat} {c : Char} (unescaped : c ≠ '\\')
    (step : deepen? required depth c = some deeper)
    (before : CutTo front pieces (.placeholder required start depth read)) :
    CutTo (front ++ [c]) pieces (.placeholder required start deeper (c :: read))
  | closed {front read : List Char} {pieces : List PatternPiece} {required : Bool} {start : Nat}
    (before : CutTo front pieces (.placeholder required start 0 read)) :
    CutTo (front ++ [closer required]) (pieces ++ [.placeholder required read.reverse]) (.text [])

theorem withText_append (read : List Char) (pieces : List PatternPiece) :
    withText read pieces = withText read [] ++ pieces := by
  rw [withText, withText]
  split <;> rfl

namespace CutTo

variable {front rest : List Char} {pieces : List PatternPiece} {mode : CutMode}

/-- What follows is cut from there on. -/
theorem cut (reached : CutTo front pieces mode) (rest : List Char) :
    cutPattern 0 (.text []) (front ++ rest)
      = (pieces ++ (cutPattern (byteSize front) mode rest).1,
          (cutPattern (byteSize front) mode rest).2) := by
  induction reached generalizing rest with
  | start => rfl
  | escaped c _ ih =>
    rw [List.append_assoc, ih, byteSize_append, ← cutPattern_escaped]
    rfl
  | literal free _ ih =>
    rw [List.append_assoc, ih, List.singleton_append, cutPattern_literal free, byteSize_append]
  | opened required _ ih =>
    rw [List.append_assoc, ih, List.singleton_append, cutPattern_opener, withText_append,
      byteSize_append, List.append_assoc]
  | inside unescaped step _ ih =>
    rw [List.append_assoc, ih, List.singleton_append, cutPattern_inside unescaped step,
      byteSize_append]
  | closed _ ih =>
    rw [List.append_assoc, ih, List.singleton_append, cutPattern_closer, byteSize_append,
      List.append_assoc]
    rfl

theorem isWhole (reached : CutTo front pieces mode) : Signpost.isWhole front = true := by
  have single {front : List Char} {c : Char} (whole : Signpost.isWhole front = true)
      (unescaped : c ≠ '\\') : Signpost.isWhole (front ++ [c]) = true := by
    rw [isWhole_append whole, isWhole_cons unescaped]
    rfl
  induction reached with
  | start => rfl
  | escaped c _ ih => exact isWhole_append ih ['\\', c]
  | literal free _ ih =>
    refine single ih ?_
    rintro rfl
    cases free
  | opened required _ ih => exact single ih (by cases required <;> decide)
  | inside unescaped _ _ ih => exact single ih unescaped
  | @closed _ _ _ required _ _ ih => exact single ih (by cases required <;> decide)

/-- A placeholder that is still open began behind literal text, and has not been closed since. -/
theorem placeholder {required : Bool} {start depth : Nat} {read : List Char}
    (reached : CutTo front pieces (.placeholder required start depth read)) :
    ∃ before inner earlier text, front = before ++ opener required :: inner ∧
      start = byteSize before ∧ innerDepth? required 0 inner = some depth ∧
      CutTo before earlier (.text text) ∧ pieces = earlier ++ withText text [] := by
  generalize equal : CutMode.placeholder required start depth read = mode at reached
  induction reached generalizing depth read with
  | start | literal | closed => cases equal
  | @escaped front pieces mode c _ ih =>
    cases mode with
    | text => cases equal
    | placeholder =>
      cases equal
      obtain ⟨before, inner, earlier, text, rfl, place, level, first, split⟩ := ih rfl
      refine ⟨before, inner ++ ['\\', c], earlier, text, by simp, place, ?_, first, split⟩
      rw [innerDepth?_append level]
      rfl
  | @opened front read pieces required before ih =>
    cases equal
    exact ⟨front, [], pieces, read, rfl, rfl, rfl, before, rfl⟩
  | @inside front read pieces required start depth deeper c unescaped step _ ih =>
    cases equal
    obtain ⟨before, inner, earlier, text, rfl, place, level, first, split⟩ := ih rfl
    refine ⟨before, inner ++ [c], earlier, text, by simp, place, ?_, first, split⟩
    rw [innerDepth?_append level, innerDepth?_cons unescaped, step]
    rfl

end CutTo

/-! ### Where the cutting stops -/

/-- What the cutting cannot go beyond: the end, a backslash alone, and in literal text a closer or a slash. -/
inductive Stops : CutMode → List Char → Prop
  | ended (mode : CutMode) : Stops mode []
  | lone (mode : CutMode) : Stops mode ['\\']
  | closer {read rest : List Char} {c : Char} (closer : c = '\x7d' ∨ c = ']') :
    Stops (.text read) (c :: rest)
  | separator {read rest : List Char} : Stops (.text read) ('/' :: rest)

/-- Every pattern is cut up to a point at which the cutting stops. -/
theorem exists_stop (chars : List Char) :
    ∃ front rest pieces mode, chars = front ++ rest ∧ CutTo front pieces mode ∧ Stops mode rest := by
  -- What has been cut so far is carried along, because the mode it ends in decides what the next
  -- character does.
  suffices further : ∀ front pieces mode, CutTo front pieces mode →
      ∃ front' rest pieces' mode', front ++ chars = front' ++ rest ∧ CutTo front' pieces' mode' ∧
        Stops mode' rest from further [] [] (.text []) .start
  induction chars using escapes_induction with
  | nil => exact fun front pieces mode reached => ⟨front, [], pieces, mode, rfl, reached, .ended mode⟩
  | lone => exact fun front pieces mode reached => ⟨front, _, pieces, mode, rfl, reached, .lone mode⟩
  | escaped c rest ih =>
    intro front pieces mode reached
    have later := ih _ _ _ (reached.escaped c)
    rwa [List.append_assoc] at later
  | plain c rest unescaped ih =>
    intro front pieces mode reached
    have step {pieces' : List PatternPiece} {mode' : CutMode}
        (next : CutTo (front ++ [c]) pieces' mode') :
        ∃ front' rest' pieces' mode', front ++ c :: rest = front' ++ rest' ∧
          CutTo front' pieces' mode' ∧ Stops mode' rest' := by
      have later := ih _ _ _ next
      rwa [List.append_assoc] at later
    cases mode with
    | text read =>
      cases guarded : isGuarded c with
      | false => exact step (.literal guarded reached)
      | true =>
        simp only [isGuarded, List.mem_cons, List.not_mem_nil, or_false, decide_eq_true_eq]
          at guarded
        rcases guarded with rfl | rfl | rfl | rfl | rfl | rfl
        · exact absurd rfl unescaped
        · exact step (.opened true reached)
        · exact step (.opened false reached)
        · exact ⟨front, _, pieces, _, rfl, reached, .closer (.inl rfl)⟩
        · exact ⟨front, _, pieces, _, rfl, reached, .closer (.inr rfl)⟩
        · exact ⟨front, _, pieces, _, rfl, reached, .separator⟩
    | placeholder required start depth read =>
      cases depth' : deepen? required depth c with
      | some deeper => exact step (.inside unescaped depth' reached)
      | none =>
        obtain ⟨rfl, rfl⟩ := deepen?_eq_none depth'
        exact step (.closed reached)

/-- A pattern that is cut without a fault is cut to its end, which is literal text. -/
theorem cutTo_of_faultless {chars : List Char}
    (faultless : (cutPattern 0 (.text []) chars).2 = none) :
    ∃ pieces read, CutTo chars pieces (.text read) := by
  obtain ⟨front, rest, pieces, mode, rfl, reached, stops⟩ := exists_stop chars
  rw [reached.cut] at faultless
  cases stops with
  | ended =>
    cases mode with
    | text read =>
      rw [List.append_nil]
      exact ⟨pieces, read, reached⟩
    | placeholder => cases faultless
  | lone =>
    rw [cutPattern] at faultless
    cases faultless
  | closer closer =>
    rw [cutPattern_unexpected closer] at faultless
    cases faultless
  | separator =>
    rw [cutPattern_separator] at faultless
    cases faultless

/-! ### What stands in front -/

/-- The pieces are resolved without a fault. -/
def Resolves (pieces : List PatternPiece) : Prop :=
  ∃ parts parameters, resolvePieces [] pieces = .ok (parts, parameters)

/-- Pieces are resolved one after another, and what has been resolved stays known. -/
theorem resolvePieces_append {known parameters : List Parameter} {first second : List PatternPiece}
    {parts : List PatternPart} :
    resolvePieces known (first ++ second) = .ok (parts, parameters) ↔
      ∃ early middle late, resolvePieces known first = .ok (early, middle) ∧
        resolvePieces middle second = .ok (late, parameters) ∧ parts = early ++ late := by
  induction first generalizing known parts with
  | nil =>
    constructor
    · exact fun resolved => ⟨[], known, parts, rfl, resolved, rfl⟩
    · rintro ⟨early, middle, late, none, resolved, rfl⟩
      cases none
      exact resolved
  | cons piece rest ih =>
    cases piece with
    | text text =>
      constructor
      · intro resolved
        obtain ⟨later, found, rfl⟩ := resolvePieces_text_iff.mp resolved
        obtain ⟨early, middle, late, front, back, rfl⟩ := ih.mp found
        exact ⟨_, middle, late, resolvePieces_text_iff.mpr ⟨early, front, rfl⟩, back, rfl⟩
      · rintro ⟨early, middle, late, front, back, rfl⟩
        obtain ⟨later, found, rfl⟩ := resolvePieces_text_iff.mp front
        exact resolvePieces_text_iff.mpr ⟨_, ih.mpr ⟨later, middle, late, found, back, rfl⟩, rfl⟩
    | placeholder required body =>
      constructor
      · intro resolved
        obtain ⟨parameter, later, taken, found, rfl⟩ := resolvePieces_placeholder_iff.mp resolved
        obtain ⟨early, middle, late, front, back, rfl⟩ := ih.mp found
        exact ⟨_, middle, late, resolvePieces_placeholder_iff.mpr ⟨parameter, early, taken, front, rfl⟩,
          back, rfl⟩
      · rintro ⟨early, middle, late, front, back, rfl⟩
        obtain ⟨parameter, later, taken, found, rfl⟩ := resolvePieces_placeholder_iff.mp front
        exact resolvePieces_placeholder_iff.mpr
          ⟨parameter, _, taken, ih.mpr ⟨later, middle, late, found, back, rfl⟩, rfl⟩

theorem Resolves.front {first second : List PatternPiece} (resolves : Resolves (first ++ second)) :
    Resolves first := by
  obtain ⟨parts, parameters, resolved⟩ := resolves
  obtain ⟨early, middle, late, front, -⟩ := resolvePieces_append.mp resolved
  exact ⟨early, middle, front⟩

/-- Literal text is resolved whatever stands before it. -/
theorem Resolves.withText {pieces : List PatternPiece} (resolves : Resolves pieces)
    (read : List Char) : Resolves (pieces ++ Signpost.withText read []) := by
  obtain ⟨parts, parameters, resolved⟩ := resolves
  rw [Signpost.withText]
  split
  · rw [List.append_nil]
    exact ⟨parts, parameters, resolved⟩
  · exact ⟨_, parameters, resolvePieces_append.mpr
      ⟨parts, parameters, _, resolved, resolvePieces_text_iff.mpr ⟨[], rfl, rfl⟩, rfl⟩⟩

/-- The characters are a pattern by themselves, so everything in them is read without a fault. -/
def Readable (chars : List Char) : Prop :=
  ∃ pattern, Pattern.readStripped (String.ofList chars) = .ok pattern

theorem readable_iff {chars : List Char} :
    Readable chars ↔
      Resolves (cutPattern 0 (.text []) chars).1 ∧ (cutPattern 0 (.text []) chars).2 = none := by
  simp only [Readable, Pattern.readStripped_ok_iff, String.toList_ofList]
  constructor
  · rintro ⟨pattern, -, faultless, resolved⟩
    exact ⟨⟨pattern.parts, pattern.parameters, resolved⟩, faultless⟩
  · rintro ⟨⟨parts, parameters, resolved⟩, faultless⟩
    exact ⟨⟨String.ofList chars, parts, parameters⟩, rfl, faultless, resolved⟩

/-- Literal text may end anywhere. -/
theorem CutTo.readable {front read : List Char} {pieces : List PatternPiece}
    (reached : CutTo front pieces (.text read)) (resolves : Resolves pieces) : Readable front := by
  have whole := reached.cut []
  rw [List.append_nil] at whole
  rw [readable_iff, whole]
  exact ⟨resolves.withText read, rfl⟩

end Signpost

import Signpost.Proofs.Pattern.Spelling

/-!
# Written patterns

A segment pattern as someone writes it: literal text, in which a backslash may stand before any
character and must stand before some, and at most one required placeholder, which states a type by
keyword or none. Reading what has been written gives the pattern that was meant, and a route of such
patterns between slashes is split into them again.
-/
namespace Signpost

/-- A character of literal text, by itself or behind a backslash. -/
structure Glyph where
  char : Char
  escaped : Bool := false
  inner : char ≠ '/' ∧ char ≠ '?' := by decide
  guarded : char ∈ ['\\', '\x7b', '\x7d', '[', ']'] → escaped = true := by decide

namespace Glyph

def source (glyph : Glyph) : List Char :=
  if glyph.escaped then ['\\', glyph.char] else [glyph.char]

/-- How a literal text is written. -/
def written (glyphs : List Glyph) : List Char := glyphs.flatMap source

/-- The text that is meant. -/
def text (glyphs : List Glyph) : List Char := glyphs.map (·.char)

end Glyph

/-- A required placeholder without functions; its name can stand in a template. -/
structure Slot where
  name : String
  keyword : Option String := none
  identifier : isIdentifier name.toList = true := by decide
  unreserved : name ∉ ["true", "false", "null"] := by decide
  known : ∀ word ∈ keyword, (ValueType.ofKeyword? word).isSome := by decide

namespace Slot

/-- A placeholder without a keyword takes any text. -/
def valueType (slot : Slot) : ValueType := (slot.keyword.bind ValueType.ofKeyword?).getD .string

def parameter (slot : Slot) : Parameter :=
  { name := slot.name, valueType := slot.valueType, required := true }

def body (slot : Slot) : List Char :=
  slot.name.toList ++ match slot.keyword with
    | none => []
    | some word => ':' :: word.toList

end Slot

/-- A segment pattern, which is never empty. -/
inductive Segment
  | literal (first : Glyph) (rest : List Glyph)
  | slotted (before : List Glyph) (slot : Slot) (after : List Glyph)

namespace Segment

def slot? : Segment → Option Slot
  | .literal .. => none
  | .slotted _ slot _ => some slot

/-- The placeholders of segments in their order. -/
def slots (segments : List Segment) : List Slot := segments.filterMap slot?

def chars : Segment → List Char
  | .literal first rest => Glyph.written (first :: rest)
  | .slotted before slot after =>
    Glyph.written before ++ '\x7b' :: (slot.body ++ '\x7d' :: Glyph.written after)

def source (segment : Segment) : String := String.ofList segment.chars

/-- Literal text as a part, unless it is empty. -/
def textPart (glyphs : List Glyph) : List PatternPart :=
  if glyphs.isEmpty then [] else [.literal (String.ofList (Glyph.text glyphs))]

/-- The pattern that is meant. -/
def pattern (segment : Segment) : Pattern where
  source := segment.source
  parts := match segment with
    | .literal first rest => textPart (first :: rest)
    | .slotted before _ after => textPart before ++ .parameter 0 :: textPart after
  parameters := (segment.slot?.map Slot.parameter).toList

end Segment

/-! ### Characters of placeholders -/

theorem keyword_cases {word : String} (known : (ValueType.ofKeyword? word).isSome) :
    word = "string" ∨ word = "int" ∨ word = "float" := by
  unfold ValueType.ofKeyword? at known
  split at known
  · exact .inl rfl
  · exact .inr (.inl rfl)
  · exact .inr (.inr rfl)
  · cases known

theorem continues_of_keyword {word : String} (known : (ValueType.ofKeyword? word).isSome) :
    ∀ c ∈ word.toList, continuesIdentifier c = true := by
  rcases keyword_cases known with rfl | rfl | rfl <;> exact List.all_eq_true.mp (by decide)

namespace Slot

/-- What stands behind the name of a placeholder. -/
def tokens (slot : Slot) : List (List Char) := (slot.keyword.map String.toList).toList

theorem body_eq (slot : Slot) : slot.body = joinTokens slot.name.toList slot.tokens := by
  rw [body, tokens]
  cases slot.keyword with
  | none => rfl
  | some word => simp [joinTokens]

theorem tokens_worded (slot : Slot) :
    ∀ token ∈ slot.tokens, ∀ c ∈ token, continuesIdentifier c = true := by
  intro token member
  obtain ⟨word, keyword, rfl⟩ : ∃ word, slot.keyword = some word ∧ word.toList = token := by
    simpa [tokens] using member
  exact continues_of_keyword (slot.known word keyword)

theorem body_plain (slot : Slot) : ∀ c ∈ slot.body, isBracketing c = false := by
  rw [body_eq]
  exact joinTokens_plain
    (List.forall_mem_cons.mpr ⟨continues_of_identifier slot.identifier, slot.tokens_worded⟩)

theorem readTypeToken_keyword (slot : Slot) :
    readTypeToken slot.tokens = .ok ((slot.valueType, 0), []) := by
  rw [tokens, valueType]
  cases keyword : slot.keyword with
  | none => rfl
  | some word => rcases keyword_cases (slot.known word keyword) with rfl | rfl | rfl <;> rfl

theorem readParameter_body (slot : Slot) :
    readParameter [] true slot.body = .ok slot.parameter := by
  rw [body_eq]
  exact readParameter_joinTokens slot.identifier slot.tokens_worded (by simp)
    slot.readTypeToken_keyword rfl

end Slot

/-! ### Literal text -/

namespace Glyph

theorem source_spelling (glyph : Glyph) : Spelling glyph.source [glyph.char] := by
  rw [source]
  cases escaped : glyph.escaped with
  | true => exact .escaped glyph.char .nil
  | false =>
    have free : isGuarded glyph.char = false := by
      refine decide_eq_false fun guarded => ?_
      have own : glyph.char ∈ ['\\', '\x7b', '\x7d', '[', ']'] := by
        simp only [List.mem_cons, List.not_mem_nil, or_false] at guarded ⊢
        have inner := glyph.inner.1
        tauto
      rw [glyph.guarded own] at escaped
      cases escaped
    exact .plain free .nil

theorem spelling (glyphs : List Glyph) : Spelling (written glyphs) (text glyphs) := by
  induction glyphs with
  | nil => exact .nil
  | cons glyph rest ih => exact glyph.source_spelling.append ih

end Glyph

/-! ### Routes -/

namespace Segment

theorem chars_slotted (before : List Glyph) (slot : Slot) (after : List Glyph) :
    (slotted before slot after).chars
      = Glyph.written before ++ (bracketed true slot.body ++ Glyph.written after) := by
  simp [chars, bracketed]

theorem chars_passes (segment : Segment) :
    PassedOver '/' ['\x7b', '['] ['\x7d', ']'] 0 segment.chars 0 := by
  cases segment with
  | literal first rest => exact (Glyph.spelling _).passes
  | slotted before slot after =>
    rw [chars_slotted]
    exact (Glyph.spelling before).passes.append
      ((bracketed_passes slot.body_plain true).append (Glyph.spelling after).passes)

theorem chars_ne_nil (segment : Segment) : segment.chars ≠ [] := by
  cases segment with
  | literal first rest =>
    rw [chars, Glyph.written, List.flatMap_cons, Glyph.source]
    split <;> simp
  | slotted before slot after => simp [chars]

/-- A route of segments, between slashes. -/
def route (segments : List Segment) : String :=
  String.intercalate "/" (segments.map source)

/-- A route is split into the segments that it has been put together from. -/
theorem splitRoute_route (segments : List Segment) :
    splitRoute (route segments) = segments.map source := by
  have joined := @splitRoute_joined (segments.map chars) fun source member => by
    obtain ⟨segment, -, rfl⟩ := List.mem_map.mp member
    exact ⟨segment.chars_ne_nil, segment.chars_passes⟩
  rwa [List.map_map] at joined

end Segment

/-! ### Reading a segment -/

namespace Segment

theorem withText_text (glyphs : List Glyph) (pieces : List PatternPiece) :
    withText (Glyph.text glyphs).reverse pieces
      = if glyphs.isEmpty then pieces else .text (Glyph.text glyphs) :: pieces := by
  cases glyphs with
  | nil => rfl
  | cons first rest => simp [withText, Glyph.text]

theorem resolvePieces_withText (glyphs : List Glyph) {known parameters : List Parameter}
    {pieces : List PatternPiece} {parts : List PatternPart}
    (resolved : resolvePieces known pieces = .ok (parts, parameters)) :
    resolvePieces known (withText (Glyph.text glyphs).reverse pieces)
      = .ok (textPart glyphs ++ parts, parameters) := by
  rw [withText_text, textPart]
  split
  · exact resolved
  · exact resolvePieces_text_iff.mpr ⟨parts, resolved, rfl⟩

theorem chars_inner (segment : Segment) : ∀ c ∈ segment.chars, c ≠ '/' := by
  have written (glyphs : List Glyph) : ∀ c ∈ Glyph.written glyphs, c ≠ '/' := by
    intro c member
    rcases (Glyph.spelling glyphs).chars_cases c member with rfl | inside
    · decide
    · obtain ⟨glyph, -, rfl⟩ := List.mem_map.mp inside
      exact glyph.inner.1
  cases segment with
  | literal first rest => exact written _
  | slotted before slot after =>
    intro c member
    have own : c ∈ slot.body → c ≠ '/' := by
      rintro inside rfl
      have plain := slot.body_plain '/' inside
      cases plain
    have brace : ('\x7b' : Char) ≠ '/' ∧ ('\x7d' : Char) ≠ '/' := by decide
    simp only [chars, List.mem_append, List.mem_cons] at member
    rcases member with front | rfl | inside | rfl | back
    · exact written before c front
    · exact brace.1
    · exact own inside
    · exact brace.2
    · exact written after c back

theorem stripSlashes_source (segment : Segment) : stripSlashes segment.source = segment.source := by
  rw [stripSlashes, source, String.toList_ofList, strip_of_kept]
  intro c member
  simpa using segment.chars_inner c member

/-- What has been written is read as it was meant. -/
theorem read_source (segment : Segment) : Pattern.read segment.source = .ok segment.pattern := by
  have resolved : ∃ pieces, cutPattern 0 (.text []) segment.chars = (pieces, none) ∧
      resolvePieces [] pieces = .ok (segment.pattern.parts, segment.pattern.parameters) := by
    cases segment with
    | literal first rest =>
      have cut := (Glyph.spelling (first :: rest)).cut 0 [] []
      rw [List.append_nil, List.append_nil] at cut
      refine ⟨_, cut, ?_⟩
      have text := @resolvePieces_withText (first :: rest) [] [] [] [] rfl
      rw [List.append_nil] at text
      exact text
    | slotted before slot after =>
      -- the text in front, the placeholder up to the brace that closes it, and the text behind
      have early := (Glyph.spelling before).cut 0 []
        (bracketed true slot.body ++ Glyph.written after)
      obtain ⟨next, placeholder⟩ := cutPattern_bracketed slot.body_plain true
        (0 + byteSize (Glyph.written before)) (Glyph.text before).reverse
        (Glyph.written after)
      have late := (Glyph.spelling after).cut next [] []
      rw [List.append_nil, List.append_nil] at late
      rw [List.append_nil] at early
      refine ⟨withText (Glyph.text before).reverse
        (.placeholder true slot.body :: withText (Glyph.text after).reverse []), ?_, ?_⟩
      · rw [chars_slotted, early, placeholder, late]
        rfl
      · have text := @resolvePieces_withText after [slot.parameter] [slot.parameter] [] [] rfl
        rw [List.append_nil] at text
        exact resolvePieces_withText before
          (resolvePieces_placeholder_iff.mpr ⟨_, _, slot.readParameter_body, text, rfl⟩)
  obtain ⟨pieces, cut, resolved⟩ := resolved
  refine Pattern.read_of_cut segment.stripSlashes_source ?_ resolved
  rw [source, String.toList_ofList, cut]

end Segment

end Signpost

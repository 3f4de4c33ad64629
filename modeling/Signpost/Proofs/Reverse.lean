import Signpost.Proofs.Program.Recovery
import Signpost.Proofs.Rendering

/-!
# Built paths

Turned round, a route of segments consists of the texts and the places of its placeholders. With a
value for every placeholder it gives the path of the segments filled with what the encoder makes of
the values. None of them is empty, and nothing in them ends a segment or the path.
-/
namespace Signpost

/-! ### Filled segments -/

namespace Segment

/-- Values that leave segments in one piece. -/
def Fills (value : String → String) (segments : List Segment) : Prop :=
  ∀ slot ∈ slots segments,
    value slot.name ≠ "" ∧ ∀ c ∈ (value slot.name).toList, c ≠ '/' ∧ c ≠ '?'

theorem text_inner {glyphs : List Glyph} {c : Char} (member : c ∈ Glyph.text glyphs) :
    c ≠ '/' ∧ c ≠ '?' := by
  obtain ⟨glyph, -, rfl⟩ := List.mem_map.mp member
  exact glyph.inner

theorem filled_inner {value : String → String} {segments : List Segment}
    (fills : Fills value segments) : ∀ segment ∈ segments,
      segment.filled value ≠ "" ∧ ∀ c ∈ (segment.filled value).toList, c ≠ '/' ∧ c ≠ '?' := by
  intro segment member
  cases segment with
  | literal first rest =>
    constructor
    · simp [filled, Glyph.text]
    · intro c inside
      rw [filled, String.toList_ofList] at inside
      exact text_inner inside
  | slotted before slot after =>
    obtain ⟨given, inner⟩ := fills slot (List.mem_filterMap.mpr ⟨_, member, rfl⟩)
    constructor
    · rw [filled, ne_eq, ← String.toList_eq_nil_iff, String.toList_ofList]
      simp [given]
    · intro c inside
      rw [filled, String.toList_ofList, List.mem_append, List.mem_append] at inside
      rcases inside with (front | own) | back
      · exact text_inner front
      · exact inner c own
      · exact text_inner back

/-! ### Building -/

/-- Literal text of a segment turned round, unless it is empty. -/
def textReverse (glyphs : List Glyph) : List ReversePart :=
  if glyphs.isEmpty then [] else [.text (String.ofList (Glyph.text glyphs))]

/-- A segment turned round. -/
def reverse : Segment → List ReversePart
  | .literal first rest => textReverse (first :: rest)
  | .slotted before slot after =>
    textReverse before ++ .argument slot.name true [.urlencode] :: textReverse after

theorem compileParts_text {pattern : Pattern} {parts : List PatternPart} {others : List ReversePart}
    (compiled : parts.mapM (ReverseRoute.compilePart .builtin pattern) = .ok others)
    (glyphs : List Glyph) :
    (textPart glyphs ++ parts).mapM (ReverseRoute.compilePart .builtin pattern)
      = .ok (textReverse glyphs ++ others) := by
  cases glyphs with
  | nil => exact compiled
  | cons first rest => exact mapM_ok_iff.mpr (.cons rfl (mapM_ok_iff.mp compiled))

theorem compileParts_pattern (segment : Segment) :
    segment.pattern.parts.mapM (ReverseRoute.compilePart .builtin segment.pattern)
      = .ok segment.reverse := by
  have text (pattern : Pattern) (glyphs : List Glyph) :
      (textPart glyphs).mapM (ReverseRoute.compilePart .builtin pattern)
        = .ok (textReverse glyphs) := by
    have alone := @compileParts_text pattern [] [] rfl glyphs
    rwa [List.append_nil, List.append_nil] at alone
  cases segment with
  | literal first rest => exact text (literal first rest).pattern (first :: rest)
  | slotted before slot after =>
    have place : ReverseRoute.compilePart .builtin (slotted before slot after).pattern (.parameter 0)
        = .ok (.argument slot.name true [.urlencode]) := rfl
    refine compileParts_text (mapM_ok_iff.mpr (.cons place ?_)) before
    exact mapM_ok_iff.mp (text _ after)

variable {argument? : String → Option String} {value : String → String}

theorem textReverse_supplied (glyphs : List Glyph) :
    ∀ part ∈ textReverse glyphs, part.Supplied argument? := by
  cases glyphs <;> simp [textReverse, ReversePart.Supplied]

theorem textReverse_filling (glyphs : List Glyph) :
    String.join ((textReverse glyphs).map (ReversePart.filling argument?))
      = String.ofList (Glyph.text glyphs) := by
  cases glyphs with
  | nil => rfl
  | cons first rest => simp [textReverse, ReversePart.filling]

/-- A segment turned round gives the segment filled with what the encoder makes of arguments. -/
theorem reverse_filling {segment : Segment}
    (given : ∀ slot ∈ segment.slot?, ∃ text, argument? slot.name = some text ∧ text ≠ "" ∧
      value slot.name = Text.Percent.encode text) :
    (∀ part ∈ segment.reverse, part.Supplied argument?) ∧
      String.join (segment.reverse.map (ReversePart.filling argument?)) = segment.filled value := by
  -- A segment with a slot has text around it, which asks for no argument and is filled in as it is.
  cases segment with
  | literal first rest => exact ⟨textReverse_supplied _, textReverse_filling _⟩
  | slotted before slot after =>
    obtain ⟨argument, known, nonempty, encoded⟩ := given slot rfl
    have present : ReversePart.given? argument? slot.name = some argument := by
      rw [ReversePart.given?, known, Option.filter_some_pos (by simpa using nonempty)]
    have place : ReversePart.filling argument? (.argument slot.name true [.urlencode])
        = value slot.name := by
      rw [ReversePart.filling, present, encoded]
      rfl
    constructor
    · intro part member
      rcases List.mem_append.mp member with front | behind
      · exact textReverse_supplied before part front
      · rcases List.mem_cons.mp behind with rfl | back
        · intro _
          rw [present]
          rfl
        · exact textReverse_supplied after part back
    · rw [reverse, List.map_append, List.map_cons, String.join_append, String.join_cons, place,
        textReverse_filling, textReverse_filling, filled]
      simp [String.ofList_append]

/-- A route turned round. -/
def reverseRoute (id : String) (segments : List Segment) : ReverseRoute where
  id := id
  template := routeTemplate (segments.map pattern)
  segments := segments.map reverse
  parameters := (segments.map pattern).flatMap fun pattern => pattern.required.map (·.name)

theorem compile_reverse (id : String) (segments : List Segment) :
    ReverseTable.compile .builtin ⟨[⟨id, segments.map pattern⟩]⟩
      = .ok ⟨[reverseRoute id segments]⟩ := by
  have turned : (segments.map pattern).mapM (fun pattern =>
      pattern.parts.mapM (ReverseRoute.compilePart .builtin pattern)) = .ok (segments.map reverse) :=
    mapM_map_ok fun segment _ => segment.compileParts_pattern
  have route : ReverseRoute.compile .builtin ⟨id, segments.map pattern⟩
      = .ok (reverseRoute id segments) := by
    rw [ReverseRoute.compile, turned]
    rfl
  exact bind_ok_iff.mpr ⟨[reverseRoute id segments], mapM_ok_iff.mpr (.cons route .nil), rfl⟩

/-- A path is built of the segments filled with what the encoder makes of the arguments. -/
theorem build_reverse (id : String) {segments : List Segment} (present : segments ≠ [])
    {arguments : Attributes} (fills : Fills value segments)
    (given : ∀ slot ∈ slots segments, ∃ text, arguments.get? slot.name = some text ∧ text ≠ "" ∧
      value slot.name = Text.Percent.encode text) :
    ReverseTable.build ⟨[reverseRoute id segments]⟩ id arguments
      = .ok (Text.slashed (segments.map (filled value))) := by
  have each : ∀ segment ∈ segments, (∀ part ∈ segment.reverse, part.Supplied arguments.get?) ∧
      String.join (segment.reverse.map (ReversePart.filling arguments.get?))
        = segment.filled value := fun segment member =>
    reverse_filling fun slot own => given slot (List.mem_filterMap.mpr ⟨segment, member, own⟩)
  have fillings : (reverseRoute id segments).fillings arguments.get?
      = segments.map (filled value) := by
    rw [ReverseRoute.fillings, reverseRoute, List.map_map, List.map_inj_left]
    exact fun segment member => (each segment member).2
  -- no segment is left out, for none is empty
  have kept : (segments.map (filled value)).filter (fun text => !text.isEmpty)
      = segments.map (filled value) := by
    rw [List.filter_eq_self]
    intro text member
    obtain ⟨segment, among, rfl⟩ := List.mem_map.mp member
    simpa using (filled_inner fills segment among).1
  have path : Text.pathOf (segments.map (filled value))
      = Text.slashed (segments.map (filled value)) :=
    if_neg (by simpa using present)
  have own : ReverseTable.get ⟨[reverseRoute id segments]⟩ id = .ok (reverseRoute id segments) := by
    simp [ReverseTable.get, reverseRoute]
  refine bind_ok_iff.mpr ⟨_, own, ?_⟩
  rw [ReverseRoute.build, ReverseRoute.render_ok_iff, fillings, kept, path]
  refine ⟨fun parts member => ?_, rfl⟩
  obtain ⟨segment, among, rfl⟩ := List.mem_map.mp member
  exact (each segment among).1

end Segment

end Signpost

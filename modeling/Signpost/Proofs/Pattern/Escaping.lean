import Signpost.Proofs.Pattern.Spelling

/-!
# Escaped texts

A text is written as a pattern with a backslash before each of its characters that means something by
itself. A route of such texts is split into them, since an escaped slash separates nothing. A segment
is read as its text unless the text ends in a slash: the slashes around a pattern are taken off before
it is read, and there an escaped slash counts as one of them, which leaves its backslash alone.
-/
namespace Signpost

namespace Pattern

def escapeChars (text : List Char) : List Char :=
  text.flatMap fun c => if isGuarded c then ['\\', c] else [c]

/-- How a text is written in a pattern. -/
def escape (text : String) : String := String.ofList (escapeChars text.toList)

/-- A route with a segment for every text. -/
def escapedRoute (texts : List String) : String := String.intercalate "/" (texts.map escape)

theorem escapeChars_append (front back : List Char) :
    escapeChars (front ++ back) = escapeChars front ++ escapeChars back := by
  simp [escapeChars]

theorem escapeChars_spelling (text : List Char) : Spelling (escapeChars text) text := by
  induction text with
  | nil => exact .nil
  | cons c rest ih =>
    rw [escapeChars, List.flatMap_cons]
    split
    next => exact .escaped c ih
    next free => exact .plain (by simpa using free) ih

theorem escapeChars_ne_nil {text : List Char} (present : text ≠ []) : escapeChars text ≠ [] := by
  cases text with
  | nil => exact absurd rfl present
  | cons c rest =>
    rw [escapeChars, List.flatMap_cons]
    split <;> simp

/-- A slash never begins what has been escaped, for its backslash stands before it. -/
theorem escapeChars_head (text : List Char) :
    ∀ c ∈ (escapeChars text).head?, (c == '/') = false := by
  cases text with
  | nil => simp [escapeChars]
  | cons first rest =>
    intro c begins
    rw [escapeChars, List.flatMap_cons] at begins
    split at begins
    next =>
      cases begins
      rfl
    next free =>
      cases begins
      rw [beq_eq_false_iff_ne]
      rintro rfl
      exact free rfl

theorem escapeChars_last (text : List Char) : (escapeChars text).getLast? = text.getLast? := by
  rcases List.eq_nil_or_concat text with rfl | ⟨front, last, rfl⟩
  · rfl
  · rw [List.concat_eq_append, escapeChars_append, List.getLast?_append, List.getLast?_append]
    by_cases guarded : isGuarded last <;> simp [escapeChars, guarded]

/-! ### Splitting -/

theorem splitRoute_escapedRoute {texts : List String} (filled : ∀ text ∈ texts, text ≠ "") :
    splitRoute (escapedRoute texts) = texts.map escape := by
  have joined := @splitRoute_joined (texts.map fun text => escapeChars text.toList)
    fun source member => by
      obtain ⟨text, among, rfl⟩ := List.mem_map.mp member
      have present : text.toList ≠ [] := mt String.toList_eq_nil_iff.mp (filled text among)
      exact ⟨escapeChars_ne_nil present, (escapeChars_spelling _).passes⟩
  rwa [List.map_map] at joined

/-! ### Reading -/

/-- The pattern that stands for a text. -/
def ofText (text : String) : Pattern := ⟨escape text, [.literal text], []⟩

theorem read_escape {text : String} (present : text ≠ "") (unslashed : text.toList.getLast? ≠ some '/') :
    Pattern.read (escape text) = .ok (ofText text) := by
  have bare : stripSlashes (escape text) = escape text := by
    apply stripSlashes_of_ends
    · rw [escape, String.toList_ofList]
      exact escapeChars_head text.toList
    · rwa [escape, String.toList_ofList, escapeChars_last]
  have chars : text.toList.reverse.isEmpty = false := by
    simpa using present
  have cut := (escapeChars_spelling text.toList).cut 0 [] []
  rw [List.append_nil, List.append_nil, cutPattern, withText, chars, List.reverse_reverse] at cut
  have resolved : resolvePieces [] [.text text.toList] = .ok ([.literal text], []) :=
    resolvePieces_text_iff.mpr ⟨[], rfl, by rw [String.ofList_toList]⟩
  refine read_of_cut bare ?_ resolved
  rw [escape, String.toList_ofList]
  exact cut

/-- Of an escaped slash at the end only the backslash is left. -/
theorem read_escape_slash (front : String) :
    Pattern.read (escape (front ++ "/"))
      = .error ⟨escape front ++ "\\", .loneEscape (escape front).utf8ByteSize⟩ := by
  let chars := escapeChars front.toList ++ ['\\']
  have shape : (escape (front ++ "/")).toList = chars ++ ['/'] := by
    rw [escape, String.toList_ofList, String.toList_append, escapeChars_append]
    simp [chars, escapeChars, isGuarded]
  -- only the last slash is taken off, for a backslash stands in front of it
  have begins : ∀ c ∈ chars.head?, (c == '/') = false := by
    intro c head
    cases escaped : escapeChars front.toList with
    | nil =>
      simp only [chars, escaped, List.nil_append, List.head?_cons, Option.mem_some_iff] at head
      subst head
      rfl
    | cons first rest =>
      refine escapeChars_head front.toList c ?_
      simpa [chars, escaped] using head
  have stripped : stripSlashes (escape (front ++ "/")) = escape front ++ "\\" := by
    rw [stripSlashes, shape, strip_concat (by simp [chars]) begins (by simp [chars]) rfl]
    simp [chars, String.ofList_append, escape]
  have cut := (escapeChars_spelling front.toList).cut 0 [] ['\\']
  rw [cutPattern] at cut
  have chars : (escape front ++ "\\").toList = escapeChars front.toList ++ ['\\'] := by
    simp [escape, String.toList_append]
  rw [Pattern.read, stripped, readStripped, chars, cut, Nat.zero_add]
  rfl

/-- A route of escaped texts is split into them. Each is read as its text exactly if the text does not
end in a slash; otherwise the backslash of that slash is left alone. -/
theorem escapedRoute_reads {texts : List String} (filled : ∀ text ∈ texts, text ≠ "") :
    splitRoute (escapedRoute texts) = texts.map escape ∧ ∀ text ∈ texts,
      ((∃ pattern, Pattern.read (escape text) = .ok pattern ∧ pattern.literal? = some text)
        ↔ text.toList.getLast? ≠ some '/') ∧
      ∀ front, text = front ++ "/" → Pattern.read (escape text)
        = .error ⟨escape front ++ "\\", .loneEscape (escape front).utf8ByteSize⟩ := by
  refine ⟨splitRoute_escapedRoute filled, fun text member => ⟨⟨?_, ?_⟩, ?_⟩⟩
  · rintro ⟨pattern, taken, -⟩ last
    -- a text that ends in a slash is refused
    obtain ⟨front, chars⟩ := List.getLast?_eq_some_iff.mp last
    have ending : text = String.ofList front ++ "/" := by
      rw [← String.toList_inj, chars, String.toList_append, String.toList_ofList]
      rfl
    rw [ending, read_escape_slash] at taken
    cases taken
  · intro unslashed
    exact ⟨ofText text, read_escape (filled text member) unslashed, rfl⟩
  · rintro front rfl
    exact read_escape_slash front

theorem escapedRoute_reads_archive :
    (∀ text ∈ ["1/2", "\\\x7bx]", "end/"], text ≠ "") ∧
    escapedRoute ["1/2", "\\\x7bx]", "end/"] = "1\\/2/\\\\\\\x7bx\\]/end\\/" ∧
    splitRoute (escapedRoute ["1/2", "\\\x7bx]", "end/"])
      = ["1\\/2", "\\\\\\\x7bx\\]", "end\\/"] ∧
    (∃ pattern, Pattern.read "\\\\\\\x7bx\\]" = .ok pattern ∧
      pattern.literal? = some "\\\x7bx]") ∧
    Pattern.read "end\\/" = .error ⟨"end\\", .loneEscape 3⟩ := by
  have filled : ∀ text ∈ ["1/2", "\\\x7bx]", "end/"], text ≠ "" := by decide
  obtain ⟨split, reads⟩ := escapedRoute_reads filled
  have braces := (reads "\\\x7bx]" (by simp)).1.mpr (by decide)
  have ending := (reads "end/" (by simp)).2 "end" (by decide)
  exact ⟨filled, by decide, split.trans (by decide), braces, ending⟩

end Pattern

end Signpost

/-!
# Cutting text at separators

A text is cut at every occurrence of a separator, so there is always one piece more than there are
separators. The segments of a path are its non-empty pieces between slashes, and what follows the
first question mark is its query.
-/
namespace Signpost.Text

/-- The pieces between separators, empty ones included. -/
def pieces (separator : Char → Bool) : List Char → List (List Char)
  | [] => [[]]
  | c :: rest =>
    if separator c then [] :: pieces separator rest
    else
      match pieces separator rest with
      | [] => [[c]]
      | first :: others => (c :: first) :: others

theorem pieces_ne_nil (separator : Char → Bool) (text : List Char) : pieces separator text ≠ [] := by
  cases text with
  | nil => simp [pieces]
  | cons c rest =>
    rw [pieces]
    split
    · simp
    · split <;> simp

/-- Text without separators joins the piece behind it. -/
theorem pieces_append {separator : Char → Bool} {front : List Char}
    (apart : ∀ c ∈ front, separator c = false) (rest : List Char) :
    pieces separator (front ++ rest) = (pieces separator rest).modifyHead (front ++ ·) := by
  cases behind : pieces separator rest with
  | nil => exact absurd behind (pieces_ne_nil separator rest)
  | cons piece others =>
    induction front with
    | nil => exact behind
    | cons c more ih =>
      obtain ⟨own, plain⟩ := List.forall_mem_cons.mp apart
      simp [pieces, own, ih plain]

theorem pieces_whole {separator : Char → Bool} {text : List Char}
    (apart : ∀ c ∈ text, separator c = false) : pieces separator text = [text] := by
  have whole := pieces_append apart []
  rw [List.append_nil] at whole
  rw [whole]
  simp [pieces]

/-- The non-empty components of a path. -/
def segments (path : String) : List String :=
  ((pieces (· == '/') path.toList).filter fun piece => !piece.isEmpty).map String.ofList

/-- What stands before the first occurrence of a character, and what stands after it, if there is
one. -/
def splitFirst (mark : Char) : List Char → List Char × Option (List Char)
  | [] => ([], none)
  | c :: rest =>
    if c = mark then ([], some rest)
    else
      let (before, after) := splitFirst mark rest
      (c :: before, after)

theorem splitFirst_whole {mark : Char} {text : List Char} (absent : mark ∉ text) :
    splitFirst mark text = (text, none) := by
  induction text with
  | nil => rfl
  | cons c rest ih =>
    rw [List.mem_cons, not_or] at absent
    simp [splitFirst, Ne.symm absent.1, ih absent.2]

/-- A path and the query behind its first question mark. -/
def splitQuery (raw : String) : String × Option String :=
  let (path, query) := splitFirst '?' raw.toList
  (String.ofList path, query.map String.ofList)

end Signpost.Text

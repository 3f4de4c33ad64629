import Mathlib.Data.List.TakeWhile
import Signpost.Proofs.Pattern.Spelling
import Signpost.Tree.Builder

/-!
# Quoted arguments

Between double quotes a comma does not end an argument of a call, so any texts without double quotes can
be handed over in one attribute. What stands around the quotes belongs to the argument as well, and blanks
at its ends are taken off, those between the quotes included.
-/
namespace Signpost

open Text

/-- A text between double quotes, with what stands around it up to the next commas. -/
structure QuotedField where
  text : String
  before : String := ""
  after : String := ""

namespace QuotedField

def written (field : QuotedField) : String :=
  field.before ++ "\"" ++ field.text ++ "\"" ++ field.after

/-- Quoted texts with commas between them. -/
def joined (fields : List QuotedField) : String := String.intercalate "," (fields.map written)

/-- No double quote inside, and nothing but blanks outside of the quotes. -/
structure Closed (field : QuotedField) : Prop where
  unquoted : '"' ∉ field.text.toList
  before : blankText field.before = true
  after : blankText field.after = true

/-- The characters of a field without its quotes. -/
def content (field : QuotedField) : List Char :=
  field.before.toList ++ (field.text.toList ++ field.after.toList)

theorem joined_cons_cons (field next : QuotedField) (rest : List QuotedField) :
    (joined (field :: next :: rest)).toList
      = field.written.toList ++ ',' :: (joined (next :: rest)).toList := by
  simp [joined, String.intercalate_cons_cons, String.toList_append]

end QuotedField

namespace Text

/-- What is in the class makes no difference at the ends of a text. -/
theorem strip_around {drop : Char → Bool} {before after : List Char}
    (front : ∀ c ∈ before, drop c = true) (back : ∀ c ∈ after, drop c = true) (text : List Char) :
    strip drop (before ++ (text ++ after)) = strip drop text := by
  have rest : after.dropWhile drop = [] := List.dropWhile_eq_nil_iff.mpr back
  rw [strip, strip, List.dropWhile_append_of_pos front, List.dropWhile_append]
  split
  next none =>
    rw [rest, List.isEmpty_iff.mp none]
  next =>
    rw [List.reverse_append,
      List.dropWhile_append_of_pos fun c member => back c (List.mem_reverse.mp member)]

end Text

namespace RouteTree

/-- Without quotes, and without commas outside of them, an argument goes on. -/
theorem splitQuoted_append (quoted : Bool) {front : List Char} (unquoted : '"' ∉ front)
    (whole : quoted = true ∨ ',' ∉ front) (rest : List Char) :
    splitQuoted quoted (front ++ rest) = (splitQuoted quoted rest).modifyHead (front ++ ·) := by
  induction front with
  | nil => exact (congrFun List.modifyHead_id _).symm
  | cons c more ih =>
    rw [List.mem_cons, not_or] at unquoted
    have later : quoted = true ∨ ',' ∉ more := whole.imp_right fun absent => by
      rw [List.mem_cons, not_or] at absent
      exact absent.2
    have inner : ¬(c = ',' ∧ (!quoted) = true) := by
      rintro ⟨rfl, outside⟩
      rcases whole with quoted | absent
      · simp [quoted] at outside
      · simp at absent
    rw [List.cons_append, splitQuoted, if_neg (Ne.symm unquoted.1), if_neg inner,
      ih unquoted.2 later, List.modifyHead_modifyHead]
    rfl

theorem blank_plain {blanks : String} (blank : blankText blanks = true) :
    '"' ∉ blanks.toList ∧ ',' ∉ blanks.toList := by
  have all := List.all_eq_true.mp blank
  constructor
  · intro member
    cases all '"' member
  · intro member
    cases all ',' member

theorem splitQuoted_written {field : QuotedField} (closed : field.Closed) (rest : List Char) :
    splitQuoted false (field.written.toList ++ rest)
      = (splitQuoted false rest).modifyHead (field.content ++ ·) := by
  have before := blank_plain closed.before
  have after := blank_plain closed.after
  have chars : field.written.toList ++ rest = field.before.toList
      ++ '"' :: (field.text.toList ++ '"' :: (field.after.toList ++ rest)) := by
    simp [QuotedField.written, String.toList_append]
  rw [chars, splitQuoted_append false before.1 (.inr before.2), splitQuoted, if_pos rfl,
    Bool.not_false, splitQuoted_append true closed.unquoted (.inl rfl), splitQuoted, if_pos rfl,
    Bool.not_true, splitQuoted_append false after.1 (.inr after.2), List.modifyHead_modifyHead,
    List.modifyHead_modifyHead]
  congr 1
  funext piece
  simp [QuotedField.content]

theorem splitQuoted_joined {fields : List QuotedField} (closed : ∀ field ∈ fields, field.Closed)
    (present : fields ≠ []) :
    splitQuoted false (QuotedField.joined fields).toList = fields.map QuotedField.content := by
  induction fields with
  | nil => exact absurd rfl present
  | cons field rest ih =>
    obtain ⟨own, others⟩ := List.forall_mem_cons.mp closed
    cases rest with
    | nil =>
      have last := splitQuoted_written own []
      rw [List.append_nil] at last
      simpa [QuotedField.joined, splitQuoted] using last
    | cons next more =>
      rw [QuotedField.joined_cons_cons, splitQuoted_written own, splitQuoted,
        if_neg (by decide), if_pos ⟨rfl, rfl⟩, ih others (List.cons_ne_nil _ _)]
      simp

/-- Of quoted texts what remains is what is left of them without blanks at their ends, if that is
anything. -/
theorem splitArguments_joined {fields : List QuotedField} (closed : ∀ field ∈ fields, field.Closed) :
    splitArguments (QuotedField.joined fields)
      = (fields.map fun field => trim field.text).filter (· ≠ "") := by
  have stripped : (fields.map QuotedField.content).map (strip isBlank)
      = fields.map fun field => strip isBlank field.text.toList := by
    rw [List.map_map]
    refine List.map_congr_left fun field member => ?_
    have own := closed field member
    exact strip_around (List.all_eq_true.mp own.before) (List.all_eq_true.mp own.after) _
  have kept (pieces : List (List Char)) :
      (pieces.filter fun piece => !piece.isEmpty).map String.ofList
        = (pieces.map String.ofList).filter (· ≠ "") := by
    rw [List.filter_map]
    congr 1
    refine List.filter_congr fun piece _ => ?_
    cases piece <;> simp
  rw [splitArguments, kept]
  by_cases none : fields = []
  · subst none
    rfl
  · rw [splitQuoted_joined closed none, stripped, List.map_map]
    rfl

/-- A text that comes back from between quotes: not empty, with no blank at its ends and no double quote
in it. -/
structure Quotable (text : String) : Prop where
  present : text ≠ ""
  front : ∀ c ∈ text.toList.head?, isBlank c = false
  back : ∀ c ∈ text.toList.getLast?, isBlank c = false
  unquoted : '"' ∉ text.toList

theorem Quotable.trim_eq {text : String} (quotable : Quotable text) : trim text = text := by
  rw [trim, strip_of_ends quotable.front quotable.back, String.ofList_toList]

/-- Texts that are not empty, have no blank at their ends and no double quote in them are the arguments that
are read from a list of them between double quotes, with commas and any blanks between them. -/
theorem splitArguments_quoted {fields : List QuotedField}
    (quotable : ∀ field ∈ fields, Quotable field.text)
    (blank : ∀ field ∈ fields, blankText field.before = true ∧ blankText field.after = true) :
    splitArguments (QuotedField.joined fields) = fields.map QuotedField.text := by
  have closed : ∀ field ∈ fields, field.Closed := fun field member =>
    ⟨(quotable field member).unquoted, (blank field member).1, (blank field member).2⟩
  have trimmed : (fields.map fun field => trim field.text) = fields.map QuotedField.text :=
    List.map_congr_left fun field member => (quotable field member).trim_eq
  rw [splitArguments_joined closed, trimmed, List.filter_eq_self]
  intro text member
  obtain ⟨field, among, rfl⟩ := List.mem_map.mp member
  simpa using (quotable field among).present

/-- A text with commas and a reference in it between two others, one of them a single comma. -/
def listedFields : List QuotedField :=
  [⟨"\x7buser\x7d, née \x7bname:trim\x7d", "", " "⟩, ⟨",", "\t ", ""⟩, ⟨"b", " ", " "⟩]

theorem splitArguments_quoted_listed :
    (∀ field ∈ listedFields, Quotable field.text) ∧
    (∀ field ∈ listedFields, blankText field.before = true ∧ blankText field.after = true) ∧
    QuotedField.joined listedFields
      = "\"\x7buser\x7d, née \x7bname:trim\x7d\" ,\t \",\", \"b\" " ∧
    splitArguments (QuotedField.joined listedFields)
      = ["\x7buser\x7d, née \x7bname:trim\x7d", ",", "b"] := by
  have ends {last : Option Char} (solid : (last.all fun c => !isBlank c) = true) :
      ∀ c ∈ last, isBlank c = false := by
    intro c same
    rw [Option.mem_def.mp same] at solid
    simpa using solid
  have quotable : ∀ field ∈ listedFields, Quotable field.text := by
    simp only [listedFields, List.forall_mem_cons]
    refine ⟨⟨?_, ends ?_, ends ?_, ?_⟩, ⟨?_, ends ?_, ends ?_, ?_⟩, ⟨?_, ends ?_, ends ?_, ?_⟩,
      nofun⟩
    all_goals decide
  have blank : ∀ field ∈ listedFields,
      blankText field.before = true ∧ blankText field.after = true := by
    decide
  exact ⟨quotable, blank, by decide, splitArguments_quoted quotable blank⟩

end RouteTree

end Signpost

import Mathlib.Tactic.SplitIfs
import Signpost.Json.Printer
import Signpost.Json.Reader

/-!
# Reading what was printed

A value in which no number stands is read again from the text that it was printed to. Characters come
back one by one, each from its escape or from itself. A printed value does not say where it ends, so
values are read in front of whatever stands behind them, and the items of an array and the members of an
object in front of what closes it; the length of the text stays ahead of the depth of the reading.
-/
namespace Signpost.Json

/-! ### Texts -/

/-- What has been read with one more unit in front. -/
def unitBefore (unit : Nat) (read : List Nat × List Char) : List Nat × List Char :=
  (unit :: read.1, read.2)

theorem readUnits_short {letter : Char} {unit : Nat} (stands : shortEscape? letter = some unit)
    (rest : List Char) :
    readUnits ('\\' :: letter :: rest) = (readUnits rest).map (unitBefore unit) := by
  rw [readUnits.eq_4, stands]
  · cases readUnits rest <;> rfl
  · rintro a b c d rest rfl
    cases stands

theorem readUnits_code {n : Nat} (control : n < 0x20) (rest : List Char) :
    readUnits ('\\' :: 'u' :: '0' :: '0' :: Text.Hex.lower (n / 16) :: Text.Hex.lower (n % 16) :: rest)
      = (readUnits rest).map (unitBefore n) := by
  have zero : Text.Hex.value? '0'.toNat = some 0 := rfl
  have high : Text.Hex.value? (Text.Hex.lower (n / 16)).toNat = some (n / 16) :=
    Text.Hex.value?_lower (by omega)
  have low : Text.Hex.value? (Text.Hex.lower (n % 16)).toNat = some (n % 16) :=
    Text.Hex.value?_lower (by omega)
  have whole : (n / 16) * 16 + n % 16 = n := by omega
  rw [readUnits]
  simp only [List.foldlM_cons, List.foldlM_nil, zero, high, low, Option.bind_eq_bind,
    Option.bind_some, Option.pure_def, Nat.zero_mul, Nat.zero_add, whole]
  cases readUnits rest <;> rfl

theorem readUnits_itself {c : Char} (quote : c ≠ '"') (backslash : c ≠ '\\') (visible : ¬ c.toNat < 0x20)
    (rest : List Char) : readUnits (c :: rest) = (readUnits rest).map (unitBefore c.toNat) := by
  rw [readUnits.eq_5, if_neg (not_or.mpr ⟨visible, backslash⟩)]
  · cases readUnits rest <;> rfl
  · exact quote
  · intro _ _ _ _ _ same
    exact absurd same backslash
  · intro _ _ same
    exact absurd same backslash

theorem readUnits_escapeChar (c : Char) (rest : List Char) :
    readUnits (escapeChar c ++ rest) = (readUnits rest).map (unitBefore c.toNat) := by
  rw [escapeChar]
  split_ifs with quote backslash line carriage tab back feed control
  · rw [quote]
    exact readUnits_short rfl rest
  · rw [backslash]
    exact readUnits_short rfl rest
  · rw [line]
    exact readUnits_short rfl rest
  · rw [carriage]
    exact readUnits_short rfl rest
  · rw [tab]
    exact readUnits_short rfl rest
  · rw [back]
    exact readUnits_short rfl rest
  · rw [feed]
    exact readUnits_short rfl rest
  · exact readUnits_code control rest
  · exact readUnits_itself quote backslash control rest

theorem readUnits_escaped (content rest : List Char) :
    readUnits (content.flatMap escapeChar ++ '"' :: rest) = some (content.map Char.toNat, rest) := by
  induction content with
  | nil => rw [List.flatMap_nil, List.nil_append, readUnits, List.map_nil]
  | cons c more ih =>
    rw [List.flatMap_cons, List.append_assoc, readUnits_escapeChar, ih]
    rfl

/-- No half of a surrogate pair is a character. -/
theorem toNat_not_surrogate (c : Char) : isHigh c.toNat = false ∧ isLow c.toNat = false := by
  have valid : c.toNat < 0xD800 ∨ 0xDFFF < c.toNat ∧ c.toNat < 0x110000 := c.valid
  simp only [isHigh, isLow, Bool.and_eq_false_iff, decide_eq_false_iff_not]
  omega

theorem joinUnits_toNat (content : List Char) :
    joinUnits (content.map Char.toNat) = some content := by
  induction content with
  | nil => rfl
  | cons c rest ih =>
    obtain ⟨high, low⟩ := toNat_not_surrogate c
    cases rest with
    | nil => simp [joinUnits, high, low]
    | cons next more =>
      rw [List.map_cons] at ih ⊢
      rw [List.map_cons, joinUnits, high, low, ih]
      simp

/-- A text that has been printed is read again, whatever stands behind its closing quote. -/
theorem readText_printText (content : Option String) (rest : List Char) :
    ∃ body, printText content ++ rest = '"' :: body ∧ readText body = some (content, rest) := by
  cases content with
  | none => exact ⟨_, rfl, rfl⟩
  | some content =>
    refine ⟨content.toList.flatMap escapeChar ++ '"' :: rest, by simp [printText], ?_⟩
    simp only [readText, readUnits_escaped, Option.map_some, joinUnits_toNat, String.ofList_toList]

/-! ### Values -/

/-- A value without numbers in it. -/
inductive Numberless : Json → Prop
  | null : Numberless .null
  | bool (value : Bool) : Numberless (.bool value)
  | string (content : Option String) : Numberless (.string content)
  | array {items : List Json} (each : ∀ item ∈ items, Numberless item) : Numberless (.array items)
  | object {members : List (Option String × Json)}
    (each : ∀ member ∈ members, Numberless member.2) : Numberless (.object members)

variable {fuel : Nat}

theorem skipSpace_cons {first : Char} (solid : isSpace first = false) (more : List Char) :
    skipSpace (first :: more) = first :: more := by
  rw [skipSpace, List.dropWhile_cons, solid, if_neg Bool.false_ne_true]

theorem printText_cons (content : Option String) : ∃ more, printText content = '"' :: more := by
  cases content with
  | none => exact ⟨_, rfl⟩
  | some content => exact ⟨_, rfl⟩

theorem printItems_cons (item next : Json) (more : List Json) :
    printItems (item :: next :: more) = item.print ++ ',' :: printItems (next :: more) := by
  rw [printItems]
  nofun

theorem printMembers_cons (name : Option String) (value : Json) (next : Option String × Json)
    (more : List (Option String × Json)) :
    printMembers ((name, value) :: next :: more)
      = printText name ++ ':' :: value.print ++ ',' :: printMembers (next :: more) := by
  rw [printMembers]
  nofun

theorem printMembers_starts (member : Option String × Json) (others : List (Option String × Json)) :
    ∃ more, printMembers (member :: others) = '"' :: more := by
  obtain ⟨name, value⟩ := member
  obtain ⟨more, quoted⟩ := printText_cons name
  cases others with
  | nil => exact ⟨_, by rw [printMembers, quoted, List.cons_append]⟩
  | cons next later => exact ⟨_, by rw [printMembers_cons, quoted, List.cons_append, List.cons_append]⟩

theorem printItems_eq_append (item : Json) (others : List Json) :
    ∃ more, printItems (item :: others) = item.print ++ more := by
  cases others with
  | nil => exact ⟨[], by rw [printItems, List.append_nil]⟩
  | cons next more => exact ⟨_, printItems_cons item next more⟩

/-- A printed value does not start with a blank, nor does it start as an array ends. -/
theorem print_cons {value : Json} (numberless : value.Numberless) :
    ∃ first more, value.print = first :: more ∧ isSpace first = false ∧ first ≠ ']' := by
  cases numberless with
  | null => exact ⟨_, _, by rw [print], by decide, by decide⟩
  | bool value =>
    cases value with
    | false => exact ⟨_, _, by rw [print], by decide, by decide⟩
    | true => exact ⟨_, _, by rw [print], by decide, by decide⟩
  | string content =>
    obtain ⟨more, printed⟩ := printText_cons content
    exact ⟨_, more, by rw [print, printed], by decide, by decide⟩
  | array each => exact ⟨_, _, by rw [print, List.cons_append], by decide, by decide⟩
  | object each => exact ⟨_, _, by rw [print, List.cons_append], by decide, by decide⟩

theorem readValue_array {first : Char} (solid : isSpace first = false) (apart : first ≠ ']')
    (more : List Char) :
    readValue (fuel + 1) ('[' :: first :: more)
      = (readItems fuel (first :: more)).map fun (items, rest) => (.array items, rest) := by
  rw [readValue, skipSpace_cons rfl]
  simp only [skipSpace_cons solid]
  split
  next ends =>
    cases ends
    exact absurd rfl apart
  · rfl

theorem readValue_object (more : List Char) :
    readValue (fuel + 1) ('\x7b' :: '"' :: more)
      = (readMembers fuel ('"' :: more)).map fun (members, rest) => (.object members, rest) := by
  rw [readValue, skipSpace_cons rfl]
  rfl

/-- What is printed of a value is read as the value, whatever stands behind it. -/
def Reads (value : Json) : Prop :=
  ∀ (fuel : Nat) (rest : List Char), value.print.length < fuel →
    readValue fuel (value.print ++ rest) = some (value, rest)

section Lists

variable {text rest : List Char} {value : Json}

theorem readItems_last (read : readValue fuel text = some (value, ']' :: rest)) :
    readItems (fuel + 1) text = some ([value], rest) := by
  have ends : skipSpace (']' :: rest) = ']' :: rest := skipSpace_cons rfl rest
  simp only [readItems, read, Option.bind_eq_bind, Option.bind_some, ends]
  rfl

theorem readItems_next (read : readValue fuel text = some (value, ',' :: rest)) :
    readItems (fuel + 1) text
      = (readItems fuel rest).map fun (items, rest) => (value :: items, rest) := by
  have goes : skipSpace (',' :: rest) = ',' :: rest := skipSpace_cons rfl rest
  simp only [readItems, read, Option.bind_eq_bind, Option.bind_some, goes]
  cases readItems fuel rest <;> rfl

theorem readMembers_last (name : Option String)
    (read : readValue fuel text = some (value, '\x7d' :: rest)) :
    readMembers (fuel + 1) (printText name ++ ':' :: text) = some ([(name, value)], rest) := by
  obtain ⟨body, printed, named⟩ := readText_printText name (':' :: text)
  have colon : skipSpace (':' :: text) = ':' :: text := skipSpace_cons rfl text
  have ends : skipSpace ('\x7d' :: rest) = '\x7d' :: rest := skipSpace_cons rfl rest
  rw [printed, readMembers, skipSpace_cons rfl]
  simp only [named, read, Option.bind_eq_bind, Option.bind_some, colon, ends]
  rfl

theorem readMembers_next (name : Option String)
    (read : readValue fuel text = some (value, ',' :: rest)) :
    readMembers (fuel + 1) (printText name ++ ':' :: text)
      = (readMembers fuel rest).map fun (members, rest) => ((name, value) :: members, rest) := by
  obtain ⟨body, printed, named⟩ := readText_printText name (':' :: text)
  have colon : skipSpace (':' :: text) = ':' :: text := skipSpace_cons rfl text
  have goes : skipSpace (',' :: rest) = ',' :: rest := skipSpace_cons rfl rest
  rw [printed, readMembers, skipSpace_cons rfl]
  simp only [named, read, Option.bind_eq_bind, Option.bind_some, colon, goes]
  cases readMembers fuel rest <;> rfl

end Lists

theorem readItems_print {items : List Json} (filled : items ≠ []) (each : ∀ item ∈ items, item.Reads)
    (enough : (printItems items).length + 1 < fuel) (rest : List Char) :
    readItems fuel (printItems items ++ ']' :: rest) = some (items, rest) := by
  induction items generalizing fuel with
  | nil => exact absurd rfl filled
  | cons item others ih =>
    obtain ⟨fuel, rfl⟩ := Nat.exists_eq_succ_of_ne_zero (Nat.ne_zero_of_lt enough)
    have reads := each item List.mem_cons_self
    cases others with
    | nil =>
      rw [printItems] at enough ⊢
      exact readItems_last (reads fuel _ (by omega))
    | cons next more =>
      rw [printItems_cons, List.length_append, List.length_cons] at enough
      -- the comma makes up for the fuel that the step takes
      have later : readItems fuel (printItems (next :: more) ++ ']' :: rest)
          = some (next :: more, rest) :=
        ih (List.cons_ne_nil next more)
          (fun other member => each other (List.mem_cons_of_mem _ member)) (by omega)
      rw [printItems_cons, List.append_assoc, List.cons_append,
        readItems_next (reads fuel _ (by omega)), later]
      rfl

theorem readMembers_print {members : List (Option String × Json)} (filled : members ≠ [])
    (each : ∀ member ∈ members, member.2.Reads)
    (enough : (printMembers members).length + 1 < fuel) (rest : List Char) :
    readMembers fuel (printMembers members ++ '\x7d' :: rest) = some (members, rest) := by
  induction members generalizing fuel with
  | nil => exact absurd rfl filled
  | cons member others ih =>
    obtain ⟨name, value⟩ := member
    obtain ⟨fuel, rfl⟩ := Nat.exists_eq_succ_of_ne_zero (Nat.ne_zero_of_lt enough)
    have reads : value.Reads := each (name, value) List.mem_cons_self
    cases others with
    | nil =>
      rw [printMembers, List.length_append, List.length_cons] at enough
      rw [printMembers, List.append_assoc, List.cons_append]
      exact readMembers_last name (reads fuel _ (by omega))
    | cons next more =>
      rw [printMembers_cons] at enough ⊢
      simp only [List.length_append, List.length_cons] at enough
      have later : readMembers fuel (printMembers (next :: more) ++ '\x7d' :: rest)
          = some (next :: more, rest) :=
        ih (List.cons_ne_nil next more)
          (fun other member => each other (List.mem_cons_of_mem _ member)) (by omega)
      simp only [List.append_assoc, List.cons_append]
      rw [readMembers_next name (reads fuel _ (by omega)), later]
      rfl

theorem reads_of_succ {value : Json} (succ : ∀ (fuel : Nat) (rest : List Char),
    value.print.length ≤ fuel → readValue (fuel + 1) (value.print ++ rest) = some (value, rest)) :
    value.Reads := by
  intro fuel rest enough
  obtain ⟨fuel, rfl⟩ := Nat.exists_eq_succ_of_ne_zero (Nat.ne_zero_of_lt enough)
  exact succ fuel rest (Nat.le_of_lt_succ enough)

theorem Numberless.reads {value : Json} (numberless : value.Numberless) : value.Reads := by
  induction numberless with
  | null =>
    apply reads_of_succ
    intro fuel rest _
    rw [print, readValue]
    rfl
  | bool value =>
    apply reads_of_succ
    intro fuel rest _
    rw [print.eq_def]
    cases value with
    | false => rfl
    | true => rfl
  | string content =>
    apply reads_of_succ
    intro fuel rest _
    obtain ⟨body, printed, read⟩ := readText_printText content rest
    rw [print, printed, readValue, skipSpace_cons rfl]
    simp only [read, Option.map_some]
  | @array items each ih =>
    apply reads_of_succ
    intro fuel rest enough
    rw [print, List.length_append, List.length_cons, List.length_singleton] at enough
    rw [print, List.append_assoc, List.cons_append, List.singleton_append]
    cases items with
    | nil =>
      rw [printItems, readValue]
      rfl
    | cons item others =>
      have read := readItems_print (List.cons_ne_nil item others) ih enough rest
      -- what the items start with is neither skipped nor taken for the end of the array
      obtain ⟨more, printed⟩ := printItems_eq_append item others
      obtain ⟨first, inner, starts, solid, apart⟩ := print_cons (each item List.mem_cons_self)
      simp only [printed, starts, List.cons_append] at read ⊢
      rw [readValue_array solid apart, read]
      rfl
  | @object members each ih =>
    apply reads_of_succ
    intro fuel rest enough
    rw [print, List.length_append, List.length_cons, List.length_singleton] at enough
    rw [print, List.append_assoc, List.cons_append, List.singleton_append]
    cases members with
    | nil =>
      rw [printMembers, readValue]
      rfl
    | cons member others =>
      have read := readMembers_print (List.cons_ne_nil member others) ih enough rest
      obtain ⟨more, printed⟩ := printMembers_starts member others
      simp only [printed, List.cons_append] at read ⊢
      rw [readValue_object, read]
      rfl

/-- A text that a value without numbers was printed to holds the value. -/
theorem read?_render {value : Json} (numberless : value.Numberless) :
    read? value.render = some value := by
  have read := numberless.reads (value.print.length + 1) [] (Nat.lt_succ_self _)
  rw [List.append_nil] at read
  rw [read?, render, String.toList_ofList]
  simp only [read, Option.bind_eq_bind, Option.bind_some]
  rfl

end Signpost.Json

import Mathlib.Data.List.TakeWhile
import Signpost.Regex.Brackets

/-!
# How far the readers of lexemes look

What a reader takes from a text does not depend on what follows, provided that a closing parenthesis
follows directly. There is one exception: with the extended flag the blanks behind a lexeme are
skipped, and a comment among them that reaches the end of the text swallows the parenthesis too.
-/
namespace Signpost.Regex

open Signpost.Text

/-- A reader takes the same from a text in front of a closing parenthesis, unless the text ends in a
comment, which then swallows the parenthesis and an anchor behind it. -/
def Confined {α : Type} (reader : List Char → Option (α × List Char)) : Prop :=
  ∀ text value rest, reader text = some (value, rest) →
    (∀ more, reader (text ++ ')' :: more) = some (value, rest ++ ')' :: more)) ∨
      (rest = [] ∧ reader (text ++ [')', '$']) = some (value, []))

theorem Confined.inside {α : Type} {reader : List Char → Option (α × List Char)}
    (confined : Confined reader) {text rest : List Char} {value : α}
    (taken : reader text = some (value, rest)) (left : rest ≠ []) (more : List Char) :
    reader (text ++ ')' :: more) = some (value, rest ++ ')' :: more) := by
  rcases confined text value rest taken with same | ⟨none, -⟩
  · exact same more
  · exact absurd none left

theorem Confined.map {α β : Type} {reader : List Char → Option (α × List Char)}
    (confined : Confined reader) (convert : α → β) :
    Confined fun text => (reader text).map fun (value, rest) => (convert value, rest) := by
  intro text value rest taken
  obtain ⟨⟨origin, behind⟩, found, only⟩ := Option.map_eq_some_iff.mp taken
  cases only
  rcases confined text origin _ found with same | ⟨rfl, comment⟩
  · exact .inl fun more => Option.map_eq_some_iff.mpr ⟨_, same more, rfl⟩
  · exact .inr ⟨rfl, Option.map_eq_some_iff.mpr ⟨_, comment, rfl⟩⟩

theorem Confined.convert {α β : Type} {reader : List Char → Option (α × List Char)}
    (confined : Confined reader) (convert : α → Option β) :
    Confined fun text => (reader text).bind fun (value, rest) =>
      (convert value).map fun value => (value, rest) := by
  intro text value rest taken
  obtain ⟨⟨origin, behind⟩, found, converted⟩ := Option.bind_eq_some_iff.mp taken
  obtain ⟨valid, known, only⟩ := Option.map_eq_some_iff.mp converted
  cases only
  rcases confined text origin _ found with same | ⟨rfl, comment⟩
  · exact .inl fun more => by simp [same, known]
  · exact .inr ⟨rfl, by simp [comment, known]⟩

theorem dropWhile_append {drop : Char → Bool} {text : List Char} (more : List Char)
    (left : text.dropWhile drop ≠ []) :
    (text ++ more).dropWhile drop = text.dropWhile drop ++ more := by
  rw [List.dropWhile_append, if_neg (by simpa using left)]

theorem takeWhile_append {take : Char → Bool} {text : List Char} (more : List Char)
    (left : text.dropWhile take ≠ []) :
    (text ++ more).takeWhile take = text.takeWhile take := by
  rw [List.takeWhile_append, if_neg]
  intro whole
  apply left
  have parts := congrArg List.length (@List.takeWhile_append_dropWhile _ take text)
  rw [List.length_append, whole] at parts
  exact List.length_eq_zero_iff.mp (by omega)

/-! ### Blanks and comments -/

theorem skipBlanks_append {inComment : Bool} {text : List Char} (more : List Char)
    (left : skipBlanks inComment text ≠ []) :
    skipBlanks inComment (text ++ more) = skipBlanks inComment text ++ more := by
  fun_induction skipBlanks inComment text with
  | case1 => exact absurd rfl left
  | case2 c rest ih => simpa [skipBlanks] using ih left
  | case3 _ rest outside ih => simpa [skipBlanks, outside] using ih left
  | case4 _ c rest outside unmarked blank ih =>
    simpa [skipBlanks, outside, unmarked, blank] using ih left
  | case5 _ c rest outside unmarked solid => simp [skipBlanks, outside, unmarked, solid]

/-- Where nothing is left, the text has ended outside a comment or inside one. -/
theorem skipBlanks_exhausted {inComment : Bool} {text : List Char}
    (none : skipBlanks inComment text = []) :
    (∀ more, skipBlanks inComment (text ++ more) = skipBlanks false more) ∨
      ∀ more, skipBlanks inComment (text ++ more) = skipBlanks true more := by
  fun_induction skipBlanks inComment text with
  | case1 inComment => cases inComment <;> simp
  | case2 c rest ih => simpa [skipBlanks] using ih none
  | case3 _ rest outside ih => simpa [skipBlanks, outside] using ih none
  | case4 _ c rest outside unmarked blank ih =>
    simpa [skipBlanks, outside, unmarked, blank] using ih none
  | case5 => cases none

theorem skipBlanks_blank {text : List Char} (blank : ∀ c ∈ text, isBlank c) (inComment : Bool) :
    skipBlanks inComment text = [] := by
  fun_induction skipBlanks inComment text with
  | case1 => rfl
  | case2 c rest ih | case3 _ rest _ ih | case4 _ c rest _ _ _ ih =>
    exact ih fun other member => blank other (List.mem_cons_of_mem _ member)
  | case5 _ c rest _ _ solid => exact absurd (blank c List.mem_cons_self) solid

theorem skipBlanks_dropWhile (text : List Char) :
    skipBlanks false (text.dropWhile isBlank) = skipBlanks false text := by
  induction text with
  | nil => rfl
  | cons c rest ih =>
    by_cases blank : isBlank c
    · have unmarked : c ≠ '#' := by
        rintro rfl
        exact absurd blank (by decide)
      simpa [skipBlanks, blank, unmarked] using ih
    · simp [blank]

theorem skipBlanks_length (inComment : Bool) (text : List Char) :
    (skipBlanks inComment text).length ≤ text.length := by
  fun_induction skipBlanks inComment text with
  | case1 => exact Nat.le_refl 0
  | case2 c rest ih | case3 _ rest _ ih | case4 _ c rest _ _ _ ih => exact Nat.le_succ_of_le ih
  | case5 => exact Nat.le_refl _

namespace Flags

variable (flags : Flags)

@[simp]
theorem skip_nil : flags.skip [] = [] := by
  rw [skip]
  split <;> rfl

theorem skip_length (text : List Char) : (flags.skip text).length ≤ text.length := by
  rw [skip]
  split
  · exact skipBlanks_length false text
  · exact Nat.le_refl _

theorem skip_append {text : List Char} (more : List Char) (left : flags.skip text ≠ []) :
    flags.skip (text ++ more) = flags.skip text ++ more := by
  rw [skip] at left
  rw [skip, skip]
  split
  next extended =>
    rw [if_pos extended] at left
    exact skipBlanks_append more left
  next => rfl

/-- What is skipped in front of a closing parenthesis ends there or is a comment. -/
theorem skip_cases (text : List Char) :
    (∀ more, flags.skip (text ++ ')' :: more) = flags.skip text ++ ')' :: more) ∨
      (flags.skip text = [] ∧ flags.skip (text ++ [')', '$']) = []) := by
  by_cases left : flags.skip text = []
  · by_cases extended : flags.extended
    · have blanks (text : List Char) : flags.skip text = skipBlanks false text := if_pos extended
      rw [blanks] at left
      simp only [blanks, left]
      -- blanks alone are passed, and a comment goes on behind the parenthesis
      rcases skipBlanks_exhausted left with outside | inside
      · have solid : ¬ isBlank ')' := by decide
        refine .inl fun more => ?_
        rw [outside, List.nil_append]
        simp [skipBlanks, solid]
      · refine .inr ⟨trivial, ?_⟩
        rw [inside]
        decide
    · rw [skip, if_neg extended] at left
      subst left
      exact .inl fun more => by simp [skip, extended]
  -- what has stopped in front of a character stops there in any text
  · exact .inl fun more => flags.skip_append _ left

/-- What is looked at behind blanks and the start of a comment. -/
def lookPast (text : List Char) : List Char :=
  match text.dropWhile isBlank with
  | '#' :: rest => rest.dropWhile isBlank
  | rest => rest

theorem lookPast_append {text : List Char} (more : List Char) (left : lookPast text ≠ []) :
    lookPast (text ++ more) = lookPast text ++ more := by
  rw [lookPast] at left
  rw [lookPast, lookPast]
  have outer : text.dropWhile isBlank ≠ [] := by
    intro none
    rw [none] at left
    exact left rfl
  rw [dropWhile_append more outer]
  split at left
  next rest comment =>
    rw [comment]
    exact dropWhile_append more left
  -- a number sign begins a comment only behind blanks, where the longer text has the same character
  next uncommented =>
    split
    next rest comment =>
      cases shape : text.dropWhile isBlank with
      | nil => exact absurd shape outer
      | cons c others =>
        rw [shape] at comment
        exact absurd (by rw [shape, (List.cons.inj comment).1]) (uncommented others)
    next => rfl

theorem peek_eq (text : List Char) :
    flags.peek text
      = if flags.extended then (lookPast text).head? <|> text.head? else text.head? := rfl

/-- A text with nothing behind its blanks is skipped as a whole. -/
theorem skip_of_lookPast {text : List Char} (extended : flags.extended)
    (none : lookPast text = []) : flags.skip text = [] := by
  rw [skip, if_pos extended, ← skipBlanks_dropWhile]
  rw [lookPast] at none
  split at none
  next rest comment =>
    rw [comment]
    exact skipBlanks_blank (List.dropWhile_eq_nil_iff.mp none) true
  next =>
    rw [none]
    rfl

/-- The next character that counts is known where something counts, and where it is a bracket or a
hyphen. -/
theorem peek_append {text : List Char} (more : List Char)
    (known : flags.skip text ≠ [] ∨ flags.peek text = some ']' ∨ flags.peek text = some '-') :
    flags.peek (text ++ more) = flags.peek text := by
  by_cases extended : flags.extended
  · have past : lookPast text ≠ [] := by
      intro none
      have head : flags.peek text = text.head? := by simp [peek_eq, extended, none]
      rcases known with left | known
      · exact left (flags.skip_of_lookPast extended none)
      · -- the character would be the first of the text, and those are not looked past
        rw [head] at known
        obtain ⟨c, shape, solid⟩ : ∃ c, text.head? = some c ∧ isBlank c = false ∧ c ≠ '#' := by
          rcases known with bracket | hyphen
          · exact ⟨']', bracket, by decide, by decide⟩
          · exact ⟨'-', hyphen, by decide, by decide⟩
        obtain ⟨rest, rfl⟩ := List.head?_eq_some_iff.mp shape
        simp [lookPast, solid] at none
    rw [peek_eq, peek_eq, if_pos extended, if_pos extended, lookPast_append more past]
    obtain ⟨c, rest, shape⟩ := List.exists_cons_of_ne_nil past
    simp [shape]
  · have filled : text ≠ [] := by
      rintro rfl
      simp [peek_eq, extended] at known
    obtain ⟨c, rest, rfl⟩ := List.exists_cons_of_ne_nil filled
    simp [peek_eq, extended]

end Flags

/-! ### Numbers -/

variable {flags : Flags}

theorem hexDigits_confined (count value : Nat) : Confined (hexDigits flags count value) := by
  induction count generalizing value with
  | zero =>
    intro text value rest taken
    cases taken
    exact .inl fun more => rfl
  | succ count ih =>
    intro text result rest taken
    cases text with
    | nil => cases taken
    | cons c others =>
      simp only [hexDigits, Option.bind_eq_bind, Option.bind_eq_some_iff] at taken
      obtain ⟨digit, known, later⟩ := taken
      rcases flags.skip_cases others with same | ⟨none, swallowed⟩
      -- the digit stands in front of what is skipped, so the rest of the digits decides
      · rcases ih _ _ _ _ later with within_ | ⟨rfl, comment⟩
        · left
          simp [hexDigits, known, same, within_]
        · right
          simp [hexDigits, known, same, comment]
      · -- nothing is left behind this digit, so it is the last one
        rw [none] at later
        cases count with
        | zero =>
          cases later
          right
          simp [hexDigits, known, swallowed]
        | succ count => cases later

/-- More fuel changes nothing for a number that ends. -/
theorem hexUntilBrace_fuel {fuel more : Nat} {value : Option Nat} {text : List Char}
    {result : Nat × List Char} (taken : hexUntilBrace flags fuel value text = some result) :
    hexUntilBrace flags (fuel + more) value text = some result := by
  induction fuel generalizing value text with
  | zero => cases taken
  | succ fuel ih =>
    cases text with
    | nil => cases taken
    | cons c rest =>
      rw [Nat.add_right_comm, hexUntilBrace]
      rw [hexUntilBrace] at taken
      split at taken
      -- the closing brace ends the number in either reading
      next closes => rw [if_pos closes, taken]
      next =>
        obtain ⟨digit, known, later⟩ := Option.bind_eq_some_iff.mp taken
        simp_all

theorem hexUntilBrace_confined (fuel : Nat) (value : Option Nat) :
    Confined (hexUntilBrace flags fuel value) := by
  induction fuel generalizing value with
  | zero => rintro text result rest ⟨⟩
  | succ fuel ih =>
    intro text result rest taken
    cases text with
    | nil => cases taken
    | cons c others =>
      simp only [List.cons_append, hexUntilBrace] at taken ⊢
      split at taken
      next closes =>
        obtain ⟨n, rfl, only⟩ := Option.map_eq_some_iff.mp taken
        cases only
        rcases flags.skip_cases others with same | ⟨none, swallowed⟩
        · left
          simp [closes, same]
        · right
          simp [closes, none, swallowed]
      next digit =>
        obtain ⟨n, known, later⟩ := Option.bind_eq_some_iff.mp taken
        -- a digit is not the end, so something is left behind it
        have left : flags.skip others ≠ [] := by
          intro none
          rw [none] at later
          cases fuel <;> cases later
        simp only [if_neg digit, known, flags.skip_append _ left]
        exact ih _ _ _ _ later

/-- A code point in braces or in digits, given what stands behind the letter. -/
theorem readCode_eq {width : Nat} {text : List Char} {c : Char} {rest : List Char}
    (shape : flags.skip text = c :: rest) :
    readCode flags width text =
      ((if c = '\x7b' then hexUntilBrace flags (rest.length + 1) none (flags.skip rest)
        else (hexDigits flags width 0 (c :: rest)).filter fun (n, _) =>
          !(flags.ascii && width = 2 && 0x80 ≤ n)).bind fun (n, rest) =>
            (charOfCode? n).map fun c => (c, rest)) := by
  rw [readCode, shape]
  split
  next known =>
    obtain ⟨rfl, rfl⟩ := List.cons.inj known
    exact Option.bind_congr fun _ _ => Option.map_eq_bind.symm
  next other =>
    rw [if_neg fun brace => other rest (congrArg (· :: rest) brace)]
    exact Option.bind_congr fun _ _ => Option.map_eq_bind.symm

theorem readCode_confined {width : Nat} (positive : width ≠ 0) :
    Confined (readCode flags width) := by
  intro text value rest taken
  -- a code of at least one digit has a character that it begins with
  have left : flags.skip text ≠ [] := by
    intro none
    obtain ⟨count, rfl⟩ := Nat.exists_eq_succ_of_ne_zero positive
    simp [readCode, none, hexDigits] at taken
  obtain ⟨first, others, shape⟩ := List.exists_cons_of_ne_nil left
  have longer (more : List Char) : flags.skip (text ++ more) = first :: (others ++ more) := by
    rw [flags.skip_append more left, shape, List.cons_append]
  simp only [readCode_eq (longer _)]
  rw [readCode_eq shape] at taken
  obtain ⟨⟨n, after⟩, digits, valid⟩ := Option.bind_eq_some_iff.mp taken
  obtain ⟨c, code, only⟩ := Option.map_eq_some_iff.mp valid
  cases only
  split at digits
  next brace =>
    have filled : flags.skip others ≠ [] := by
      intro none
      rw [none] at digits
      cases digits
    -- the longer text brings more fuel than it has characters
    have fuel (more : List Char) :
        (others ++ more).length + 1 = others.length + 1 + more.length := by
      rw [List.length_append]
      omega
    simp only [if_pos brace, flags.skip_append _ filled, fuel]
    rcases hexUntilBrace_confined _ _ _ _ _ digits with same | ⟨rfl, comment⟩
    · exact .inl fun more => by simp [hexUntilBrace_fuel (same more), code]
    · exact .inr ⟨rfl, by rw [hexUntilBrace_fuel comment]; simp [code]⟩
  next plain =>
    obtain ⟨found, valid⟩ := Option.filter_eq_some_iff.mp digits
    simp only [if_neg plain]
    rcases hexDigits_confined _ _ _ _ _ found with same | ⟨rfl, comment⟩
    · refine .inl fun more => ?_
      rw [← List.cons_append, same, Option.filter_some, if_pos valid]
      simp [code]
    · refine .inr ⟨rfl, ?_⟩
      rw [← List.cons_append, comment, Option.filter_some, if_pos valid]
      simp [code]

/-- Where decimal digits end before the text does, what follows changes nothing. -/
theorem decimalDigits_append {fuel further : Nat} {value : Option Nat} {text : List Char}
    (enough : text.length < fuel) (as : fuel ≤ further)
    (left : (decimalDigits flags fuel value text).2 ≠ []) (more : List Char) :
    decimalDigits flags further value (text ++ more)
      = ((decimalDigits flags fuel value text).1,
          (decimalDigits flags fuel value text).2 ++ more) := by
  induction fuel generalizing further value text with
  | zero => omega
  | succ fuel ih =>
    obtain ⟨further, rfl⟩ : ∃ fewer, further = fewer + 1 := ⟨further - 1, by omega⟩
    cases text with
    | nil => exact absurd rfl left
    | cons c rest =>
      simp only [decimalDigits] at left
      simp only [List.cons_append, decimalDigits]
      split at left
      next digit =>
        -- digits at the end of the text would leave nothing
        have filled : flags.skip rest ≠ [] := by
          intro none
          rw [none] at left
          cases fuel <;> exact left rfl
        have shorter : (flags.skip rest).length < fuel :=
          Nat.lt_of_le_of_lt (flags.skip_length rest) (Nat.lt_of_succ_lt_succ enough)
        rw [if_pos digit, if_pos digit, flags.skip_append _ filled]
        exact ih shorter (Nat.le_of_succ_le_succ as) left
      next end_ => simp [end_]

theorem readCount_append {text : List Char} (left : (readCount flags text).2 ≠ [])
    (more : List Char) :
    readCount flags (text ++ more)
      = ((readCount flags text).1, (readCount flags text).2 ++ more) := by
  simp only [readCount] at left
  -- something that is left in the end has been left by every step before
  have digits : (decimalDigits flags (text.length + 1) none (text.dropWhile isBlank)).2 ≠ [] := by
    intro none
    rw [none] at left
    exact left rfl
  have start : text.dropWhile isBlank ≠ [] := by
    intro none
    rw [none] at digits
    exact digits rfl
  have shorter : (text.dropWhile isBlank).length < text.length + 1 :=
    Nat.lt_succ_of_le (List.length_dropWhile_le _ _)
  have as : text.length + 1 ≤ (text ++ more).length + 1 := by simp
  have longer := decimalDigits_append shorter as digits more
  simp only [readCount, dropWhile_append _ start, longer]
  obtain ⟨c, rest, shape⟩ := List.exists_cons_of_ne_nil digits
  rw [shape] at left ⊢
  simp only [List.cons_append]
  -- a blank behind the digits makes the reader skip once more
  by_cases blank : isBlank c
  · simp only [blank, if_true] at left ⊢
    have filled : (c :: rest).dropWhile isBlank ≠ [] := by
      intro none
      rw [none] at left
      exact left flags.skip_nil
    rw [← List.cons_append, dropWhile_append _ filled, flags.skip_append _ left]
  · simp [blank]

/-! ### Escapes -/

theorem boundaryName_append {fuel further : Nat} {text : List Char}
    (enough : text.length < fuel) (as : fuel ≤ further)
    (left : (boundaryName flags fuel text).2 ≠ []) (more : List Char) :
    boundaryName flags further (text ++ more)
      = ((boundaryName flags fuel text).1, (boundaryName flags fuel text).2 ++ more) := by
  induction fuel generalizing further text with
  | zero => omega
  | succ fuel ih =>
    obtain ⟨further, rfl⟩ : ∃ fewer, further = fewer + 1 := ⟨further - 1, by omega⟩
    cases text with
    | nil => exact absurd rfl left
    | cons c rest =>
      simp only [boundaryName] at left
      simp only [List.cons_append, boundaryName]
      split at left
      next letter =>
        -- the name has not been read to its end, so a character of it is left
        have filled : flags.skip rest ≠ [] := by
          intro none
          rw [none] at left
          cases fuel <;> exact left rfl
        have shorter : (flags.skip rest).length < fuel :=
          Nat.lt_of_le_of_lt (flags.skip_length rest) (Nat.lt_of_succ_lt_succ enough)
        rw [if_pos letter, if_pos letter, flags.skip_append _ filled,
          ih shorter (Nat.le_of_succ_le_succ as) left]
      next end_ => simp [end_]

theorem readBoundary_append {text rest : List Char} {condition : Assertion}
    (taken : readBoundary flags text = some (condition, rest)) (more : List Char) :
    readBoundary flags (text ++ ')' :: more) = some (condition, rest ++ ')' :: more) := by
  cases text with
  | nil =>
    cases taken
    rfl
  | cons first others =>
    by_cases brace : first = '\x7b'
    · subst brace
      rw [List.cons_append]
      rw [readBoundary] at taken ⊢
      -- nothing behind the brace would be no boundary at all
      have left : flags.skip others ≠ [] := by
        intro none
        rw [none] at taken
        cases taken
      obtain ⟨c, inner, shape⟩ := List.exists_cons_of_ne_nil left
      rw [flags.skip_append _ left, shape, List.cons_append]
      rw [shape] at taken
      dsimp only at taken ⊢
      split at taken
      next letter =>
        rw [if_pos letter]
        split at taken
        next name after ends =>
          have filled : (boundaryName flags (inner.length + 2) (c :: inner)).2 ≠ [] := by
            rw [ends]
            exact List.cons_ne_nil _ _
          have as : inner.length + 2 ≤ (inner ++ ')' :: more).length + 2 := by simp
          have longer := boundaryName_append (by simp) as filled (')' :: more)
          rw [List.cons_append, ends] at longer
          rw [longer]
          dsimp only [List.cons_append] at taken ⊢
          split at taken
          all_goals simp_all
        next => cases taken
      -- another character behind the brace leaves the brace to the pattern
      next other =>
        rw [if_neg other]
        cases taken
        rfl
    -- without a brace the boundary has no name
    · have plain (text : List Char) :
          readBoundary flags (first :: text)
            = some (.boundary flags.letters, first :: text) := by
        simp [readBoundary, brace]
      rw [plain] at taken
      cases taken
      rw [List.cons_append, plain]

theorem untilBrace_append {fuel further : Nat} {text name rest : List Char}
    (taken : untilBrace flags fuel text = some (name, rest)) (as : fuel ≤ further)
    (more : List Char) : untilBrace flags further (text ++ more) = some (name, rest ++ more) := by
  induction fuel generalizing further text name with
  | zero => cases taken
  | succ fuel ih =>
    obtain ⟨further, rfl⟩ : ∃ fewer, further = fewer + 1 := ⟨further - 1, by omega⟩
    cases text with
    | nil => cases taken
    | cons c others =>
      rw [untilBrace] at taken
      rw [List.cons_append, untilBrace]
      split at taken
      next closes =>
        cases taken
        rw [if_pos closes]
      next inner =>
        obtain ⟨⟨letters, after⟩, found, only⟩ := Option.map_eq_some_iff.mp taken
        cases only
        -- the brace that closes the name is still to come
        have filled : flags.skip others ≠ [] := by
          intro none
          rw [none] at found
          cases fuel <;> cases found
        rw [if_neg inner, flags.skip_append more filled, ih found (Nat.le_of_succ_le_succ as)]
        rfl

theorem readPropertyName_confined : Confined (readPropertyName flags) := by
  intro text name rest taken
  rw [readPropertyName] at taken
  have left : flags.skip text ≠ [] := by
    intro none
    rw [none] at taken
    cases taken
  have longer (more : List Char) := flags.skip_append more left
  simp only [readPropertyName, longer]
  split at taken
  next others shape =>
    left
    intro more
    have as : others.length + 1 ≤ (others ++ ')' :: more).length + 1 := by simp
    have filled : flags.skip others ≠ [] := by
      intro none
      rw [none] at taken
      cases taken
    simp only [shape, List.cons_append, flags.skip_append _ filled]
    exact untilBrace_append taken as _
  next c others plain shape =>
    cases taken
    simp only [shape, List.cons_append]
    -- the name is one letter, behind which blanks are skipped
    rcases flags.skip_cases others with same | ⟨none, swallowed⟩
    · exact .inl fun more => by simp [same]
    · exact .inr ⟨none, by simp [swallowed]⟩
  next => cases taken

theorem readProperty_eq (text : List Char) :
    readProperty flags text = (readPropertyName flags text).bind fun (name, rest) =>
      (if flags.ascii then none else (CharClass.called? name).map flags.fold).map fun set =>
        (set, rest) := by
  rw [readProperty]
  refine Option.bind_congr fun (name, rest) _ => ?_
  by_cases ascii : flags.ascii
  · simp only [ascii, if_true, Option.map_none]
  · simp only [ascii, Bool.false_eq_true, if_false, Option.map_map]
    exact Option.map_eq_bind.symm

theorem readProperty_confined : Confined (readProperty flags) := by
  rw [show readProperty flags = _ from funext readProperty_eq]
  exact readPropertyName_confined.convert fun name =>
    if flags.ascii then none else (CharClass.called? name).map flags.fold

/-- All other escapes are one character long. -/
theorem readEscape_single {c : Char} (short : c ∉ ['x', 'u', 'U', 'b', 'p', 'P'])
    (rest : List Char) :
    readEscape flags (c :: rest)
      = (readEscape flags [c]).map fun (escape, _) => (escape, rest) := by
  simp only [List.mem_cons, List.not_mem_nil, not_or] at short
  simp only [readEscape]
  split
  · rfl
  · split
    all_goals simp_all [Function.comp_def]

theorem readEscape_confined : Confined (readEscape flags) := by
  intro text escape rest taken
  cases text with
  | nil => cases taken
  | cons c others =>
    by_cases short : c ∈ ['x', 'u', 'U', 'b', 'p', 'P']
    -- these escapes go on behind their letter, and all others end with it
    · simp only [List.mem_cons, List.not_mem_nil, or_false] at short
      rcases short with rfl | rfl | rfl | rfl | rfl | rfl
      · exact (readCode_confined (by decide)).map Escape.char others escape rest taken
      · exact (readCode_confined (by decide)).map Escape.char others escape rest taken
      · exact (readCode_confined (by decide)).map Escape.char others escape rest taken
      · obtain ⟨⟨condition, after⟩, found, only⟩ := Option.map_eq_some_iff.mp taken
        cases only
        exact .inl fun more =>
          Option.map_eq_some_iff.mpr ⟨_, readBoundary_append found more, rfl⟩
      · exact readProperty_confined.map Escape.set others escape rest taken
      · exact (readProperty_confined.map fun set => Escape.set (.complement set)) others escape rest taken
    · rw [readEscape_single short] at taken
      obtain ⟨⟨found, after⟩, single, only⟩ := Option.map_eq_some_iff.mp taken
      cases only
      left
      intro more
      rw [List.cons_append, readEscape_single short, single]
      rfl

theorem readItem_confined : Confined (readItem flags) := by
  intro text escape rest taken
  cases text with
  | nil => cases taken
  | cons c others =>
    by_cases escaped : c = '\\'
    · subst escaped
      exact readEscape_confined others escape rest taken
    · have plain (text : List Char) : readItem flags (c :: text) = some (.char c, text) := by
        simp [readItem]
      rw [plain] at taken
      cases taken
      exact .inl fun more => by rw [List.cons_append, plain]

end Signpost.Regex

import Signpost.Proofs.Regex.Confinement

/-!
# How far the reader of classes looks

A class ends at the bracket that closes it, so once it has been read nothing behind it matters. On
the way there every part has something left behind it; only the name of a class might reach further,
and no name reaches across a parenthesis.
-/
namespace Signpost.Regex

open Signpost.Text

variable {flags : Flags}

/-! ### Brackets -/

theorem leadingHyphens_append {fuel further : Nat} {bracket : Bracket} {text : List Char}
    (enough : text.length ≤ fuel) (as : fuel ≤ further)
    (left : (leadingHyphens flags fuel bracket text).2 ≠ []) (more : List Char) :
    leadingHyphens flags further bracket (text ++ more)
      = ((leadingHyphens flags fuel bracket text).1,
          (leadingHyphens flags fuel bracket text).2 ++ more) := by
  induction fuel generalizing further bracket text with
  | zero =>
    obtain rfl := List.length_eq_zero_iff.mp (Nat.le_zero.mp enough)
    exact absurd rfl left
  | succ fuel ih =>
    obtain ⟨further, rfl⟩ : ∃ fewer, further = fewer + 1 := ⟨further - 1, by omega⟩
    cases text with
    | nil => exact absurd rfl left
    | cons c rest =>
      by_cases hyphen : c = '-'
      · subst hyphen
        simp only [leadingHyphens] at left
        simp only [List.cons_append, leadingHyphens]
        -- the hyphens do not reach the end of the text
        have filled : flags.skip rest ≠ [] := by
          intro none
          rw [none] at left
          cases fuel <;> exact left rfl
        have shorter : (flags.skip rest).length ≤ fuel :=
          Nat.le_trans (flags.skip_length rest) (Nat.le_of_succ_le_succ enough)
        rw [flags.skip_append _ filled]
        exact ih shorter (Nat.le_of_succ_le_succ as) left
      · simp [leadingHyphens, hyphen]

/-- What stands first in a bracket: hyphens and then perhaps a closing bracket. -/
def openItems (flags : Flags) (negated : Bool) (inside : List Char) : Bracket × List Char :=
  match leadingHyphens flags inside.length { negated } inside with
  | (bracket, ']' :: rest) =>
    if bracket.items = .empty then (bracket.add (.single ']') 0, flags.skip rest)
    else (bracket, ']' :: rest)
  | opened => opened

theorem openBracket_caret {text rest : List Char} (caret : flags.skip text = '^' :: rest) :
    openBracket flags text = openItems flags true (flags.skip rest) := by
  rw [openBracket, caret]
  rfl

/-- Only a caret negates the class. -/
theorem openBracket_plain {text : List Char} (plain : (flags.skip text).head? ≠ some '^') :
    openBracket flags text = openItems flags false (flags.skip text) := by
  rw [openBracket]
  split
  next negated inside opened =>
    split at opened
    next caret =>
      rw [caret] at plain
      exact absurd rfl plain
    next =>
      cases opened
      rfl

theorem openItems_append {negated : Bool} {inside : List Char}
    (left : (openItems flags negated inside).2 ≠ []) (more : List Char) :
    openItems flags negated (inside ++ more)
      = ((openItems flags negated inside).1, (openItems flags negated inside).2 ++ more) := by
  -- nothing is left behind the opening if nothing is left behind its hyphens
  have hyphens : (leadingHyphens flags inside.length { negated } inside).2 ≠ [] := by
    intro none
    rw [openItems] at left
    split at left
    next opened => simp [opened] at none
    next => exact left none
  have as : inside.length ≤ (inside ++ more).length := by simp
  have longer := leadingHyphens_append (Nat.le_refl _) as hyphens more
  rw [openItems] at left ⊢
  rw [longer, openItems]
  generalize leadingHyphens flags inside.length { negated } inside = opened at left hyphens
  obtain ⟨bracket, rest⟩ := opened
  obtain ⟨c, others, rfl⟩ := List.exists_cons_of_ne_nil hyphens
  -- a bracket that closes at once is a character of the class
  by_cases closing : c = ']'
  · subst closing
    by_cases first : bracket.items = .empty
    · simp only [first, if_true] at left
      simp [first, flags.skip_append _ left]
    · simp [first]
  · simp [closing]

theorem openBracket_append {text : List Char} (left : (openBracket flags text).2 ≠ [])
    (more : List Char) :
    openBracket flags (text ++ more)
      = ((openBracket flags text).1, (openBracket flags text).2 ++ more) := by
  -- the opening is followed by something that is no comment
  have filled : flags.skip text ≠ [] := by
    intro none
    rw [openBracket_plain (by simp [none]), none] at left
    exact left rfl
  have longer := flags.skip_append more filled
  by_cases caret : (flags.skip text).head? = some '^'
  · obtain ⟨rest, known⟩ := List.head?_eq_some_iff.mp caret
    rw [known, List.cons_append] at longer
    rw [openBracket_caret known] at left ⊢
    have inside : flags.skip rest ≠ [] := by
      intro none
      rw [none] at left
      exact left rfl
    rw [openBracket_caret longer, flags.skip_append _ inside, openItems_append left]
  · have plain : (flags.skip (text ++ more)).head? ≠ some '^' := by
      obtain ⟨c, rest, shape⟩ := List.exists_cons_of_ne_nil filled
      rw [shape] at caret
      rwa [longer, shape]
    rw [openBracket_plain caret] at left ⊢
    rw [openBracket_plain plain, longer, openItems_append left]

theorem posix?_plain {name : String} {set : CharClass} (named : CharClass.posix? name = some set) :
    ')' ∉ name.toList := by
  unfold CharClass.posix? at named
  split at named
  all_goals first | decide | cases named

/-- The name of a class, after the caret that negates it. -/
def readName (flags : Flags) (negated : Bool) (text : List Char) :
    Option (CharClass × List Char) :=
  match text.dropWhile (· != ':') with
  | ':' :: ']' :: rest =>
    (CharClass.posix? (String.ofList (text.takeWhile (· != ':')))).bind fun set =>
      some (if negated then .complement (flags.fold set) else flags.fold set, rest)
  | _ => none

theorem readNamed_caret (text : List Char) :
    readNamed flags (':' :: '^' :: text) = readName flags true text := rfl

theorem readNamed_plain {text : List Char} (plain : text.head? ≠ some '^') :
    readNamed flags (':' :: text) = readName flags false text := by
  rw [readNamed]
  · rfl
  · rintro rest rfl
    exact plain rfl

/-- No name reaches across a parenthesis. -/
theorem readName_append (negated : Bool) (text more : List Char) :
    readName flags negated (text ++ ')' :: more)
      = (readName flags negated text).map fun (set, rest) => (set, rest ++ ')' :: more) := by
  -- a name ends at a colon; where there is none, the parenthesis ends up within a name that does
  -- not exist
  by_cases left : text.dropWhile (· != ':') = []
  · have unnamed : CharClass.posix?
        (String.ofList ((text ++ ')' :: more).takeWhile (· != ':'))) = none := by
      rw [Option.eq_none_iff_forall_ne_some]
      intro set named
      apply posix?_plain named
      have all := List.dropWhile_eq_nil_iff.mp left
      simp [List.takeWhile_append_of_pos all]
    simp only [readName, unnamed, left]
    split <;> rfl
  · obtain ⟨c, rest, shape⟩ := List.exists_cons_of_ne_nil left
    simp only [readName, takeWhile_append _ left, dropWhile_append _ left, shape]
    cases rest with
    | nil => simp
    | cons d others =>
      by_cases ends : c = ':' ∧ d = ']'
      · obtain ⟨rfl, rfl⟩ := ends
        simp only [List.cons_append, Option.map_bind]
        rfl
      · simp_all

theorem readNamed_append (text more : List Char) :
    readNamed flags (text ++ ')' :: more)
      = (readNamed flags text).map fun (set, rest) => (set, rest ++ ')' :: more) := by
  cases text with
  | nil => rfl
  | cons c others =>
    by_cases colon : c = ':'
    · subst colon
      cases others with
      | nil =>
        rw [List.cons_append, readNamed_plain (by simp), readNamed_plain (by simp)]
        exact readName_append false [] more
      | cons d others =>
        -- the caret in front of a name negates it
        by_cases caret : d = '^'
        · subst caret
          rw [List.cons_append, List.cons_append, readNamed_caret, readNamed_caret,
            readName_append]
        · rw [List.cons_append, readNamed_plain (by simpa using caret),
            readNamed_plain (by simpa using caret), readName_append]
    · simp [readNamed, colon]

/-- A hyphen makes a range unless a bracket or another hyphen follows. -/
def rangeFollows (flags : Flags) (text : List Char) : Bool :=
  match text with
  | '-' :: after => flags.peek after != some ']' && flags.peek after != some '-'
  | _ => false

/-- An item by itself as a class. -/
def Escape.class? : Escape → Option CharClass
  | .char c => some (.single c)
  | .set all => some all
  | .assertion _ => none

/-- Two items as the ends of a range. -/
def Escape.range? : Escape → Escape → Option CharClass
  | .char low, .char high => if low ≤ high then some (.within [(low.toNat, high.toNat)]) else none
  | _, _ => none

theorem readRange_eq {text rest : List Char} {first : Escape}
    (item : readItem flags text = some (first, rest)) (left : flags.skip rest ≠ []) :
    readRange flags text =
      if rangeFollows flags (flags.skip rest) then
        (readItem flags (flags.skip (flags.skip rest).tail)).bind fun (last, rest) =>
          (first.range? last).map fun set => (set, rest)
      else first.class?.map fun set => (set, flags.skip rest) := by
  -- what is skipped behind the first item decides whether a range follows
  have filled : (flags.skip rest).isEmpty = false := by simpa using left
  rw [readRange, item]
  simp only [Option.bind_eq_bind, Option.bind_some, filled, Bool.false_eq_true, if_false]
  change (if rangeFollows flags (flags.skip rest) = true then _ else _) = _
  split
  · refine Option.bind_congr fun last _ => ?_
    obtain ⟨last, rest⟩ := last
    cases first <;> cases last <;> simp [Escape.range?]
  · cases first <;> rfl

theorem rangeFollows_append {text : List Char} (left : text ≠ []) (more : List Char)
    (ends : rangeFollows flags text → flags.skip text.tail ≠ []) :
    rangeFollows flags (text ++ more) = rangeFollows flags text := by
  obtain ⟨c, rest, rfl⟩ := List.exists_cons_of_ne_nil left
  by_cases hyphen : c = '-'
  · subst hyphen
    simp only [List.cons_append, rangeFollows]
    rw [flags.peek_append]
    by_cases range : rangeFollows flags ('-' :: rest)
    · exact .inl (ends range)
    · right
      simp only [rangeFollows, Bool.and_eq_true, bne_iff_ne, ne_eq, not_and_or, not_not] at range
      exact range
  · simp [rangeFollows, hyphen]

/-- A class in front of something else within brackets is read no matter what that is. -/
theorem readRange_append {text rest : List Char} {set : CharClass}
    (taken : readRange flags text = some (set, rest)) (left : flags.skip rest ≠ [])
    (more : List Char) :
    readRange flags (text ++ ')' :: more) = some (set, rest ++ ')' :: more) := by
  -- where something counts, there is something
  have behind {rest : List Char} (left : flags.skip rest ≠ []) : rest ≠ [] := by
    rintro rfl
    exact left flags.skip_nil
  obtain ⟨⟨first, after⟩, item, -⟩ := Option.bind_eq_some_iff.mp taken
  have filled : flags.skip after ≠ [] := by
    intro none
    simp [readRange, item, none] at taken
  rw [readRange_eq item filled] at taken
  have longer := readItem_confined.inside item (behind filled) more
  have skipped := flags.skip_append (')' :: more) filled
  obtain ⟨c, others, shape⟩ := List.exists_cons_of_ne_nil filled
  rw [readRange_eq longer (by simp [skipped]), skipped]
  split at taken
  next range =>
    obtain ⟨⟨last, final⟩, second, only⟩ := Option.bind_eq_some_iff.mp taken
    obtain ⟨class_, valid, only⟩ := Option.map_eq_some_iff.mp only
    cases only
    -- a range has a second item
    have inside : flags.skip (flags.skip after).tail ≠ [] := by
      intro none
      rw [none] at second
      cases second
    rw [rangeFollows_append filled _ fun _ => inside, if_pos range,
      List.tail_append_of_ne_nil filled, flags.skip_append _ inside,
      readItem_confined.inside second (behind left) more]
    simp [valid]
  next single =>
    obtain ⟨class_, valid, only⟩ := Option.map_eq_some_iff.mp taken
    cases only
    rw [rangeFollows_append filled _ fun range => absurd range single, if_neg single, valid]
    rfl

/-- What may stand in brackets besides items: a bracket or an operator. -/
inductive Punctuation : List Char → Prop
  | opens (rest : List Char) : Punctuation ('[' :: rest)
  | closes (rest : List Char) : Punctuation (']' :: rest)
  | intersection (rest : List Char) : Punctuation ('&' :: '&' :: rest)
  | difference (rest : List Char) : Punctuation ('-' :: '-' :: rest)
  | exclusive (rest : List Char) : Punctuation ('~' :: '~' :: rest)

theorem Punctuation.shorter {text more : List Char} (longer : Punctuation (text ++ ')' :: more))
    (left : text ≠ []) : Punctuation text := by
  obtain ⟨c, rest, rfl⟩ := List.exists_cons_of_ne_nil left
  cases rest with
  | nil => cases longer <;> constructor
  | cons d others => cases longer <;> constructor

theorem readBrackets_item {fuel : Nat} {here : Bracket} {outer : List Bracket}
    {text : List Char} (left : flags.skip text ≠ []) (item : ¬ Punctuation (flags.skip text)) :
    readBrackets flags (fuel + 1) here outer text =
      (readRange flags (flags.skip text)).bind fun (set, rest) =>
        readBrackets flags fuel (here.add set 0) outer rest := by
  rw [readBrackets]
  split
  · exact absurd ‹_› left
  all_goals first | rfl | exact absurd (by simp only [*]; constructor) item

/-- A class that is closed is read no matter what follows. -/
theorem readBrackets_append {fuel further : Nat} {here : Bracket} {outer : List Bracket}
    {text rest : List Char} {found : CharClass × Nat}
    (taken : readBrackets flags fuel here outer text = some (found, rest)) (as : fuel ≤ further)
    (more : List Char) :
    readBrackets flags further here outer (text ++ ')' :: more)
      = some (found, rest ++ ')' :: more) := by
  induction fuel generalizing further here outer text with
  | zero => cases taken
  | succ fuel ih =>
    obtain ⟨further, rfl⟩ : ∃ fewer, further = fewer + 1 := ⟨further - 1, by omega⟩
    have enough := Nat.le_of_succ_le_succ as
    -- within brackets the end of the text is an error
    have left : flags.skip text ≠ [] := by
      intro none
      simp [readBrackets, none] at taken
    have skipped := flags.skip_append (')' :: more) left
    by_cases item : Punctuation (flags.skip text)
    · clear left
      rw [readBrackets] at taken ⊢
      generalize flags.skip text = inside at item skipped taken
      rw [skipped]
      cases item with
      | opens behind =>
        simp only [List.cons_append, readNamed_append] at taken ⊢
        split at taken
        next named _ found =>
          simp only [found, Option.map_some]
          exact ih taken enough
        -- the name is no class, so the bracket opens another one
        next unnamed =>
          have inside : (openBracket flags behind).2 ≠ [] := by
            intro none
            rw [none] at taken
            cases fuel with
            | zero => cases taken
            | succ fuel => simp [readBrackets] at taken
          simp only [unnamed, Option.map_none, openBracket_append inside]
          exact ih taken enough
      | closes behind =>
        cases outer with
        | nil =>
          cases taken
          rfl
        | cons parent outer => exact ih taken enough
      | intersection behind | difference behind | exclusive behind => exact ih taken enough
    -- everything that is no punctuation is an item or a range
    · rw [readBrackets_item left item] at taken
      obtain ⟨⟨found, after⟩, range, later⟩ := Option.bind_eq_some_iff.mp taken
      -- a bracket must close behind the item
      have filled : flags.skip after ≠ [] := by
        intro none
        cases fuel with
        | zero => cases later
        | succ fuel => simp [readBrackets, none] at later
      have longer : ¬ Punctuation (flags.skip (text ++ ')' :: more)) := by
        rw [skipped]
        exact fun longer => item (longer.shorter left)
      rw [readBrackets_item (by simp [skipped]) longer, skipped,
        readRange_append range filled more]
      exact ih later enough

theorem readClass_eq (text : List Char) :
    readClass flags text =
      (readBrackets flags (text.length + 1) (openBracket flags text).1 []
        (openBracket flags text).2).bind fun ((set, depth), rest) =>
          (flags.admit? set).map fun set => ((set, depth), rest) := by
  rw [readClass]
  refine Option.bind_congr fun ((set, depth), rest) _ => ?_
  exact (Option.map_eq_bind).symm

theorem readClass_append {text rest : List Char} {found : CharClass × Nat}
    (taken : readClass flags text = some (found, rest)) (more : List Char) :
    readClass flags (text ++ ')' :: more) = some (found, rest ++ ')' :: more) := by
  rw [readClass_eq] at taken ⊢
  obtain ⟨⟨inside, after⟩, brackets, admitted⟩ := Option.bind_eq_some_iff.mp taken
  obtain ⟨set, known, only⟩ := Option.map_eq_some_iff.mp admitted
  cases only
  have opened : (openBracket flags text).2 ≠ [] := by
    intro none
    simp [none, readBrackets] at brackets
  have as : text.length + 1 ≤ (text ++ ')' :: more).length + 1 := by simp
  rw [openBracket_append opened, readBrackets_append brackets as more, Option.bind_some]
  exact Option.map_eq_some_iff.mpr ⟨set, known, rfl⟩

end Signpost.Regex

import Mathlib.Data.List.Nodup
import Signpost.Proofs.Regex.Enclosed
import Signpost.Regex.Reader

/-!
# Expressions inside other expressions

The reader of expressions looks at the innermost open group alone. What it makes of a text that
closes all groups of its own is therefore the same inside any number of groups, provided that none
of the names it introduces has been used before.
-/
namespace Signpost.Regex

open Signpost.Text

/-! ### One step -/

theorem readFlags_append {flags inside : Flags} {seen letters : List Char} {mark : Char}
    {text rest : List Char} (taken : readFlags flags seen text = some (inside, letters, mark, rest))
    (more : List Char) :
    readFlags flags seen (text ++ more) = some (inside, letters, mark, rest ++ more) := by
  fun_induction readFlags flags seen text with
  -- only the last case but two reads a mark; the others fail or read on
  | case1 => cases taken
  | case2 => cases taken
  | case3 flags seen c others ends finished =>
    cases taken
    rw [List.cons_append, readFlags, if_pos ends, if_neg finished]
  | case4 => cases taken
  | case5 flags seen others running fresh ih =>
    rw [List.cons_append, readFlags, if_neg running, if_neg fresh, if_pos rfl]
    exact ih taken
  | case6 flags seen c others running fresh letter ih =>
    obtain ⟨next, known, later⟩ := Option.bind_eq_some_iff.mp taken
    rw [List.cons_append, readFlags, if_neg running, if_neg fresh, if_neg letter]
    exact Option.bind_eq_some_iff.mpr ⟨next, known, ih next later⟩

theorem readGroupName_append {text rest : List Char} {name : String}
    (taken : readGroupName text = some (name, rest)) (more : List Char) :
    readGroupName (text ++ more) = some (name, rest ++ more) := by
  -- the name must be closed
  have left : text.dropWhile (· != '>') ≠ [] := by
    intro none
    simp [readGroupName, none] at taken
  simp only [readGroupName, takeWhile_append _ left, dropWhile_append _ left] at taken ⊢
  split at taken
  next first others behind ends start =>
    split at taken
    next valid =>
      cases taken
      rw [start, ends]
      exact if_pos valid
    next => cases taken
  next => cases taken

namespace Reading

/-- What follows the question mark behind the parenthesis of a group. -/
def readExtension (reading : Reading) (text : List Char) : Option (Reading × List Char) :=
  match text with
  | '=' :: _ | '!' :: _ | '<' :: '=' :: _ | '<' :: '!' :: _ => none
  | 'P' :: '<' :: rest => reading.enterNamed rest
  | '<' :: rest => reading.enterNamed rest
  | rest => do
    let (flags, seen, mark, rest) ← readFlags reading.flags [] rest
    if mark = ':' then return (reading.enter .plain flags, rest)
    else if seen.isEmpty then none
    else return ({ reading with flags, here := reading.here.noteFlags }, rest)

variable {reading next : Reading}

theorem readGroup_extension {text rest : List Char}
    (mark : reading.flags.skip text = '?' :: rest) :
    reading.readGroup text = reading.readExtension rest := by
  rw [readGroup, mark]
  split <;> simp_all [readExtension]

theorem readGroup_capture {text : List Char}
    (plain : (reading.flags.skip text).head? ≠ some '?') :
    reading.readGroup text
      = some (reading.enter (.capture none) reading.flags, reading.flags.skip text) := by
  rw [readGroup]
  split <;> simp_all

theorem enterNamed_append {text rest : List Char}
    (taken : reading.enterNamed text = some (next, rest)) (more : List Char) :
    reading.enterNamed (text ++ more) = some (next, rest ++ more) := by
  obtain ⟨⟨name, after⟩, named, entered⟩ := Option.bind_eq_some_iff.mp taken
  rw [enterNamed, readGroupName_append named]
  dsimp only [Option.bind_eq_bind, Option.bind_some] at entered ⊢
  split at entered
  · cases entered
  · cases entered
    rw [if_neg ‹_›]
    rfl

/-- Where neither a name nor a condition follows, flags do. -/
theorem readExtension_flags {text : List Char} (condition : text.head? ∉ [some '=', some '!', some '<'])
    (name : text.take 2 ≠ ['P', '<']) :
    reading.readExtension text =
      (readFlags reading.flags [] text).bind fun (flags, seen, mark, rest) =>
        if mark = ':' then some (reading.enter .plain flags, rest)
        else if seen.isEmpty then none
        else some ({ reading with flags, here := reading.here.noteFlags }, rest) := by
  unfold readExtension
  split <;> simp_all

/-- Otherwise it is a name that follows, whatever stands behind. -/
theorem readExtension_named {text rest : List Char}
    (other : ¬ (text.head? ∉ [some '=', some '!', some '<'] ∧ text.take 2 ≠ ['P', '<']))
    (taken : reading.readExtension text = some (next, rest)) :
    ∃ inside, ∀ (reading : Reading) (more : List Char),
      reading.readExtension (text ++ more) = reading.enterNamed (inside ++ more) := by
  rcases text with _ | ⟨c, others⟩
  · simp at other
  · by_cases named : c = 'P'
    · subst named
      rcases others with _ | ⟨d, others⟩
      -- a P must be followed by the name
      · simp at other
      · obtain rfl : d = '<' := by simpa using other
        exact ⟨others, fun reading more => rfl⟩
    · have start : c = '=' ∨ c = '!' ∨ c = '<' := by
        simpa [named, or_iff_not_imp_left] using other
      rcases start with rfl | rfl | rfl
      · cases taken
      · cases taken
      -- a smaller sign opens a name, unless it looks behind
      · rcases others with _ | ⟨d, others⟩
        · cases taken
        · by_cases condition : d = '=' ∨ d = '!'
          · rcases condition with rfl | rfl <;> cases taken
          · exact ⟨d :: others, fun reading more => by
              simp [readExtension, not_or.mp condition]⟩

theorem readExtension_append {text rest : List Char}
    (taken : reading.readExtension text = some (next, rest)) (more : List Char) :
    reading.readExtension (text ++ ')' :: more) = some (next, rest ++ ')' :: more) := by
  by_cases other : text.head? ∉ [some '=', some '!', some '<'] ∧ text.take 2 ≠ ['P', '<']
  -- whether flags or a name follow is decided by two characters, which the parenthesis is neither
  -- of
  · have longer : (text ++ ')' :: more).head? ∉ [some '=', some '!', some '<'] ∧
        (text ++ ')' :: more).take 2 ≠ ['P', '<'] := by
      rcases text with _ | ⟨c, _ | ⟨d, others⟩⟩
      · simp
      · simpa using other
      · simpa using other
    rw [readExtension_flags other.1 other.2] at taken
    rw [readExtension_flags longer.1 longer.2]
    obtain ⟨⟨inside, letters, mark, after⟩, found, only⟩ := Option.bind_eq_some_iff.mp taken
    rw [readFlags_append found, Option.bind_some]
    dsimp only at only ⊢
    split at only
    next colon =>
      cases only
      rw [if_pos colon]
    next closing =>
      rw [if_neg closing]
      split at only
      · cases only
      · cases only
        rw [if_neg ‹_›]
  -- a name is read from the same place in the longer text
  · obtain ⟨inside, named⟩ := readExtension_named other taken
    have alone := named reading []
    rw [List.append_nil, List.append_nil, taken] at alone
    rw [named]
    exact enterNamed_append alone.symm (')' :: more)

theorem readGroup_confined (reading : Reading) : Confined reading.readGroup := by
  intro text next rest taken
  by_cases mark : (reading.flags.skip text).head? = some '?'
  · obtain ⟨inside, shape⟩ := List.head?_eq_some_iff.mp mark
    rw [readGroup_extension shape] at taken
    left
    intro more
    -- the question mark is there in the longer text as well
    have left : reading.flags.skip text ≠ [] := by simp [shape]
    have longer := reading.flags.skip_append (')' :: more) left
    rw [shape, List.cons_append] at longer
    rw [readGroup_extension longer]
    exact readExtension_append taken more
  · rw [readGroup_capture mark] at taken
    cases taken
    -- no extension, so the group captures and what follows belongs to its body
    rcases reading.flags.skip_cases text with same | ⟨none, swallowed⟩
    · left
      intro more
      rw [readGroup_capture, same]
      rw [same]
      cases shape : reading.flags.skip text with
      | nil => simp
      | cons c others => simpa [shape] using mark
    · exact .inr ⟨none, by rw [readGroup_capture] <;> simp [swallowed]⟩

theorem readRepetition_eq (low : Nat) (high : Option Nat) (text : List Char) :
    reading.readRepetition low high text =
      (reading.here.repeatLast low high ((text.head? == some '?') == reading.flags.swapGreed)).map
        fun here => ({ reading with here }, if text.head? = some '?' then text.tail else text) := by
  by_cases lazy : text.head? = some '?'
  · obtain ⟨rest, rfl⟩ := List.head?_eq_some_iff.mp lazy
    exact Option.map_eq_bind.symm
  · rw [readRepetition, if_neg lazy, beq_eq_false_iff_ne.mpr lazy]
    · exact Option.map_eq_bind.symm
    · rintro rest rfl
      exact lazy rfl

theorem readRepetition_append {low : Nat} {high : Option Nat} {text rest : List Char}
    (taken : reading.readRepetition low high text = some (next, rest)) (more : List Char) :
    reading.readRepetition low high (text ++ ')' :: more) = some (next, rest ++ ')' :: more) := by
  rw [readRepetition_eq] at taken ⊢
  obtain ⟨here, repeated, only⟩ := Option.map_eq_some_iff.mp taken
  cases only
  cases text with
  | nil => exact Option.map_eq_some_iff.mpr ⟨here, repeated, rfl⟩
  | cons c others =>
    rw [List.head?_cons] at repeated
    rw [List.cons_append, List.head?_cons, repeated, Option.map_some]
    by_cases lazy : c = '?' <;> simp [lazy]

/-- The upper end of a count, given its lower end. -/
def readUpper (flags : Flags) (low : Nat) (text : List Char) : Option (Option Nat × List Char) :=
  if text.head? = some ',' then
    let rest := flags.skip text.tail
    if rest.head? = some '\x7d' then some (none, rest)
    else (readCount flags rest).1.map fun high => (some high, (readCount flags rest).2)
  else some (some low, text)

theorem readUpper_append {flags : Flags} {low : Nat} {high : Option Nat} {text rest : List Char}
    (taken : readUpper flags low text = some (high, rest)) (left : rest ≠ []) (more : List Char) :
    readUpper flags low (text ++ more) = some (high, rest ++ more) := by
  -- what a text begins with does not change behind it
  have head {text : List Char} (left : text ≠ []) : (text ++ more).head? = text.head? := by
    obtain ⟨c, others, rfl⟩ := List.exists_cons_of_ne_nil left
    rfl
  have start : text ≠ [] := by
    rintro rfl
    cases taken
    exact left rfl
  rw [readUpper] at taken ⊢
  rw [head start]
  split at taken
  next comma =>
    rw [if_pos comma, List.tail_append_of_ne_nil start]
    have filled : flags.skip text.tail ≠ [] := by
      intro none
      rw [none] at taken
      cases taken
    dsimp only at taken ⊢
    rw [flags.skip_append _ filled, head filled]
    split at taken
    next brace =>
      rw [if_pos brace]
      cases taken
      rfl
    next digits =>
      rw [if_neg digits]
      obtain ⟨limit, counted, only⟩ := Option.map_eq_some_iff.mp taken
      cases only
      rw [readCount_append left, counted]
      rfl
  next single =>
    rw [if_neg single]
    cases taken
    rfl

theorem head?_ne {c : Char} {text : List Char} (other : ∀ rest, text = c :: rest → False) :
    text.head? ≠ some c := by
  intro start
  obtain ⟨rest, shape⟩ := List.head?_eq_some_iff.mp start
  exact other rest shape

/-- How a counted repetition ends, once its bounds are read. -/
theorem readClosing_eq (low : Nat) (found : Option Nat × List Char) :
    (match found.2 with
      | '\x7d' :: rest =>
        if found.1.any (· < low) then none
        else reading.readRepetition low found.1 (reading.flags.skip rest)
      | _ => none)
    = if found.2.head? = some '\x7d' then
        if found.1.any (· < low) then none
        else reading.readRepetition low found.1 (reading.flags.skip found.2.tail)
      else none := by
  split
  next rest shape => simp [shape]
  next other => rw [if_neg (head?_ne other)]

theorem readCounted_eq (text : List Char) :
    reading.readCounted text =
      (readCount reading.flags (reading.flags.skip text)).1.bind fun low =>
        (readUpper reading.flags low (readCount reading.flags (reading.flags.skip text)).2).bind
          fun (high, rest) =>
            if rest.head? = some '\x7d' then
              if high.any (· < low) then none
              else reading.readRepetition low high (reading.flags.skip rest.tail)
            else none := by
  rw [readCounted]
  -- both bounds are read by the same reader, which here is brought out of the two branches
  dsimp only [Option.bind_eq_bind]
  refine Option.bind_congr fun low _ => ?_
  generalize (readCount reading.flags (reading.flags.skip text)).2 = upper
  rw [readUpper]
  split
  next rest =>
    rw [List.head?_cons, if_pos rfl, List.tail_cons]
    dsimp only
    split
    next behind shape =>
      rw [shape, List.head?_cons, if_pos rfl]
      exact Option.bind_congr fun found _ => readClosing_eq low found
    next digits =>
      rw [if_neg (head?_ne digits)]
      exact Option.bind_congr fun found _ => readClosing_eq low found
  next single =>
    rw [if_neg (head?_ne single)]
    exact readClosing_eq low _

/-- A counted repetition is read where its bounds are, in order and with a brace behind them. -/
theorem readCounted_iff {text rest : List Char} :
    reading.readCounted text = some (next, rest) ↔ ∃ low high after,
      (readCount reading.flags (reading.flags.skip text)).1 = some low ∧
      readUpper reading.flags low (readCount reading.flags (reading.flags.skip text)).2
        = some (high, '\x7d' :: after) ∧
      high.any (· < low) = false ∧
      reading.readRepetition low high (reading.flags.skip after) = some (next, rest) := by
  rw [readCounted_eq, Option.bind_eq_some_iff]
  refine exists_congr fun low => ?_
  constructor
  · rintro ⟨counted, later⟩
    obtain ⟨⟨high, behind⟩, upper, ends⟩ := Option.bind_eq_some_iff.mp later
    dsimp only at ends
    split at ends
    case isFalse => cases ends
    case isTrue brace =>
    obtain ⟨after, rfl⟩ := List.head?_eq_some_iff.mp brace
    split at ends
    case isTrue => cases ends
    case isFalse valid => exact ⟨high, after, counted, upper, Bool.eq_false_iff.mpr valid, ends⟩
  · rintro ⟨high, after, counted, upper, valid, ends⟩
    refine ⟨counted, Option.bind_eq_some_iff.mpr ⟨(high, _), upper, ?_⟩⟩
    dsimp only
    rw [List.head?_cons, if_pos rfl, if_neg (by simp [valid]), List.tail_cons, ends]

theorem readCounted_confined (reading : Reading) : Confined reading.readCounted := by
  intro text next rest taken
  obtain ⟨low, high, after, counted, upper, valid, ends⟩ := readCounted_iff.mp taken
  -- neither bound can be read at the end of the text
  have left : reading.flags.skip text ≠ [] := by
    intro none
    rw [none] at counted
    cases counted
  have digits : (readCount reading.flags (reading.flags.skip text)).2 ≠ [] := by
    intro none
    rw [none] at upper
    cases upper
  have longer (more : List Char) : reading.readCounted (text ++ more)
      = reading.readRepetition low high (reading.flags.skip (after ++ more)) := by
    rw [readCounted_eq, reading.flags.skip_append _ left, readCount_append digits, counted]
    simp [readUpper_append upper (List.cons_ne_nil _ _), valid]
  simp only [longer]
  -- behind the brace a question mark may follow, in front of which is skipped
  rcases reading.flags.skip_cases after with same | ⟨none, swallowed⟩
  · left
    intro more
    rw [same]
    exact readRepetition_append ends more
  · right
    rw [none] at ends
    rw [swallowed]
    obtain ⟨here, repeated, only⟩ := Option.bind_eq_some_iff.mp ends
    cases only
    exact ⟨rfl, ends⟩

/-- The characters that are not read as themselves. -/
def special (c : Char) : Bool :=
  c ∈ ['(', ')', '|', '[', '?', '*', '+', '\x7b', '\\', '.', '^', '$']

theorem special_cases {c : Char} (mark : ¬ special c = false) :
    c = '(' ∨ c = ')' ∨ c = '|' ∨ c = '[' ∨ c = '?' ∨ c = '*' ∨ c = '+' ∨ c = '\x7b' ∨ c = '\\' ∨
      c = '.' ∨ c = '^' ∨ c = '$' := by
  simpa [special, or_iff_not_imp_left] using mark

theorem step_literal {c : Char} (plain : special c = false) (text : List Char) :
    reading.step c text = some (reading.add (reading.flags.literal c) 0, text) := by
  simp [special] at plain
  unfold step
  split <;> simp_all

/-- What an escape adds. -/
def addEscape (reading : Reading) : Escape → Reading
  | .char c => reading.add (reading.flags.literal c) 0
  | .set set => reading.add (.chars set) 0
  | .assertion condition => reading.add (.assertion condition) 0

theorem step_escape (text : List Char) :
    reading.step '\\' text
      = (readEscape reading.flags text).map fun (escape, rest) =>
          (reading.addEscape escape, rest) := by
  refine congrArg (fun convert => (readEscape reading.flags text).map convert) (funext fun found => ?_)
  obtain ⟨escape, rest⟩ := found
  cases escape <;> rfl

theorem step_confined (reading : Reading) (c : Char) : Confined (reading.step c) := by
  intro text next rest taken
  by_cases plain : special c = false
  · rw [step_literal plain] at taken
    cases taken
    exact .inl fun more => step_literal plain _
  · rcases special_cases plain with
      rfl | rfl | rfl | rfl | rfl | rfl | rfl | rfl | rfl | rfl | rfl | rfl
    · -- a group opens
      exact readGroup_confined reading text next rest taken
    · -- a group closes
      obtain ⟨left, closes, only⟩ := Option.map_eq_some_iff.mp taken
      cases only
      exact .inl fun more => Option.map_eq_some_iff.mpr ⟨_, closes, rfl⟩
    · -- another alternative begins
      cases taken
      exact .inl fun more => rfl
    · -- a class of characters
      obtain ⟨⟨class_, after⟩, found, only⟩ := Option.map_eq_some_iff.mp taken
      cases only
      exact .inl fun more => Option.map_eq_some_iff.mpr ⟨_, readClass_append found more, rfl⟩
    · -- at most once
      exact .inl (readRepetition_append taken)
    · -- any number of times
      exact .inl (readRepetition_append taken)
    · -- at least once
      exact .inl (readRepetition_append taken)
    · -- a number of times between bounds
      exact readCounted_confined reading text next rest taken
    · -- an escape
      rw [step_escape] at taken
      simp only [step_escape]
      exact readEscape_confined.map reading.addEscape text next rest taken
    · -- any character
      obtain ⟨set, admitted, only⟩ := Option.map_eq_some_iff.mp taken
      cases only
      exact .inl fun more => Option.map_eq_some_iff.mpr ⟨set, admitted, rfl⟩
    · -- the start of the text or of a line
      cases taken
      exact .inl fun more => rfl
    · -- the end of the text or of a line
      cases taken
      exact .inl fun more => rfl

/-! ### Further groups and names outside -/

/-- The same inside further groups, with further names used before. -/
def under (reading : Reading) (outer : List OpenGroup) (names : List String) : Reading :=
  { reading with
    enclosing := reading.enclosing ++ outer
    names := reading.names ++ names }

theorem enterNamed_under {text rest : List Char}
    (taken : reading.enterNamed text = some (next, rest)) :
    reading.names <:+ next.names ∧ ∀ outer names, (reading.names ++ names).Nodup →
      (reading.under outer names).enterNamed text
        = if (next.names ++ names).Nodup then some (next.under outer names, rest) else none := by
  obtain ⟨⟨name, after⟩, named, entered⟩ := Option.bind_eq_some_iff.mp taken
  dsimp only at entered
  split at entered
  · cases entered
  next fresh =>
    cases entered
    refine ⟨List.suffix_cons name reading.names, fun outer names distinct => ?_⟩
    rw [enterNamed, named]
    -- the name is new for both only if it is new among all names
    by_cases used : name ∈ reading.names ++ names
    · exact (if_pos used).trans (if_neg fun all => (List.nodup_cons.mp all).1 used).symm
    · exact (if_neg used).trans (if_pos (List.nodup_cons.mpr ⟨used, distinct⟩)).symm

theorem readExtension_under {text rest : List Char}
    (taken : reading.readExtension text = some (next, rest)) :
    reading.names <:+ next.names ∧ ∀ outer names, (reading.names ++ names).Nodup →
      (reading.under outer names).readExtension text
        = if (next.names ++ names).Nodup then some (next.under outer names, rest) else none := by
  by_cases other : text.head? ∉ [some '=', some '!', some '<'] ∧ text.take 2 ≠ ['P', '<']
  · rw [readExtension_flags other.1 other.2] at taken
    simp only [readExtension_flags other.1 other.2]
    obtain ⟨⟨inside, letters, mark, after⟩, found, only⟩ := Option.bind_eq_some_iff.mp taken
    -- flags belong to the reading itself and not to what is around it
    have same (outer : List OpenGroup) (names : List String) :
        readFlags (reading.under outer names).flags [] text
          = some (inside, letters, mark, after) := found
    simp only [same, Option.bind_some]
    dsimp only at only
    split at only
    next colon =>
      cases only
      refine ⟨List.suffix_refl _, fun outer names distinct => ?_⟩
      rw [if_pos colon]
      exact (if_pos distinct).symm
    next closing =>
      split at only
      · cases only
      next lettered =>
        cases only
        refine ⟨List.suffix_refl _, fun outer names distinct => ?_⟩
        rw [if_neg closing, if_neg lettered]
        exact (if_pos distinct).symm
  · obtain ⟨inside, named⟩ := readExtension_named other taken
    have alone (reading : Reading) : reading.readExtension text = reading.enterNamed inside := by
      have same := named reading []
      rwa [List.append_nil, List.append_nil] at same
    rw [alone] at taken
    simp only [alone]
    exact enterNamed_under taken

theorem readRepetition_under {low : Nat} {high : Option Nat} {text rest : List Char}
    (taken : reading.readRepetition low high text = some (next, rest)) :
    next.names = reading.names ∧ ∀ outer names,
      (reading.under outer names).readRepetition low high text
        = some (next.under outer names, rest) := by
  obtain ⟨here, repeated, only⟩ := Option.bind_eq_some_iff.mp taken
  cases only
  exact ⟨rfl, fun outer names => Option.bind_eq_some_iff.mpr ⟨here, repeated, rfl⟩⟩

theorem readCounted_under {text rest : List Char}
    (taken : reading.readCounted text = some (next, rest)) :
    next.names = reading.names ∧ ∀ outer names,
      (reading.under outer names).readCounted text = some (next.under outer names, rest) := by
  obtain ⟨low, high, after, counted, upper, valid, ends⟩ := readCounted_iff.mp taken
  obtain ⟨kept, same⟩ := readRepetition_under ends
  refine ⟨kept, fun outer names => ?_⟩
  exact readCounted_iff.mpr ⟨low, high, after, counted, upper, valid, same outer names⟩

theorem leave?_under (closes : leave? reading = some next) :
    next.names = reading.names ∧ ∀ outer names,
      leave? (reading.under outer names) = some (next.under outer names) := by
  rw [leave?] at closes
  split at closes
  · cases closes
  next group enclosing inside =>
    cases closes
    refine ⟨rfl, fun outer names => ?_⟩
    rw [leave?]
    simp [under, inside]

/-- Only a named group can be refused for what is around it. -/
theorem readGroup_under {text rest : List Char}
    (taken : reading.readGroup text = some (next, rest)) :
    reading.names <:+ next.names ∧ ∀ outer names, (reading.names ++ names).Nodup →
      (reading.under outer names).readGroup text
        = if (next.names ++ names).Nodup then some (next.under outer names, rest) else none := by
  by_cases mark : (reading.flags.skip text).head? = some '?'
  · obtain ⟨inside, shape⟩ := List.head?_eq_some_iff.mp mark
    rw [readGroup_extension shape] at taken
    have same (outer : List OpenGroup) (names : List String) :
        (reading.under outer names).readGroup text
          = (reading.under outer names).readExtension inside := readGroup_extension shape
    simp only [same]
    exact readExtension_under taken
  · rw [readGroup_capture mark] at taken
    cases taken
    refine ⟨List.suffix_refl _, fun outer names distinct => ?_⟩
    refine Eq.trans ?_ (if_pos distinct).symm
    exact readGroup_capture mark

/-- A step does the same in further groups unless it introduces a name that has been used before. -/
theorem step_under {c : Char} {text rest : List Char}
    (taken : reading.step c text = some (next, rest)) :
    reading.names <:+ next.names ∧ ∀ outer names, (reading.names ++ names).Nodup →
      (reading.under outer names).step c text
        = if (next.names ++ names).Nodup then some (next.under outer names, rest) else none := by
  have alike (kept : next.names = reading.names) (same : ∀ outer names,
      (reading.under outer names).step c text = some (next.under outer names, rest)) :
      reading.names <:+ next.names ∧ ∀ outer names, (reading.names ++ names).Nodup →
        (reading.under outer names).step c text
          = if (next.names ++ names).Nodup then some (next.under outer names, rest) else none := by
    rw [kept]
    exact ⟨List.suffix_refl _, fun outer names distinct => by rw [if_pos distinct, same]⟩
  by_cases plain : special c = false
  · rw [step_literal plain] at taken
    cases taken
    exact alike rfl fun outer names => step_literal plain _
  · rcases special_cases plain with
      rfl | rfl | rfl | rfl | rfl | rfl | rfl | rfl | rfl | rfl | rfl | rfl
    · -- a group opens
      exact readGroup_under taken
    · -- a group closes
      obtain ⟨left, closes, only⟩ := Option.map_eq_some_iff.mp taken
      cases only
      obtain ⟨kept, same⟩ := leave?_under closes
      exact alike kept fun outer names => Option.map_eq_some_iff.mpr ⟨_, same outer names, rfl⟩
    · -- another alternative begins
      cases taken
      exact alike rfl fun outer names => rfl
    · -- a class of characters
      obtain ⟨⟨class_, after⟩, found, only⟩ := Option.map_eq_some_iff.mp taken
      cases only
      exact alike rfl fun outer names => Option.map_eq_some_iff.mpr ⟨_, found, rfl⟩
    · -- at most once
      exact alike (readRepetition_under taken).1 (readRepetition_under taken).2
    · -- any number of times
      exact alike (readRepetition_under taken).1 (readRepetition_under taken).2
    · -- at least once
      exact alike (readRepetition_under taken).1 (readRepetition_under taken).2
    · -- a number of times between bounds
      exact alike (readCounted_under taken).1 (readCounted_under taken).2
    · -- an escape
      rw [step_escape] at taken
      obtain ⟨⟨escape, after⟩, found, only⟩ := Option.map_eq_some_iff.mp taken
      cases only
      refine alike (by cases escape <;> rfl) fun outer names => ?_
      rw [step_escape]
      refine Option.map_eq_some_iff.mpr ⟨_, found, ?_⟩
      cases escape <;> rfl
    · -- any character
      obtain ⟨set, admitted, only⟩ := Option.map_eq_some_iff.mp taken
      cases only
      exact alike rfl fun outer names => Option.map_eq_some_iff.mpr ⟨set, admitted, rfl⟩
    · -- the start of the text or of a line
      cases taken
      exact alike rfl fun outer names => rfl
    · -- the end of the text or of a line
      cases taken
      exact alike rfl fun outer names => rfl

end Reading

end Signpost.Regex
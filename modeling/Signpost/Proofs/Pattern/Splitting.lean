import Signpost.Proofs.Pattern.Cutting

/-!
# Slashes inside placeholders

A route is split at the slashes that stand outside braces and brackets, and a pattern is read with its own
account of what stands inside a placeholder. The two agree on escapes and on everything outside
placeholders, but they count brackets differently: the splitting leaves out parentheses, and in a
placeholder a brace or bracket may close a parenthesis or stand by itself, as in the class `[^}]`. So a
pattern is split exactly where a slash inside a placeholder stands behind as many closers as openers.
-/
namespace Signpost

open Placeholder

/-! ### Braces and brackets that are open -/

/-- How many braces and brackets are open behind some characters. A closer without an opener counts
nothing. -/
def openBrackets (depth : Nat) : List Char → Nat
  | [] => depth
  | '\\' :: _ :: rest => openBrackets depth rest
  | c :: rest =>
    openBrackets
      (if c ∈ ['\x7b', '['] then depth + 1 else if c ∈ ['\x7d', ']'] then depth - 1 else depth) rest

section

variable {depth deeper : Nat} {c : Char}

theorem openBrackets_cons (unescaped : c ≠ '\\') (depth : Nat) (rest : List Char) :
    openBrackets depth (c :: rest)
      = openBrackets (if c ∈ ['\x7b', '['] then depth + 1
          else if c ∈ ['\x7d', ']'] then depth - 1 else depth) rest := by
  rw [openBrackets]
  exact fun _ _ same _ => unescaped same

theorem openBrackets_append {front : List Char} (whole : isWhole front = true) (depth : Nat)
    (rest : List Char) :
    openBrackets depth (front ++ rest) = openBrackets (openBrackets depth front) rest := by
  induction front using escapes_induction generalizing depth with
  | nil => rfl
  | lone => cases whole
  | escaped c more ih => exact ih whole depth
  | plain c more unescaped ih =>
    rw [isWhole_cons unescaped] at whole
    rw [List.cons_append, openBrackets_cons unescaped, openBrackets_cons unescaped, ih whole]

/-- What is open in front stays open, unless it is closed. -/
theorem openBrackets_mono (below : depth ≤ deeper) (chars : List Char) :
    openBrackets depth chars ≤ openBrackets deeper chars := by
  induction chars using escapes_induction generalizing depth deeper with
  | nil => exact below
  | lone => exact below
  | escaped c rest ih => exact ih below
  | plain c rest unescaped ih =>
    rw [openBrackets_cons unescaped, openBrackets_cons unescaped]
    apply ih
    split
    · omega
    · split <;> omega

theorem openBrackets_opener (required : Bool) (depth : Nat) (inner : List Char) :
    openBrackets depth (opener required :: inner) = openBrackets (depth + 1) inner := by
  cases required <;> rfl

end

/-! ### Pieces of a route -/

/-- The pieces of a route, empty ones included. -/
def routePieces (depth : Nat) (chars : List Char) : List (List Char) :=
  splitOutside '/' ['\x7b', '['] ['\x7d', ']'] depth chars

theorem routePieces_escaped (depth : Nat) (c : Char) (rest : List Char) :
    routePieces depth ('\\' :: c :: rest)
      = (routePieces depth rest).modifyHead (['\\', c] ++ ·) := rfl

theorem routePieces_cons {c : Char} (unescaped : c ≠ '\\') (depth : Nat) (rest : List Char) :
    routePieces depth (c :: rest)
      = if c = '/' ∧ depth = 0 then [] :: routePieces depth rest
        else (routePieces (openBrackets depth [c]) rest).modifyHead (c :: ·) := by
  rw [routePieces, splitOutside, openBrackets_cons unescaped]
  · rfl
  · exact fun _ _ same _ => unescaped same

theorem modifyHead_flatten {pieces : List (List Char)} (filled : 0 < pieces.length)
    (front : List Char) :
    (pieces.modifyHead (front ++ ·)).flatten = front ++ pieces.flatten := by
  cases pieces with
  | nil => cases filled
  | cons first others => exact List.append_assoc ..

/-- No character but the slashes between the pieces is lost. -/
theorem routePieces_length (depth : Nat) (chars : List Char) :
    0 < (routePieces depth chars).length ∧
      (routePieces depth chars).flatten.length + (routePieces depth chars).length
        = chars.length + 1 := by
  induction chars using escapes_induction generalizing depth with
  | nil => exact ⟨Nat.one_pos, rfl⟩
  | lone => exact ⟨Nat.one_pos, rfl⟩
  | escaped c rest ih =>
    obtain ⟨filled, count⟩ := ih depth
    rw [routePieces_escaped, modifyHead_flatten filled, List.length_modifyHead, List.length_append]
    refine ⟨filled, ?_⟩
    simp only [List.length_cons, List.length_nil]
    omega
  | plain c rest unescaped ih =>
    rw [routePieces_cons unescaped]
    split
    · obtain ⟨filled, count⟩ := ih depth
      simp only [List.flatten_cons, List.nil_append, List.length_cons]
      omega
    · obtain ⟨filled, count⟩ := ih (openBrackets depth [c])
      have longer := modifyHead_flatten filled [c]
      simp only [List.singleton_append] at longer
      rw [longer, List.length_modifyHead]
      refine ⟨filled, ?_⟩
      simp only [List.length_cons]
      omega

/-- Every unescaped slash stands behind an open brace or bracket. -/
def SlashesCovered (depth : Nat) (chars : List Char) : Prop :=
  ∀ front rest, chars = front ++ '/' :: rest → isWhole front = true → 0 < openBrackets depth front

theorem slashesCovered_escaped {depth : Nat} {c : Char} {rest : List Char} :
    SlashesCovered depth ('\\' :: c :: rest) ↔ SlashesCovered depth rest := by
  constructor
  · rintro covered front behind rfl whole
    exact covered ('\\' :: c :: front) behind rfl whole
  · intro covered front behind split whole
    -- the front has the whole escape, for it does not end inside it
    rcases List.cons_eq_append_iff.mp split with ⟨-, same⟩ | ⟨more, rfl, later⟩
    · cases same
    · rcases List.cons_eq_append_iff.mp later with ⟨rfl, -⟩ | ⟨last, rfl, remains⟩
      · cases whole
      · exact covered last behind remains whole

theorem slashesCovered_cons {depth : Nat} {c : Char} {rest : List Char} (unescaped : c ≠ '\\') :
    SlashesCovered depth (c :: rest) ↔
      (c = '/' → 0 < depth) ∧ SlashesCovered (openBrackets depth [c]) rest := by
  have first : isWhole [c] = true := by
    rw [isWhole_cons unescaped]
    rfl
  constructor
  · intro covered
    constructor
    · rintro rfl
      exact covered [] rest rfl rfl
    · rintro front behind rfl whole
      rw [← openBrackets_append first]
      exact covered (c :: front) behind rfl (by rwa [isWhole_cons unescaped])
  · rintro ⟨here, covered⟩ front behind split whole
    rcases List.cons_eq_append_iff.mp split with ⟨rfl, same⟩ | ⟨more, rfl, later⟩
    · cases same
      exact here rfl
    · rw [← List.singleton_append, openBrackets_append first]
      rw [isWhole_cons unescaped] at whole
      exact covered more behind later whole

theorem modifyHead_eq_single_iff {front chars : List Char} {pieces : List (List Char)} :
    pieces.modifyHead (front ++ ·) = [front ++ chars] ↔ pieces = [chars] := by
  cases pieces with
  | nil => simp
  | cons first others => simp

/-- A route is one piece exactly if its slashes are covered. -/
theorem routePieces_single_iff (depth : Nat) (chars : List Char) :
    routePieces depth chars = [chars] ↔ SlashesCovered depth chars := by
  induction chars using escapes_induction generalizing depth with
  | nil => simp [routePieces, splitOutside, SlashesCovered]
  | lone =>
    refine ⟨fun _ front rest split whole => ?_, fun _ => rfl⟩
    -- the only character is a backslash, so no slash is there
    rcases List.cons_eq_append_iff.mp split with ⟨-, same⟩ | ⟨more, -, none⟩
    · cases same
    · cases more <;> cases none
  | escaped c rest ih =>
    rw [routePieces_escaped, slashesCovered_escaped, ← ih]
    exact modifyHead_eq_single_iff
  | plain c rest unescaped ih =>
    rw [routePieces_cons unescaped, slashesCovered_cons unescaped, ← ih]
    split
    next cuts =>
      -- a piece ends in front of the slash, so the route is not one piece
      simp [cuts]
    next whole =>
      have kept : c = '/' → 0 < depth := fun slash => by
        by_contra level
        exact whole ⟨slash, by omega⟩
      rw [and_iff_right kept]
      exact @modifyHead_eq_single_iff [c] rest _

theorem splitRoute_single_iff {source : String} (present : source ≠ "") :
    splitRoute source = [source] ↔ SlashesCovered 0 source.toList := by
  rw [← routePieces_single_iff]
  constructor
  · intro whole
    -- the source is one of the pieces, and then no character is left for another one
    have among : source.toList ∈ routePieces 0 source.toList := by
      obtain ⟨piece, kept, same⟩ := List.map_eq_singleton_iff.mp whole
      have text : piece = source.toList := by rw [← same, String.toList_ofList]
      subst text
      exact List.mem_of_mem_filter (kept ▸ List.mem_singleton_self source.toList)
    obtain ⟨early, late, pieces⟩ := List.append_of_mem among
    obtain ⟨-, count⟩ := routePieces_length 0 source.toList
    rw [pieces] at count ⊢
    simp only [List.flatten_append, List.flatten_cons, List.length_append, List.length_cons] at count
    have front : early = [] := List.eq_nil_of_length_eq_zero (by omega)
    have back : late = [] := List.eq_nil_of_length_eq_zero (by omega)
    rw [front, back]
    rfl
  · intro whole
    have filled : source.toList.isEmpty = false := by simpa using present
    change ((routePieces 0 source.toList).filter _).map _ = _
    rw [whole]
    simp [filled]

/-! ### Slashes of a pattern -/

/-- A slash of a pattern stands inside a placeholder, behind some of its body. -/
structure SlashInside (pattern before : List Char) (required : Bool) (inner : List Char) : Prop where
  split : ∃ rest, pattern = before ++ opener required :: (inner ++ '/' :: rest)
  outside : Readable before
  inside : (innerDepth? required 0 inner).isSome = true

section

variable {pattern before inner : List Char} {required : Bool}

theorem Readable.isWhole (readable : Readable before) : Signpost.isWhole before = true := by
  obtain ⟨pieces, read, reached⟩ := cutTo_of_faultless (readable_iff.mp readable).2
  exact reached.isWhole

theorem SlashInside.isWhole (slash : SlashInside pattern before required inner) :
    Signpost.isWhole (before ++ opener required :: inner) = true := by
  obtain ⟨depth, level⟩ := Option.isSome_iff_exists.mp slash.inside
  have unescaped : opener required ≠ '\\' := by cases required <;> decide
  rw [isWhole_append slash.outside.isWhole, isWhole_cons unescaped]
  exact isWhole_of_innerDepth? level

/-- Outside placeholders a pattern has no unescaped slash. -/
theorem slashInside_of_readable {front rest : List Char} (readable : Readable (front ++ '/' :: rest))
    (whole : Signpost.isWhole front = true) :
    ∃ before required inner, front = before ++ opener required :: inner ∧
      SlashInside (front ++ '/' :: rest) before required inner := by
  obtain ⟨resolves, faultless⟩ := readable_iff.mp readable
  obtain ⟨early, late, pieces, mode, rfl, reached, stops⟩ := exists_stop front
  rw [List.append_assoc, reached.cut] at faultless resolves
  cases stops with
  | ended =>
    cases mode with
    | text read =>
      rw [List.nil_append, cutPattern_separator] at faultless
      cases faultless
    | placeholder required start depth read =>
      obtain ⟨before, inner, first, text, rfl, -, level, opened, rfl⟩ := reached.placeholder
      refine ⟨before, required, inner, by simp, ⟨rest, by simp⟩, ?_, by simp [level]⟩
      exact opened.readable resolves.front.front
  | lone =>
    rw [isWhole_append reached.isWhole] at whole
    cases whole
  | closer closer =>
    rw [List.cons_append, cutPattern_unexpected closer] at faultless
    cases faultless
  | separator =>
    rw [List.cons_append, cutPattern_separator] at faultless
    cases faultless

end

namespace Pattern

variable {source : String} {pattern : Pattern}

/-- An unescaped slash in a pattern that has been read stands inside a placeholder. The pattern is split
nowhere exactly if behind each of these slashes more braces and brackets have been opened than closed,
which is so if the body of every placeholder closes none that it has not opened. -/
theorem splitRoute_read (present : source ≠ "") (front : source.toList.head? ≠ some '/')
    (back : source.toList.getLast? ≠ some '/') (taken : Pattern.read source = .ok pattern) :
    (∀ early late, source.toList = early ++ '/' :: late → isWhole early = true →
      ∃ before required inner, early = before ++ opener required :: inner ∧
        SlashInside source.toList before required inner) ∧
    (splitRoute source = [source] ↔ ∀ before required inner,
      SlashInside source.toList before required inner →
        0 < openBrackets 0 (before ++ opener required :: inner)) ∧
    ((∀ before required inner, SlashInside source.toList before required inner →
      0 < openBrackets 1 inner) → splitRoute source = [source]) := by
  have bare : stripSlashes source = source := by
    refine stripSlashes_of_ends (fun c first => ?_) back
    rw [beq_eq_false_iff_ne]
    rintro rfl
    exact front first
  have readable : Readable source.toList := by
    rw [read_ok_iff, bare] at taken
    rw [Readable, String.ofList_toList]
    exact ⟨pattern, taken⟩
  have inside : ∀ early late, source.toList = early ++ '/' :: late → isWhole early = true →
      ∃ before required inner, early = before ++ opener required :: inner ∧
        SlashInside source.toList before required inner := by
    intro early late split whole
    rw [split] at readable ⊢
    exact slashInside_of_readable readable whole
  have exactly : splitRoute source = [source] ↔ ∀ before required inner,
      SlashInside source.toList before required inner →
        0 < openBrackets 0 (before ++ opener required :: inner) := by
    rw [splitRoute_single_iff present]
    constructor
    · intro covered before required inner slash
      obtain ⟨rest, split⟩ := slash.split
      exact covered _ rest (by simp [split]) slash.isWhole
    · intro open_ early late split whole
      obtain ⟨before, required, inner, rfl, slash⟩ := inside early late split whole
      exact open_ before required inner slash
  refine ⟨inside, exactly, fun own => exactly.mpr fun before required inner slash => ?_⟩
  -- what earlier placeholders leave open only adds to the depth
  rw [openBrackets_append slash.outside.isWhole, openBrackets_opener]
  exact Nat.lt_of_lt_of_le (own before required inner slash) (openBrackets_mono (by omega) inner)

/-- A class of characters with a brace in it: the brace closes the bracket in front of it where the pattern
is read, and where it is split the bracket behind it closes the placeholder. -/
theorem splitRoute_read_class :
    "\x7ba:[^\x7d]/x\x7d" ≠ "" ∧ "\x7ba:[^\x7d]/x\x7d".toList.head? ≠ some '/' ∧
    "\x7ba:[^\x7d]/x\x7d".toList.getLast? ≠ some '/' ∧
    Pattern.read "\x7ba:[^\x7d]/x\x7d"
      = .ok ⟨"\x7ba:[^\x7d]/x\x7d", [.parameter 0], [⟨"a", .custom "[^\x7d]/x", [], true, 0⟩]⟩ ∧
    SlashInside "\x7ba:[^\x7d]/x\x7d".toList [] true "a:[^\x7d]".toList ∧
    splitRoute "\x7ba:[^\x7d]/x\x7d" ≠ ["\x7ba:[^\x7d]/x\x7d"] ∧
    splitRoute "\x7ba:[^\x7d]/x\x7d" = ["\x7ba:[^\x7d]", "x\x7d"] := by
  have taken : (Pattern.read "\x7ba:[^\x7d]/x\x7d").toOption
      = some ⟨"\x7ba:[^\x7d]/x\x7d", [.parameter 0], [⟨"a", .custom "[^\x7d]/x", [], true, 0⟩]⟩ := by
    decide +kernel
  have accepted := ok_of_toOption taken
  have front : "\x7ba:[^\x7d]/x\x7d".toList.head? ≠ some '/' := by decide
  have back : "\x7ba:[^\x7d]/x\x7d".toList.getLast? ≠ some '/' := by decide
  have slash : SlashInside "\x7ba:[^\x7d]/x\x7d".toList [] true "a:[^\x7d]".toList :=
    ⟨⟨"x\x7d".toList, by decide⟩, ⟨_, rfl⟩, by decide⟩
  obtain ⟨-, exactly, -⟩ := splitRoute_read (by decide) front back accepted
  refine ⟨by decide, front, back, accepted, slash, fun whole => ?_, by decide⟩
  exact absurd (exactly.mp whole [] true _ slash) (by decide)

end Pattern

end Signpost

import Mathlib.Data.List.Chain
import Signpost.Template
import Signpost.Proofs.Pattern.Spelling

/-!
# Text and references of a template

A template is read by replacing: a reference stands for a variable, or for a text if its name is
reserved, and every other character for itself. A reference holds no braces between its own, so two
references never overlap, and an opening brace behind which no reference is closed is text like any
other. The tokens are what the replacing gives, with the characters between variables put together.
-/
namespace Signpost

/-- A name and its filters, written between braces. -/
def writeReference (name : String) (filters : List String) : List Char :=
  '\x7b' :: joinTokens name.toList (filters.map String.toList) ++ ['\x7d']

/-- What a template says, a character or a variable at a time. -/
inductive TemplateSymbol
  | char (c : Char)
  | variable (name : String) (filters : List String)

def TemplateSymbol.written : TemplateSymbol → List Char
  | .char c => [c]
  | .variable name filters => writeReference name filters

namespace TemplateToken

def isText : TemplateToken → Bool
  | .text _ => true
  | .variable _ _ => false

def symbols : TemplateToken → List TemplateSymbol
  | .text content => content.toList.map .char
  | .variable name filters => [.variable name filters]

def written : TemplateToken → List Char
  | .text content => content.toList
  | .variable name filters => writeReference name filters

theorem symbols_written (token : TemplateToken) :
    token.symbols.flatMap TemplateSymbol.written = token.written := by
  cases token with
  | text content => simp [symbols, written, List.flatMap_map, TemplateSymbol.written]
  | «variable» name filters => simp [symbols, written, TemplateSymbol.written]

end TemplateToken

namespace Template

open Text

/-! ### References -/

/-- A reference that can be written: its name and filters are words. -/
@[ext] structure WordedReference where
  name : String
  filters : List String
  worded : ∀ word ∈ name :: filters, isWord word.toList = true

namespace WordedReference

section

variable (reference : WordedReference)

/-- What stands between the braces. -/
def inner : List Char :=
  joinTokens reference.name.toList (reference.filters.map String.toList)

def written : List Char := writeReference reference.name reference.filters

/-- Some names are texts, unless there are filters. -/
def Reserved : Prop :=
  reference.name ∈ ["true", "false", "null"] ∧ reference.filters = []

/-- What the reference stands for. -/
def symbols : List TemplateSymbol :=
  match reference.name, reference.filters with
  | "true", [] => "true".toList.map .char
  | "false", [] => "false".toList.map .char
  | "null", [] => []
  | name, filters => [.variable name filters]

end

/-! ### Words between colons -/

theorem pieces_joinTokens {first : List Char} {others : List (List Char)}
    (apart : ∀ piece ∈ first :: others, ':' ∉ piece) :
    pieces (· == ':') (joinTokens first others) = first :: others := by
  have plain {piece : List Char} (absent : ':' ∉ piece) : ∀ c ∈ piece, (c == ':') = false :=
    fun c member => beq_false_of_ne fun same => absent (same ▸ member)
  obtain ⟨here, later⟩ := List.forall_mem_cons.mp apart
  induction others generalizing first with
  | nil =>
    rw [joinTokens, List.flatMap_nil, List.append_nil]
    exact pieces_whole (plain here)
  | cons next rest ih =>
    obtain ⟨own, more⟩ := List.forall_mem_cons.mp later
    rw [joinTokens_cons, pieces_append (plain here), pieces, ih later own more]
    simp

theorem joinTokens_pieces (text : List Char) :
    ∃ first others, pieces (· == ':') text = first :: others ∧ joinTokens first others = text := by
  induction text with
  | nil => exact ⟨[], [], rfl, rfl⟩
  | cons c rest ih =>
    obtain ⟨first, others, cut, joined⟩ := ih
    rw [pieces, cut]
    by_cases colon : c = ':'
    · subst colon
      exact ⟨[], first :: others, rfl, by simp [joinTokens_cons, joined]⟩
    · refine ⟨c :: first, others, by simp [colon], ?_⟩
      rw [← joined]
      rfl

theorem continues_of_isWord {word : List Char} (own : isWord word = true) :
    ∀ c ∈ word, continuesIdentifier c = true := by
  rw [isWord, Bool.and_eq_true] at own
  exact List.all_eq_true.mp own.2

variable {reference other : WordedReference}

theorem continues (reference : WordedReference) :
    ∀ token ∈ reference.name.toList :: reference.filters.map String.toList, ∀ c ∈ token,
      continuesIdentifier c = true := by
  intro token member
  rw [← List.map_cons] at member
  obtain ⟨word, among, rfl⟩ := List.mem_map.mp member
  exact continues_of_isWord (reference.worded word among)

theorem pieces_inner (reference : WordedReference) :
    pieces (· == ':') reference.inner
      = (reference.name :: reference.filters).map String.toList := by
  apply pieces_joinTokens
  intro piece member colon
  cases reference.continues piece member ':' colon

theorem inner_injective (same : reference.inner = other.inner) : reference = other := by
  have words : (reference.name :: reference.filters).map String.toList
      = (other.name :: other.filters).map String.toList := by
    rw [← pieces_inner, ← pieces_inner, same]
  have equal := List.map_injective_iff.mpr (fun _ _ => String.toList_injective) words
  exact WordedReference.ext (List.cons.inj equal).1 (List.cons.inj equal).2

/-! ### Reading what stands between braces -/

/-- What a reference that has been read stands for. -/
def readSymbols : Reference → List TemplateSymbol
  | .reserved text => text.map .char
  | .variable name filters => [.variable name filters]

theorem reserved_of_inner {word : String} (own : isWord word.toList = true)
    (same : String.ofList reference.inner = word) :
    reference.name = word ∧ reference.filters = [] := by
  let plain : WordedReference := ⟨word, [], by simpa using own⟩
  have spelled : reference.inner = plain.inner := by
    rw [← String.toList_ofList (l := reference.inner), same]
    simp [plain, inner, joinTokens]
  rw [inner_injective spelled]
  exact ⟨rfl, rfl⟩

theorem reservedText?_none (apart : ¬ reference.Reserved) :
    reservedText? reference.inner = none := by
  have other {word : String} (own : isWord word.toList = true)
      (named : word ∈ ["true", "false", "null"]) : String.ofList reference.inner ≠ word := by
    intro same
    obtain ⟨rfl, bare⟩ := reserved_of_inner own same
    exact apart ⟨named, bare⟩
  rw [reservedText?]
  split
  next same => exact absurd same (other (by decide) (by decide))
  next same => exact absurd same (other (by decide) (by decide))
  next same => exact absurd same (other (by decide) (by decide))
  next => rfl

theorem symbols_unreserved (apart : ¬ reference.Reserved) :
    reference.symbols = [.variable reference.name reference.filters] := by
  rw [symbols]
  split
  next named bare => exact absurd ⟨by simp [named], bare⟩ apart
  next named bare => exact absurd ⟨by simp [named], bare⟩ apart
  next named bare => exact absurd ⟨by simp [named], bare⟩ apart
  next => rfl

/-- A written reference is read as what it stands for. -/
theorem reference?_inner (reference : WordedReference) :
    (reference? reference.inner).map readSymbols = some reference.symbols := by
  by_cases reserved : reference.Reserved
  · obtain ⟨name, filters, worded⟩ := reference
    obtain ⟨named, rfl⟩ := reserved
    simp only [List.mem_cons, List.not_mem_nil, or_false] at named
    rcases named with rfl | rfl | rfl <;>
      simp [inner, joinTokens, reference?, reservedText?, readSymbols, symbols]
  · have words : ((reference.name :: reference.filters).map String.toList).all isWord = true := by
      rw [List.all_map]
      exact List.all_eq_true.mpr reference.worded
    rw [reference?, reservedText?_none reserved, pieces_inner, symbols_unreserved reserved]
    simp only [words, if_true, List.map_map]
    simp [readSymbols, Function.comp_def]

/-- Nothing is read as a reference but what can be written as one. -/
theorem exists_of_reference? {inside : List Char} (accepted : (reference? inside).isSome = true) :
    ∃ reference : WordedReference, reference.inner = inside := by
  obtain ⟨first, others, cut, joined⟩ := joinTokens_pieces inside
  have spelled (words : ∀ word ∈ first :: others, isWord word = true) :
      ∃ reference : WordedReference, reference.inner = inside := by
    refine ⟨⟨String.ofList first, others.map String.ofList, ?_⟩, ?_⟩
    · rw [← List.map_cons]
      simpa using words
    · simpa [inner, Function.comp_def] using joined
  have plain {word : String} (own : isWord word.toList = true) (same : String.ofList inside = word) :
      ∃ reference : WordedReference, reference.inner = inside :=
    ⟨⟨word, [], by simpa using own⟩, by simp [inner, joinTokens, ← same]⟩
  rw [reference?] at accepted
  split at accepted
  next text reserved =>
    rw [reservedText?] at reserved
    split at reserved
    next same => exact plain (by decide) same
    next same => exact plain (by decide) same
    next same => exact plain (by decide) same
    next => cases reserved
  next =>
    simp only [cut] at accepted
    split at accepted
    next words => exact spelled (List.all_eq_true.mp words)
    next => cases accepted

end WordedReference

/-! ### Braces -/

def isBrace (c : Char) : Bool := c = '\x7b' || c = '\x7d'

/-- Text is cut at its first brace in one way. -/
theorem first_brace {front front' rest rest' : List Char} {mark mark' : Char}
    (plain : ∀ c ∈ front, isBrace c = false) (plain' : ∀ c ∈ front', isBrace c = false)
    (brace : isBrace mark = true) (brace' : isBrace mark' = true)
    (same : front ++ mark :: rest = front' ++ mark' :: rest') :
    front = front' ∧ mark = mark' ∧ rest = rest' := by
  -- where one front is over and the other is not, a brace of one would be a plain character of the other
  induction front generalizing front' with
  | nil =>
    cases front' with
    | nil => simpa using same
    | cons c others =>
      obtain ⟨rfl, -⟩ := List.cons.inj same
      rw [plain' mark List.mem_cons_self] at brace
      cases brace
  | cons c others ih =>
    obtain ⟨own, more⟩ := List.forall_mem_cons.mp plain
    cases front' with
    | nil =>
      obtain ⟨rfl, -⟩ := List.cons.inj same
      rw [own] at brace'
      cases brace'
    | cons c' others' =>
      obtain ⟨rfl, behind⟩ := List.cons.inj same
      obtain ⟨rfl, rest⟩ := ih more (List.forall_mem_cons.mp plain').2 behind
      exact ⟨rfl, rest⟩

namespace WordedReference

variable {reference other : WordedReference} {front rest behind : List Char}

theorem inner_plain (reference : WordedReference) : ∀ c ∈ reference.inner, isBrace c = false := by
  intro c member
  have own := joinTokens_plain reference.continues c member
  simp only [isBracketing, List.mem_cons, List.not_mem_nil, or_false, decide_eq_false_iff_not,
    not_or] at own
  simp [isBrace, own]

theorem written_append (reference : WordedReference) (rest : List Char) :
    reference.written ++ rest = '\x7b' :: (reference.inner ++ '\x7d' :: rest) := by
  simp [written, writeReference, inner]

/-- A reference begins with a brace and ends at the next one. -/
theorem written_isPrefix {c : Char} :
    reference.written <+: c :: rest
      ↔ c = '\x7b' ∧ ∃ behind, rest = reference.inner ++ '\x7d' :: behind := by
  constructor
  · rintro ⟨behind, same⟩
    rw [written_append] at same
    obtain ⟨rfl, later⟩ := List.cons.inj same
    exact ⟨rfl, behind, later.symm⟩
  · rintro ⟨rfl, behind, rfl⟩
    exact ⟨behind, written_append reference behind⟩

/-- At one place there is one reference. -/
theorem written_unique
    (same : reference.written ++ rest = other.written ++ behind) :
    reference = other ∧ rest = behind := by
  rw [written_append, written_append] at same
  obtain ⟨inside, -, rest⟩ := first_brace reference.inner_plain other.inner_plain (by decide)
    (by decide) (List.cons.inj same).2
  exact ⟨inner_injective inside, rest⟩

/-- A reference is over before another one begins. -/
theorem written_isPrefix_front (filled : front ≠ [])
    (starts : reference.written <+: front ++ (other.written ++ rest)) :
    reference.written <+: front := by
  obtain ⟨behind, same⟩ := starts
  rcases List.append_eq_append_iff.mp same with ⟨more, whole, -⟩ | ⟨more, whole, later⟩
  · exact ⟨more, whole.symm⟩
  · cases more with
    | nil => exact ⟨[], by rw [whole, List.append_nil, List.append_nil]⟩
    | cons c more =>
      rw [written_append] at later
      obtain ⟨rfl, -⟩ := List.cons.inj later
      cases front with
      | nil => exact absurd rfl filled
      | cons first front =>
        -- the other reference would begin inside the first one
        rw [← List.append_nil reference.written, written_append] at whole
        have inside : '\x7b' ∈ reference.inner ++ ['\x7d'] := by
          rw [(List.cons.inj whole).2]
          simp
        rcases List.mem_append.mp inside with inner | closer
        · cases reference.inner_plain _ inner
        · cases List.mem_singleton.mp closer

/-- No reference begins with a brace behind which none is closed before the next one. -/
theorem not_isPrefix_unclosed {inside : List Char} (plain : ∀ c ∈ inside, isBrace c = false)
    (behind : rest = [] ∨ ∃ more, rest = '\x7b' :: more) :
    ¬ reference.written <+: '\x7b' :: (inside ++ rest) := by
  intro starts
  obtain ⟨-, later, same⟩ := written_isPrefix.mp starts
  rcases behind with rfl | ⟨more, rfl⟩
  · rw [List.append_nil] at same
    cases plain '\x7d' (by simp [same])
  · cases (first_brace plain reference.inner_plain (by decide) (by decide) same).2.1

/-- Braces that enclose no reference begin none. -/
theorem not_isPrefix_refused {inside : List Char} (plain : ∀ c ∈ inside, isBrace c = false)
    (refused : reference? inside = none) :
    ¬ reference.written <+: '\x7b' :: (inside ++ '\x7d' :: rest) := by
  intro starts
  obtain ⟨-, later, same⟩ := written_isPrefix.mp starts
  obtain ⟨own, -⟩ := first_brace plain reference.inner_plain (by decide) (by decide) same
  have read := reference.reference?_inner
  rw [← own, refused] at read
  cases read

theorem exists_written {inside : List Char} {read : Reference}
    (accepted : reference? inside = some read) (rest : List Char) :
    ∃ reference : WordedReference, '\x7b' :: (inside ++ '\x7d' :: rest) = reference.written ++ rest ∧
      reference.symbols = readSymbols read := by
  obtain ⟨reference, rfl⟩ := exists_of_reference? (Option.isSome_of_mem accepted)
  have stands := reference.reference?_inner
  rw [accepted, Option.map_some, Option.some_inj] at stands
  exact ⟨reference, (written_append reference rest).symm, stands.symm⟩

end WordedReference

/-! ### Replacing references -/

/-- Read from left to right, every reference is replaced by what it stands for, and a character with
which no reference begins is kept. -/
inductive Replaced : List Char → List TemplateSymbol → Prop
  | nil : Replaced [] []
  | reference (reference : WordedReference) {rest : List Char} {symbols : List TemplateSymbol}
    (behind : Replaced rest symbols) :
    Replaced (reference.written ++ rest) (reference.symbols ++ symbols)
  | kept {c : Char} {rest : List Char} {symbols : List TemplateSymbol}
    (single : ∀ reference : WordedReference, ¬ reference.written <+: c :: rest)
    (behind : Replaced rest symbols) :
    Replaced (c :: rest) (.char c :: symbols)

namespace Replaced

variable {source front rest : List Char} {symbols symbols' : List TemplateSymbol}

theorem unique (first : Replaced source symbols) (second : Replaced source symbols') :
    symbols = symbols' := by
  -- a reference is never kept where it begins, and no other one begins at the same place
  induction first generalizing symbols' with
  | nil =>
    generalize whole : ([] : List Char) = source at second
    cases second with
    | nil => rfl
    | reference other behind =>
      rw [WordedReference.written_append] at whole
      cases whole
    | kept single behind => cases whole
  | @reference reference rest symbols behind ih =>
    generalize whole : reference.written ++ rest = source at second
    cases second with
    | nil =>
      rw [WordedReference.written_append] at whole
      cases whole
    | reference other behind' =>
      obtain ⟨rfl, rfl⟩ := WordedReference.written_unique whole
      rw [ih behind']
    | kept single behind' => exact absurd ⟨rest, whole⟩ (single reference)
  | @kept c rest symbols single behind ih =>
    generalize whole : c :: rest = source at second
    cases second with
    | nil => cases whole
    | reference other behind' => exact absurd ⟨_, whole.symm⟩ (single other)
    | kept single' behind' =>
      obtain ⟨rfl, rfl⟩ := List.cons.inj whole
      rw [ih behind']

theorem character {c : Char} (other : c ≠ '\x7b') (behind : Replaced rest symbols) :
    Replaced (c :: rest) (.char c :: symbols) :=
  .kept (fun _ starts => other (WordedReference.written_isPrefix.mp starts).1) behind

/-- Without an opening brace there is only text. -/
theorem text (plain : '\x7b' ∉ front) (behind : Replaced rest symbols) :
    Replaced (front ++ rest) (front.map .char ++ symbols) := by
  induction front with
  | nil => exact behind
  | cons c more ih =>
    rw [List.mem_cons, not_or] at plain
    exact (ih plain.2).character (Ne.symm plain.1)

/-- An opening brace with which no reference begins is text, with what follows up to the next one. -/
theorem brace (single : ∀ reference : WordedReference, ¬ reference.written <+: '\x7b' :: (front ++ rest))
    (plain : '\x7b' ∉ front) (behind : Replaced rest symbols) :
    Replaced ('\x7b' :: (front ++ rest)) (('\x7b' :: front).map .char ++ symbols) :=
  .kept single (behind.text plain)

/-- What stands before a reference and what stands behind it are replaced on their own. -/
theorem around (before : Replaced front symbols) (reference : WordedReference)
    (behind : Replaced rest symbols') :
    Replaced (front ++ (reference.written ++ rest)) (symbols ++ (reference.symbols ++ symbols')) := by
  induction before with
  | nil => exact .reference reference behind
  | reference earlier _ ih =>
    rw [List.append_assoc, List.append_assoc]
    exact .reference earlier ih
  | kept single _ ih =>
    -- a reference that began here would be over in front of the given one
    refine .kept (fun earlier starts => ?_) ih
    exact single earlier (WordedReference.written_isPrefix_front (by simp) starts)

/-- Where no text is written like a variable, nothing is lost. -/
theorem written (replaced : Replaced source symbols)
    (unreserved : ∀ reference : WordedReference, reference.Reserved →
      ¬ reference.written <:+: source) :
    symbols.flatMap TemplateSymbol.written = source := by
  induction replaced with
  | nil => rfl
  | @reference reference rest symbols _ ih =>
    have apart : ¬ reference.Reserved := fun reserved =>
      unreserved reference reserved (List.prefix_append _ _).isInfix
    rw [WordedReference.symbols_unreserved apart, List.singleton_append, List.flatMap_cons,
      ih fun other reserved within =>
        unreserved other reserved (within.trans (List.suffix_append _ _).isInfix)]
    rfl
  | @kept c rest symbols _ _ ih =>
    rw [List.flatMap_cons, ih fun other reserved within =>
      unreserved other reserved (within.trans (List.suffix_cons _ _).isInfix)]
    rfl

end Replaced

/-! ### Putting characters together -/

/-- Texts are not empty, and two of them never follow one another. -/
structure Merged (tokens : List TemplateToken) : Prop where
  filled : .text "" ∉ tokens
  apart : tokens.IsChain fun left right => left.isText = true → right.isText = false

/-- The tokens of symbols behind characters, which are in reverse. -/
def gather (read : List Char) : List TemplateSymbol → List TemplateToken
  | [] => withText read []
  | .char c :: rest => gather (c :: read) rest
  | .variable name filters :: rest => withText read (.variable name filters :: gather [] rest)

section Gathering

variable {tokens : List TemplateToken}

theorem gather_chars (read chars : List Char) (symbols : List TemplateSymbol) :
    gather read (chars.map .char ++ symbols) = gather (chars.reverse ++ read) symbols := by
  induction chars generalizing read with
  | nil => rfl
  | cons c more ih => simp [gather, ih]

theorem withText_symbols (read : List Char) (tokens : List TemplateToken) :
    (withText read tokens).flatMap TemplateToken.symbols
      = read.reverse.map .char ++ tokens.flatMap TemplateToken.symbols := by
  cases read with
  | nil => rfl
  | cons c more => simp [withText, TemplateToken.symbols]

theorem gather_symbols (read : List Char) (symbols : List TemplateSymbol) :
    (gather read symbols).flatMap TemplateToken.symbols = read.reverse.map .char ++ symbols := by
  fun_induction gather read symbols with
  | case1 read => simp [withText_symbols]
  | case2 read c rest ih => simp [ih]
  | case3 read name filters rest ih => simp [withText_symbols, TemplateToken.symbols, ih]

theorem merged_cons {token : TemplateToken} :
    Merged (token :: tokens) ↔
      token ≠ .text "" ∧ (token.isText = true → ∀ next ∈ tokens.head?, next.isText = false) ∧
        Merged tokens := by
  constructor
  · rintro ⟨filled, apart⟩
    rw [List.mem_cons, not_or] at filled
    rw [List.isChain_cons] at apart
    exact ⟨Ne.symm filled.1, fun text next member => apart.1 next member text, filled.2, apart.2⟩
  · rintro ⟨filled, apart, merged⟩
    refine ⟨?_, List.isChain_cons.mpr ⟨fun next member text => apart text next member, merged.apart⟩⟩
    rw [List.mem_cons, not_or]
    exact ⟨Ne.symm filled, merged.filled⟩

theorem withText_merged (read : List Char) (merged : Merged tokens)
    (behind : ∀ next ∈ tokens.head?, next.isText = false) : Merged (withText read tokens) := by
  cases read with
  | nil => exact merged
  | cons c more =>
    refine merged_cons.mpr ⟨?_, fun _ => behind, merged⟩
    simp

theorem gather_merged (read : List Char) (symbols : List TemplateSymbol) :
    Merged (gather read symbols) := by
  fun_induction gather read symbols with
  | case1 read => exact withText_merged read ⟨by simp, .nil⟩ (by simp)
  | case2 read c rest ih => exact ih
  | case3 read name filters rest ih =>
    have alone : Merged (.variable name filters :: gather [] rest) :=
      merged_cons.mpr ⟨by simp, by simp [TemplateToken.isText], ih⟩
    exact withText_merged read alone (by simp [TemplateToken.isText])

/-- Merged tokens are told by their symbols. -/
theorem gather_of_merged (merged : Merged tokens) :
    gather [] (tokens.flatMap TemplateToken.symbols) = tokens := by
  induction tokens with
  | nil => rfl
  | cons token rest ih =>
    obtain ⟨filled, apart, later⟩ := merged_cons.mp merged
    have own := ih later
    cases token with
    | «variable» name filters =>
      rw [List.flatMap_cons, TemplateToken.symbols, List.singleton_append, gather, own]
      rfl
    | text content =>
      have read : withText (content.toList.reverse ++ []) rest = .text content :: rest := by
        rw [withText, if_neg]
        · simp
        · simpa using filled
      rw [List.flatMap_cons, TemplateToken.symbols, gather_chars, ← read]
      -- a text is followed by a variable or by nothing
      cases rest with
      | nil => rfl
      | cons next rest =>
        cases next with
        | text behind => cases apart rfl _ rfl
        | «variable» name filters =>
          rw [List.flatMap_cons, TemplateToken.symbols, List.singleton_append, gather] at own ⊢
          rw [← own]
          rfl

end Gathering

/-! ### Tokens -/

/-- What has been read since the brace that is open. -/
def pending : Option (List Char) → List Char
  | none => []
  | some read => '\x7b' :: read.reverse

theorem gather_pending (text read : List Char) (symbols : List TemplateSymbol) :
    gather text (('\x7b' :: read.reverse).map .char ++ symbols)
      = gather (read ++ '\x7b' :: text) symbols := by
  rw [gather_chars]
  simp

/-- Behind a text and an open brace, the scanner puts together what is left once the references in
the text since that brace are replaced. -/
theorem tokensFrom_replaced (text : List Char) (inside : Option (List Char)) (rest : List Char)
    (plain : ∀ read ∈ inside, ∀ c ∈ read.reverse, isBrace c = false) :
    ∃ symbols, Replaced (pending inside ++ rest) symbols ∧
      tokensFrom text inside rest = gather text symbols := by
  -- no brace follows the open one, so a reference in the pending text can only begin with that brace
  have opener_not_mem {chars : List Char} (own : ∀ c ∈ chars, isBrace c = false) :
      '\x7b' ∉ chars := by
    intro member
    cases own _ member
  fun_induction tokensFrom text inside rest with
  | case1 text => exact ⟨[], .nil, rfl⟩
  | case2 text read =>
    have own := plain read rfl
    refine ⟨('\x7b' :: read.reverse).map .char ++ [], ?_, by rw [gather_pending, gather]⟩
    exact Replaced.nil.brace (fun _ => WordedReference.not_isPrefix_unclosed own (.inl rfl))
      (opener_not_mem own)
  | case3 text rest ih => exact ih (by simp)
  | case4 text c rest opener ih =>
    obtain ⟨symbols, behind, same⟩ := ih (by simp)
    exact ⟨.char c :: symbols, behind.character opener, same⟩
  | case5 text rest read ih =>
    have own := plain read rfl
    obtain ⟨symbols, behind, same⟩ := ih (by simp)
    refine ⟨('\x7b' :: read.reverse).map .char ++ symbols, ?_, by rw [same, gather_pending]⟩
    exact behind.brace (fun _ => WordedReference.not_isPrefix_unclosed own (.inr ⟨rest, rfl⟩))
      (opener_not_mem own)
  | case6 text rest read refused opener ih =>
    have own := plain read rfl
    obtain ⟨symbols, behind, same⟩ := ih (by simp)
    refine ⟨('\x7b' :: read.reverse).map .char ++ .char '\x7d' :: symbols, ?_, ?_⟩
    · -- the closing brace is text behind the opening one
      exact (behind.character opener).brace (fun _ => WordedReference.not_isPrefix_refused own refused)
        (opener_not_mem own)
    · rw [same, gather_pending, gather]
      rfl
  | case7 text rest read value accepted opener ih =>
    obtain ⟨symbols, behind, same⟩ := ih (by simp)
    obtain ⟨reference, whole, stands⟩ := WordedReference.exists_written accepted rest
    refine ⟨reference.symbols ++ symbols, ?_, by rw [same, stands]; exact (gather_chars ..).symm⟩
    rw [pending, List.cons_append, whole]
    exact .reference reference behind
  | case8 text rest read name filters accepted opener ih =>
    obtain ⟨symbols, behind, same⟩ := ih (by simp)
    obtain ⟨reference, whole, stands⟩ := WordedReference.exists_written accepted rest
    refine ⟨reference.symbols ++ symbols, ?_, by rw [same, stands]; rfl⟩
    rw [pending, List.cons_append, whole]
    exact .reference reference behind
  | case9 text c rest read opener closer ih =>
    have own := plain read rfl
    have more : ∀ other ∈ (c :: read).reverse, isBrace other = false := by
      rw [List.reverse_cons]
      exact List.forall_mem_append.mpr ⟨own, by simp [isBrace, opener, closer]⟩
    obtain ⟨symbols, behind, same⟩ := ih (by rintro _ ⟨⟩; exact more)
    exact ⟨symbols, by simpa [pending] using behind, same⟩

/-! ### Occurrences of references -/

/-- Two references in a text are one, or one is over before the other begins. -/
theorem occurrences_apart {reference other : WordedReference} {front rest front' rest' : List Char}
    (same : front ++ (reference.written ++ rest) = front' ++ (other.written ++ rest')) :
    (front = front' ∧ reference = other) ∨ front ++ reference.written <+: front' ∨
      front' ++ other.written <+: front := by
  rcases List.append_eq_append_iff.mp same with ⟨between, rfl, later⟩ | ⟨between, rfl, later⟩
  · cases between with
    | nil =>
      rw [List.nil_append] at later
      exact .inl ⟨by simp, (WordedReference.written_unique later).1⟩
    | cons c between =>
      refine .inr (.inl ((List.prefix_append_right_inj front).mpr ?_))
      exact WordedReference.written_isPrefix_front (by simp) ⟨rest, later⟩
  · cases between with
    | nil =>
      rw [List.nil_append] at later
      exact .inl ⟨by simp, (WordedReference.written_unique later).1.symm⟩
    | cons c between =>
      refine .inr (.inr ((List.prefix_append_right_inj front').mpr ?_))
      exact WordedReference.written_isPrefix_front (by simp) ⟨rest', later⟩

theorem exists_replaced (source : List Char) :
    ∃ symbols, Replaced source symbols ∧ tokensFrom [] none source = gather [] symbols :=
  tokensFrom_replaced [] none source (by simp)

/-- The tokens of a template are its characters with every reference replaced, put together. -/
theorem tokens_eq_iff {source : String} {result : List TemplateToken} :
    tokens source = result ↔
      Merged result ∧ Replaced source.toList (result.flatMap TemplateToken.symbols) := by
  obtain ⟨symbols, replaced, read⟩ := exists_replaced source.toList
  rw [tokens, read]
  constructor
  · rintro rfl
    refine ⟨gather_merged [] symbols, ?_⟩
    rwa [gather_symbols]
  · rintro ⟨merged, replaced'⟩
    rw [replaced.unique replaced', gather_of_merged merged]

/-- The tokens of a template are its text with every reference replaced from left to right, and what is
no reference kept, put together. References never overlap, and each is replaced wherever it stands. No
text is empty or follows another, and where no reserved name is referred to, writing the tokens gives
the template again. -/
theorem tokens_exact (source : String) :
    (∀ result, tokens source = result ↔
      Merged result ∧ Replaced source.toList (result.flatMap TemplateToken.symbols)) ∧
    (∀ (reference other : WordedReference) (front rest front' rest' : List Char),
      source.toList = front ++ (reference.written ++ rest) →
      source.toList = front' ++ (other.written ++ rest') →
      (front = front' ∧ reference = other) ∨ front ++ reference.written <+: front' ∨
        front' ++ other.written <+: front) ∧
    (∀ (reference : WordedReference) (front rest : List Char),
      source.toList = front ++ (reference.written ++ rest) →
      ∃ before behind, Replaced front before ∧ Replaced rest behind ∧
        (tokens source).flatMap TemplateToken.symbols
          = before ++ (reference.symbols ++ behind)) ∧
    Merged (tokens source) ∧
    ((∀ reference : WordedReference, reference.Reserved →
        ¬ reference.written <:+: source.toList) →
      (tokens source).flatMap TemplateToken.written = source.toList) := by
  obtain ⟨merged, replaced⟩ := tokens_eq_iff.mp (Eq.refl (tokens source))
  refine ⟨fun result => tokens_eq_iff, ?_, ?_, merged, ?_⟩
  · intro reference other front rest front' rest' here there
    exact occurrences_apart (here.symm.trans there)
  · intro reference front rest here
    obtain ⟨before, front_replaced, -⟩ := exists_replaced front
    obtain ⟨behind, rest_replaced, -⟩ := exists_replaced rest
    refine ⟨before, behind, front_replaced, rest_replaced, ?_⟩
    rw [here] at replaced
    exact replaced.unique (front_replaced.around reference rest_replaced)
  · intro unreserved
    have kept := replaced.written unreserved
    simpa only [List.flatMap_assoc, TemplateToken.symbols_written] using kept

/-- A brace in front of a reference is text, like what stands before it. -/
theorem tokens_exact_nested :
    tokens "é\x7b\x7bid:trim\x7d" = [.text "é\x7b", .variable "id" ["trim"]] ∧
    "é\x7b\x7bid:trim\x7d".toList = "é\x7b".toList ++ (writeReference "id" ["trim"] ++ []) ∧
    (∃ before behind, Replaced "é\x7b".toList before ∧ Replaced [] behind ∧
      (tokens "é\x7b\x7bid:trim\x7d").flatMap TemplateToken.symbols
        = before ++ ([.variable "id" ["trim"]] ++ behind)) ∧
    (∀ reference : WordedReference, reference.Reserved →
      ¬ reference.written <:+: "é\x7b\x7bid:trim\x7d".toList) ∧
    (tokens "é\x7b\x7bid:trim\x7d").flatMap TemplateToken.written
      = "é\x7b\x7bid:trim\x7d".toList := by
  have here : "é\x7b\x7bid:trim\x7d".toList
      = "é\x7b".toList ++ (writeReference "id" ["trim"] ++ []) := by
    simp [writeReference, joinTokens]
  have unreserved : ∀ reference : WordedReference, reference.Reserved →
      ¬ reference.written <:+: "é\x7b\x7bid:trim\x7d".toList := by
    rintro ⟨name, filters, worded⟩ ⟨named, rfl⟩
    simp only [List.mem_cons, List.not_mem_nil, or_false] at named
    rcases named with rfl | rfl | rfl <;>
      simp [WordedReference.written, writeReference, joinTokens, List.infix_cons_iff]
  obtain ⟨-, -, replaced, -, written⟩ := tokens_exact "é\x7b\x7bid:trim\x7d"
  exact ⟨by decide, here, replaced ⟨"id", ["trim"], by decide⟩ _ _ here, unreserved,
    written unreserved⟩

end Template
end Signpost

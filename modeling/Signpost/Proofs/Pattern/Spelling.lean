import Signpost.Proofs.Pattern.Steps

/-!
# Spellings

A text is spelled in a pattern character by character: a backslash may stand before any character, and
must stand before one that means something by itself. A placeholder is spelled as tokens between
colons, inside braces or brackets. What has been spelled is cut and split as it was meant, whatever
stands behind it, so the written forms of whole patterns and routes are read part by part.
-/
namespace Signpost

/-! ### Characters of tokens -/

/-- The characters that end or nest something where patterns are read. -/
def isBracketing (c : Char) : Bool :=
  c ∈ ['\\', '\x7b', '[', '(', '\x7d', ']', ')', '/']

theorem not_bracketing_of_continues {c : Char} (continues : continuesIdentifier c = true) :
    isBracketing c = false := by
  have others : ['\\', '\x7b', '[', '(', '\x7d', ']', ')', '/'].all (fun other =>
      !continuesIdentifier other) = true := by decide
  refine decide_eq_false fun bracketing => ?_
  have other := List.all_eq_true.mp others c bracketing
  rw [continues] at other
  cases other

theorem continues_of_identifier {name : List Char} (identifier : isIdentifier name = true) :
    ∀ c ∈ name, continuesIdentifier c = true := by
  cases name with
  | nil => simp
  | cons first rest =>
    rw [isIdentifier, Bool.and_eq_true] at identifier
    intro c member
    rcases List.mem_cons.mp member with rfl | later
    · have starts := identifier.1
      rw [startsIdentifier, Bool.or_eq_true] at starts
      rw [continuesIdentifier, Bool.or_eq_true]
      exact starts.imp_left fun letter => by simp [Char.isAlphanum, letter]
    · exact List.all_eq_true.mp identifier.2 c later

/-! ### Cutting outside brackets -/

section Splitting

variable {separator : Char} {opens closes : List Char}

/-- Characters at which nothing is cut, from one depth to another. -/
def PassedOver (separator : Char) (opens closes : List Char) (depth : Nat) (chars : List Char)
    (after : Nat) : Prop :=
  ∀ rest, splitOutside separator opens closes depth (chars ++ rest)
    = (splitOutside separator opens closes after rest).modifyHead (chars ++ ·)

theorem PassedOver.nil (depth : Nat) : PassedOver separator opens closes depth [] depth := by
  intro rest
  exact (congrFun List.modifyHead_id _).symm

theorem PassedOver.append {first second : List Char} {depth middle after : Nat}
    (early : PassedOver separator opens closes depth first middle)
    (late : PassedOver separator opens closes middle second after) :
    PassedOver separator opens closes depth (first ++ second) after := by
  intro rest
  rw [List.append_assoc, early, late, List.modifyHead_modifyHead]
  simp [Function.comp_def]

theorem PassedOver.escaped (c : Char) (depth : Nat) :
    PassedOver separator opens closes depth ['\\', c] depth := by
  intro rest
  rfl

theorem PassedOver.single {c : Char} {depth : Nat} (unescaped : c ≠ '\\')
    (kept : c = separator → depth ≠ 0) :
    PassedOver separator opens closes depth [c]
      (if c ∈ opens then depth + 1 else if c ∈ closes then depth - 1 else depth) := by
  intro rest
  rw [List.singleton_append, splitOutside]
  · rw [if_neg fun both => kept both.1 both.2]
    rfl
  · exact fun escaped others equal => absurd equal unescaped

theorem PassedOver.plain {chars : List Char} (depth : Nat)
    (plain : ∀ c ∈ chars, c ≠ '\\' ∧ c ≠ separator ∧ c ∉ opens ∧ c ∉ closes) :
    PassedOver separator opens closes depth chars depth := by
  induction chars with
  | nil => exact .nil depth
  | cons c rest ih =>
    obtain ⟨⟨unescaped, kept, opener, closer⟩, others⟩ := List.forall_mem_cons.mp plain
    have first := @PassedOver.single separator opens closes c depth unescaped
      fun same => absurd same kept
    rw [if_neg opener, if_neg closer] at first
    exact first.append (ih others)

/-- What has been passed is a piece of its own before the separator. -/
theorem PassedOver.split {chars : List Char} (passes : PassedOver separator opens closes 0 chars 0)
    (plain : separator ≠ '\\') (rest : List Char) :
    splitOutside separator opens closes 0 (chars ++ separator :: rest)
      = chars :: splitOutside separator opens closes 0 rest := by
  rw [passes, splitOutside]
  · simp
  · exact fun escaped others equal => absurd equal plain

theorem PassedOver.whole {chars : List Char} {after : Nat}
    (passes : PassedOver separator opens closes 0 chars after) :
    splitOutside separator opens closes 0 chars = [chars] := by
  have all := passes []
  rw [List.append_nil] at all
  rw [all, splitOutside]
  simp

end Splitting

/-- The pieces of a route are its non-empty sources between slashes that stand outside brackets. -/
theorem splitRoute_joined {sources : List (List Char)} (each : ∀ source ∈ sources,
    source ≠ [] ∧ PassedOver '/' ['\x7b', '['] ['\x7d', ']'] 0 source 0) :
    splitRoute (String.intercalate "/" (sources.map String.ofList))
      = sources.map String.ofList := by
  suffices pieces : (splitOutside '/' ['\x7b', '['] ['\x7d', ']'] 0
      (String.intercalate "/" (sources.map String.ofList)).toList).filter
        (fun piece => !piece.isEmpty) = sources by
    rw [splitRoute, pieces]
  induction sources with
  | nil => rfl
  | cons source rest ih =>
    obtain ⟨⟨present, passes⟩, others⟩ := List.forall_mem_cons.mp each
    -- no source is lost among the pieces, for none is empty
    have filled : source.isEmpty = false := by simpa using present
    cases rest with
    | nil =>
      rw [List.map_singleton, String.intercalate_singleton, String.toList_ofList, passes.whole]
      simp [filled]
    | cons next more =>
      have shape : (String.intercalate "/" ((source :: next :: more).map String.ofList)).toList
          = source ++ '/' :: (String.intercalate "/" ((next :: more).map String.ofList)).toList := by
        simp [String.intercalate_cons_cons, String.toList_append]
      rw [shape, passes.split (by decide), List.filter_cons_of_pos (by simp [filled]), ih others]

/-! ### Literal text -/

/-- Characters that spell a text. -/
inductive Spelling : List Char → List Char → Prop
  | nil : Spelling [] []
  | escaped {chars text : List Char} (c : Char) (rest : Spelling chars text) :
    Spelling ('\\' :: c :: chars) (c :: text)
  | plain {chars text : List Char} {c : Char} (free : isGuarded c = false)
    (rest : Spelling chars text) : Spelling (c :: chars) (c :: text)

namespace Spelling

variable {chars text : List Char}

theorem append {others more : List Char} (first : Spelling chars text)
    (second : Spelling others more) : Spelling (chars ++ others) (text ++ more) := by
  induction first with
  | nil => exact second
  | escaped c _ ih => exact .escaped c ih
  | plain free _ ih => exact .plain free ih

/-- What spells a text consists of its characters and backslashes. -/
theorem chars_cases (spelling : Spelling chars text) : ∀ c ∈ chars, c = '\\' ∨ c ∈ text := by
  induction spelling with
  | nil => simp
  | escaped c _ ih =>
    intro other member
    rcases List.mem_cons.mp member with same | behind
    · exact .inl same
    · rcases List.mem_cons.mp behind with rfl | later
      · exact .inr List.mem_cons_self
      · exact (ih other later).imp_right (List.mem_cons_of_mem c)
  | @plain _ _ c _ _ ih =>
    intro other member
    rcases List.mem_cons.mp member with rfl | later
    · exact .inr List.mem_cons_self
    · exact (ih other later).imp_right (List.mem_cons_of_mem c)

/-- Nothing is split inside a spelled text. -/
theorem passes (spelling : Spelling chars text) :
    PassedOver '/' ['\x7b', '['] ['\x7d', ']'] 0 chars 0 := by
  induction spelling with
  | nil => exact .nil 0
  | escaped c _ ih => exact PassedOver.append (.escaped c 0) ih
  | @plain _ _ c free _ ih =>
    have own : PassedOver '/' ['\x7b', '['] ['\x7d', ']'] 0 [c] 0 := by
      refine PassedOver.plain 0 fun other member => ?_
      cases List.mem_singleton.mp member
      simp only [isGuarded, List.mem_cons, List.not_mem_nil, or_false, decide_eq_false_iff_not,
        not_or] at free
      simp [free]
    exact own.append ih

/-- A spelled text is read as the text, as many bytes further on as it takes to spell it. -/
theorem cut (spelling : Spelling chars text) (index : Nat) (read rest : List Char) :
    cutPattern index (.text read) (chars ++ rest)
      = cutPattern (index + byteSize chars) (.text (text.reverse ++ read)) rest := by
  induction spelling generalizing index read with
  | nil => rfl
  | @escaped chars text c _ ih =>
    rw [List.cons_append, List.cons_append, cutPattern_escaped, CutMode.push, CutMode.escape, ih]
    simp [Nat.add_assoc]
  | @plain chars text c free _ ih =>
    rw [List.cons_append, cutPattern_literal free, ih]
    simp [Nat.add_assoc]

end Spelling

/-! ### Placeholders -/

/-- Tokens with colons between them. -/
def joinTokens (first : List Char) (others : List (List Char)) : List Char :=
  first ++ others.flatMap (':' :: ·)

/-- The body of a placeholder inside braces, or inside brackets if it may be left out. -/
def bracketed (required : Bool) (body : List Char) : List Char :=
  (if required then '\x7b' else '[') :: (body ++ [if required then '\x7d' else ']'])

section Tokens

variable {first : List Char} {others : List (List Char)}

theorem joinTokens_cons (next : List Char) :
    joinTokens first (next :: others) = first ++ ':' :: joinTokens next others := by
  simp [joinTokens]

theorem joinTokens_plain
    (worded : ∀ token ∈ first :: others, ∀ c ∈ token, continuesIdentifier c = true) :
    ∀ c ∈ joinTokens first others, isBracketing c = false := by
  intro c member
  rcases List.mem_append.mp member with front | behind
  · exact not_bracketing_of_continues (worded first List.mem_cons_self c front)
  · obtain ⟨token, among, inside⟩ := List.mem_flatMap.mp behind
    rcases List.mem_cons.mp inside with rfl | own
    · decide
    · exact not_bracketing_of_continues (worded token (List.mem_cons_of_mem _ among) c own)

/-- Joined tokens fall apart at their colons. -/
theorem splitOutside_joinTokens
    (worded : ∀ token ∈ first :: others, ∀ c ∈ token, continuesIdentifier c = true) :
    splitOutside ':' ['\x7b', '[', '('] ['\x7d', ']', ')'] 0 (joinTokens first others)
      = first :: others := by
  have passes {token : List Char} (own : ∀ c ∈ token, continuesIdentifier c = true) :
      PassedOver ':' ['\x7b', '[', '('] ['\x7d', ']', ')'] 0 token 0 := by
    refine PassedOver.plain 0 fun c member => ?_
    have plain := not_bracketing_of_continues (own c member)
    have apart : c ≠ ':' := by
      rintro rfl
      cases own ':' member
    simp only [isBracketing, List.mem_cons, List.not_mem_nil, or_false, decide_eq_false_iff_not,
      not_or] at plain
    simp [plain, apart]
  obtain ⟨here, later⟩ := List.forall_mem_cons.mp worded
  induction others generalizing first with
  | nil =>
    rw [joinTokens, List.flatMap_nil, List.append_nil]
    exact (passes here).whole
  | cons next rest ih =>
    obtain ⟨own, more⟩ := List.forall_mem_cons.mp later
    rw [joinTokens_cons, (passes here).split (by decide), ih later own more]

end Tokens

section

open Placeholder

theorem bracketed_eq (required : Bool) (body : List Char) :
    bracketed required body = opener required :: (body ++ [closer required]) := rfl

/-- The body of a placeholder ends at the first closer. -/
theorem cutPattern_body {body : List Char} (plain : ∀ c ∈ body, isBracketing c = false)
    (required : Bool) (index start : Nat) (read rest : List Char) :
    ∃ next, cutPattern index (.placeholder required start 0 read)
        (body ++ closer required :: rest)
      = (.placeholder required (read.reverse ++ body) :: (cutPattern next (.text []) rest).1,
          (cutPattern next (.text []) rest).2) := by
  -- nothing in the body nests, so the depth stays at zero until its closer
  induction body generalizing index read with
  | nil =>
    refine ⟨index + byteSize [closer required], ?_⟩
    rw [List.append_nil]
    exact cutPattern_closer required
  | cons c more ih =>
    obtain ⟨own, others⟩ := List.forall_mem_cons.mp plain
    simp only [isBracketing, List.mem_cons, List.not_mem_nil, or_false, decide_eq_false_iff_not,
      not_or] at own
    have level : deepen? required 0 c = some 0 := by simp [deepen?, opens, closes, own]
    obtain ⟨next, cut⟩ := ih others (index + byteSize [c]) (c :: read)
    refine ⟨next, ?_⟩
    rw [List.cons_append, cutPattern_inside own.1 level, cut]
    simp

/-- A placeholder behind literal text is cut from the text and from what follows. -/
theorem cutPattern_bracketed {body : List Char} (plain : ∀ c ∈ body, isBracketing c = false)
    (required : Bool) (index : Nat) (read rest : List Char) :
    ∃ next, cutPattern index (.text read) (bracketed required body ++ rest)
      = (withText read (.placeholder required body :: (cutPattern next (.text []) rest).1),
          (cutPattern next (.text []) rest).2) := by
  obtain ⟨next, inside⟩ :=
    cutPattern_body plain required (index + byteSize [opener required]) index [] rest
  refine ⟨next, ?_⟩
  rw [bracketed_eq, List.cons_append, List.append_assoc, List.singleton_append, cutPattern_opener,
    inside]
  rfl

end

/-- Nothing is split inside a placeholder. -/
theorem bracketed_passes {body : List Char} (plain : ∀ c ∈ body, isBracketing c = false)
    (required : Bool) :
    PassedOver '/' ['\x7b', '['] ['\x7d', ']'] 0 (bracketed required body) 0 := by
  -- the opener and the closer enclose a level in which the body is passed over
  have opened : PassedOver '/' ['\x7b', '['] ['\x7d', ']'] 0
      [if required then '\x7b' else '['] 1 := by
    cases required <;> exact PassedOver.single (by decide) (by decide)
  have inside : PassedOver '/' ['\x7b', '['] ['\x7d', ']'] 1 body 1 := by
    refine PassedOver.plain 1 fun c member => ?_
    have own := plain c member
    simp only [isBracketing, List.mem_cons, List.not_mem_nil, or_false, decide_eq_false_iff_not,
      not_or] at own
    simp [own]
  have closed : PassedOver '/' ['\x7b', '['] ['\x7d', ']'] 1
      [if required then '\x7d' else ']'] 0 := by
    cases required <;> exact PassedOver.single (by decide) (by decide)
  exact opened.append (inside.append closed)

/-! ### Parameters -/

theorem checkName_fresh {known : List Parameter} {name : String}
    (identifier : isIdentifier name.toList = true)
    (fresh : ∀ parameter ∈ known, parameter.name ≠ name) :
    checkName known name.toList = .ok () := by
  have continues := continues_of_identifier identifier
  have unknown : known.any (·.name == name) = false := by simpa using fresh
  rw [← String.ofList_toList (s := name)] at unknown
  cases chars : name.toList with
  | nil =>
    rw [chars] at identifier
    cases identifier
  | cons first others =>
    rw [chars] at identifier continues unknown
    rw [isIdentifier, Bool.and_eq_true] at identifier
    have valid : others.find? (fun c => !continuesIdentifier c) = none := by
      rw [List.find?_eq_none]
      intro c member
      simp [continues c (List.mem_cons_of_mem _ member)]
    simp only [checkName, identifier.1, valid, unknown]
    rfl

theorem readFunctionTokens_identifiers {functions : List String}
    (identifiers : ∀ function ∈ functions, isIdentifier function.toList = true) :
    readFunctionTokens (functions.map String.toList) = .ok functions := by
  have each : (functions.map String.toList).mapM (fun token =>
      if token.isEmpty then .error (.unresolvableToken "" .empty)
      else if isIdentifier token then .ok (String.ofList token)
      else .error (.unresolvableToken (String.ofList token) .notFunctionName))
        = (.ok (functions.map id) : Except PatternFault _) := by
    refine mapM_map_ok fun function member => ?_
    have identifier := identifiers function member
    have present : function.toList.isEmpty = false := by
      cases chars : function.toList with
      | nil =>
        rw [chars] at identifier
        cases identifier
      | cons => rfl
    simp [present, identifier]
  rw [List.map_id] at each
  exact each

/-- The body of a placeholder is read by its tokens. -/
theorem readParameter_joinTokens {known : List Parameter} {required : Bool} {name : String}
    {tokens rest : List (List Char)} {valueType : ValueType} {groups : Nat} {functions : List String}
    (identifier : isIdentifier name.toList = true)
    (worded : ∀ token ∈ tokens, ∀ c ∈ token, continuesIdentifier c = true)
    (fresh : ∀ parameter ∈ known, parameter.name ≠ name)
    (typed : readTypeToken tokens = .ok ((valueType, groups), rest))
    (chain : readFunctionTokens rest = .ok functions) :
    readParameter known required (joinTokens name.toList tokens)
      = .ok { name, valueType, functions, required, innerGroups := groups } := by
  have split := splitOutside_joinTokens
    (List.forall_mem_cons.mpr ⟨continues_of_identifier identifier, worded⟩)
  rw [readParameter, split]
  simp only [List.headD_cons, List.tail_cons, checkName_fresh identifier fresh, typed]
  refine bind_ok_iff.mpr ⟨(), rfl, ?_⟩
  refine bind_ok_iff.mpr ⟨_, rfl, ?_⟩
  refine bind_ok_iff.mpr ⟨functions, chain, ?_⟩
  rw [String.ofList_toList]
  rfl

/-! ### Slashes around a pattern -/

section Stripping

variable {drop : Char → Bool} {text : List Char}

theorem dropWhile_of_head (kept : ∀ c ∈ text.head?, drop c = false) :
    text.dropWhile drop = text := by
  cases text with
  | nil => rfl
  | cons first rest => exact List.dropWhile_cons_of_neg (by simp [kept first rfl])

/-- Nothing is taken off where both ends are kept. -/
theorem strip_of_ends (front : ∀ c ∈ text.head?, drop c = false)
    (back : ∀ c ∈ text.getLast?, drop c = false) : Text.strip drop text = text := by
  rw [Text.strip, dropWhile_of_head front, dropWhile_of_head (by simpa using back),
    List.reverse_reverse]

theorem strip_of_kept (kept : ∀ c ∈ text, drop c = false) : Text.strip drop text = text :=
  strip_of_ends (fun c first => kept c (List.mem_of_head? first))
    fun c last => kept c (List.mem_of_getLast? last)

/-- A single character behind a text that is kept at both ends is all that is taken off. -/
theorem strip_concat {last : Char} (present : text ≠ []) (front : ∀ c ∈ text.head?, drop c = false)
    (back : ∀ c ∈ text.getLast?, drop c = false) (dropped : drop last = true) :
    Text.strip drop (text ++ [last]) = text := by
  have longer : ∀ c ∈ (text ++ [last]).head?, drop c = false := by
    rw [List.head?_append_of_ne_nil _ present]
    exact front
  rw [Text.strip, dropWhile_of_head longer, List.reverse_append, List.reverse_singleton,
    List.singleton_append, List.dropWhile_cons_of_pos dropped,
    dropWhile_of_head (by simpa using back), List.reverse_reverse]

/-- What has been stripped is kept at its end. -/
theorem strip_last (c : Char) (last : c ∈ (Text.strip drop text).getLast?) : drop c = false := by
  have kept := List.head?_dropWhile_not drop (text.dropWhile drop).reverse
  rw [Text.strip, List.getLast?_reverse] at last
  rw [Option.mem_def.mp last] at kept
  exact kept

/-- What has been stripped is kept at its beginning. -/
theorem strip_first (c : Char) (first : c ∈ (Text.strip drop text).head?) : drop c = false := by
  have kept := List.head?_dropWhile_not drop text
  -- only the end of what begins with a character that is kept has been taken off
  have front : Text.strip drop text <+: text.dropWhile drop := by
    rw [Text.strip, ← List.reverse_suffix, List.reverse_reverse]
    exact List.dropWhile_suffix drop
  obtain ⟨rest, split⟩ := front
  rw [← split, List.head?_append, Option.mem_def.mp first] at kept
  exact kept

/-- Characters of the class stand around what has been stripped. -/
theorem exists_around (drop : Char → Bool) (text : List Char) :
    ∃ before behind, text = before ++ Text.strip drop text ++ behind ∧
      (∀ c ∈ before, drop c = true) ∧ ∀ c ∈ behind, drop c = true := by
  let kept := (text.dropWhile drop).reverse
  refine ⟨text.takeWhile drop, (kept.takeWhile drop).reverse, ?_, ?_, ?_⟩
  · rw [List.append_assoc, Text.strip, ← List.reverse_append, List.takeWhile_append_dropWhile,
      List.reverse_reverse, List.takeWhile_append_dropWhile]
  · exact List.all_eq_true.mp List.all_takeWhile
  · exact fun c member => List.all_eq_true.mp List.all_takeWhile c (List.mem_reverse.mp member)

end Stripping

theorem stripSlashes_of_ends {source : String}
    (front : ∀ c ∈ source.toList.head?, (c == '/') = false)
    (unslashed : source.toList.getLast? ≠ some '/') : stripSlashes source = source := by
  have back : ∀ c ∈ source.toList.getLast?, (c == '/') = false := by
    intro c last
    rw [beq_eq_false_iff_ne]
    rintro rfl
    exact unslashed last
  rw [stripSlashes, strip_of_ends front back, String.ofList_toList]

/-- A pattern without slashes around it is read as the pieces into which it is cut. -/
theorem Pattern.read_of_cut {source : String} {pieces : List PatternPiece}
    {parts : List PatternPart} {parameters : List Parameter} (bare : stripSlashes source = source)
    (cut : cutPattern 0 (.text []) source.toList = (pieces, none))
    (resolved : resolvePieces [] pieces = .ok (parts, parameters)) :
    Pattern.read source = .ok ⟨source, parts, parameters⟩ := by
  rw [read_ok_iff, bare, readStripped_ok_iff, cut]
  exact ⟨rfl, rfl, resolved⟩

end Signpost

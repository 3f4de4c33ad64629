import Signpost.Proofs.Pattern.Builtin
import Signpost.Proofs.Pattern.Escaping
import Signpost.Proofs.Pattern.Origin

/-!
# Printed patterns

A pattern is printed part by part: a text with its escapes, a parameter as its name, its type and its
functions between colons. Reading what has been printed gives the pattern back. It is cut into the same
parts, because no text is empty and no two texts meet; a word behind the type is always a function,
even if it is the keyword of a type; and the parameters are numbered again as they stand.
-/
namespace Signpost

/-- How a type is written. -/
def ValueType.token : ValueType → String
  | .string => "string"
  | .int => "int"
  | .float => "float"
  | .custom regex => regex

/-- What is written behind the name of a parameter. -/
def Parameter.tokens (parameter : Parameter) : List (List Char) :=
  parameter.valueType.token.toList :: parameter.functions.map String.toList

def Parameter.body (parameter : Parameter) : List Char :=
  joinTokens parameter.name.toList parameter.tokens

namespace PatternPart

def isText : PatternPart → Bool
  | .literal _ => true
  | .parameter _ => false

/-- How a part of a pattern with the given parameters is written. -/
def written (parameters : List Parameter) : PatternPart → List Char
  | .literal text => Pattern.escapeChars text.toList
  | .parameter index =>
    (parameters[index]?.map fun parameter => bracketed parameter.required parameter.body).getD []

end PatternPart

namespace Pattern

def print (pattern : Pattern) : String :=
  String.ofList (pattern.parts.flatMap (PatternPart.written pattern.parameters))

/-- Texts that are not empty and do not meet, and parameters in the order of their parts, with
different names; names and functions are identifiers. -/
structure WellFormed (pattern : Pattern) : Prop where
  filled : ∀ text, .literal text ∈ pattern.parts → text ≠ ""
  apart : pattern.parts.IsChain fun left right => left.isText = true → right.isText = false
  ordered : partIndices pattern.parts = List.range pattern.parameters.length
  distinct : (pattern.parameters.map (·.name)).Nodup
  named : ∀ parameter ∈ pattern.parameters, isIdentifier parameter.name.toList = true
  chained : ∀ parameter ∈ pattern.parameters, ∀ function ∈ parameter.functions,
    isIdentifier function.toList = true

end Pattern

/-! ### Parameters -/

section Parameters

variable {parameter : Parameter}

theorem ValueType.Builtin.ofKeyword?_token {valueType : ValueType} (builtin : valueType.Builtin) :
    ValueType.ofKeyword? valueType.token = some valueType := by
  cases valueType with
  | string | int | float => rfl
  | custom token => exact absurd rfl (builtin token)

theorem Parameter.tokens_worded (builtin : parameter.valueType.Builtin)
    (chained : ∀ function ∈ parameter.functions, isIdentifier function.toList = true) :
    ∀ token ∈ parameter.tokens, ∀ c ∈ token, continuesIdentifier c = true := by
  refine List.forall_mem_cons.mpr ⟨?_, ?_⟩
  · cases type : parameter.valueType with
    | string | int | float => exact List.all_eq_true.mp (by decide)
    | custom token => exact absurd type (builtin token)
  · intro token member
    obtain ⟨function, among, rfl⟩ := List.mem_map.mp member
    exact continues_of_identifier (chained function among)

theorem Parameter.body_plain (builtin : parameter.valueType.Builtin)
    (named : isIdentifier parameter.name.toList = true)
    (chained : ∀ function ∈ parameter.functions, isIdentifier function.toList = true) :
    ∀ c ∈ parameter.body, isBracketing c = false :=
  joinTokens_plain
    (List.forall_mem_cons.mpr ⟨continues_of_identifier named, tokens_worded builtin chained⟩)

/-- The body of a parameter is read as the parameter, unless its name is taken. -/
theorem Parameter.read_body {known : List Parameter} (builtin : parameter.valueType.Builtin)
    (groups : parameter.innerGroups = 0) (named : isIdentifier parameter.name.toList = true)
    (chained : ∀ function ∈ parameter.functions, isIdentifier function.toList = true)
    (fresh : ∀ other ∈ known, other.name ≠ parameter.name) :
    readParameter known parameter.required parameter.body = .ok parameter := by
  have typed : readTypeToken parameter.tokens
      = .ok ((parameter.valueType, 0), parameter.functions.map String.toList) := by
    have present : parameter.valueType.token.toList.isEmpty = false := by
      cases type : parameter.valueType with
      | string | int | float => decide
      | custom token => exact absurd type (builtin token)
    rw [tokens, readTypeToken, present, String.ofList_toList, builtin.ofKeyword?_token]
    rfl
  rw [body, readParameter_joinTokens named (tokens_worded builtin chained) fresh typed
    (readFunctionTokens_identifiers chained), ← groups]

end Parameters

/-! ### Patterns -/

namespace Pattern

variable {pattern : Pattern}

/-- No parameter in front of another one has its name. -/
theorem WellFormed.fresh (wellFormed : pattern.WellFormed) {number : Nat}
    (inside : number < pattern.parameters.length) :
    ∀ other ∈ pattern.parameters.take number, other.name ≠ pattern.parameters[number].name := by
  intro other among same
  obtain ⟨position, early, rfl⟩ := List.mem_take_iff_getElem.mp among
  let names := pattern.parameters.map (·.name)
  have late : number < names.length := by simpa [names] using inside
  have front : position < names.length := by omega
  have twice : names[position] = names[number] := by simpa [names] using same
  have equal := wellFormed.distinct.getElem_inj_iff.mp twice
  omega

theorem written_parameter {parameters : List Parameter} {number : Nat}
    (inside : number < parameters.length) :
    PatternPart.written parameters (.parameter number)
      = bracketed parameters[number].required parameters[number].body := by
  rw [PatternPart.written, List.getElem?_eq_getElem inside]
  rfl

/-- Where parts number the parameters that are not known yet, the first one does so with the next
number. -/
theorem ordered_cons {number known count : Nat} {rest : List PatternPart}
    (ordered : partIndices (.parameter number :: rest) = List.range' known (count - known)) :
    number = known ∧ number < count ∧
      partIndices rest = List.range' (number + 1) (count - (number + 1)) := by
  have size := congrArg List.length ordered
  simp only [partIndices, List.length_cons, List.length_range'] at size
  have more : count - known = (count - (known + 1)) + 1 := by omega
  rw [more, List.range'_succ, partIndices] at ordered
  obtain ⟨rfl, later⟩ := List.cons.inj ordered
  exact ⟨rfl, by omega, later⟩

/-- No text follows a text. -/
theorem apart_literal {text : String} {rest : List PatternPart}
    (apart : (PatternPart.literal text :: rest).IsChain
      fun left right => left.isText = true → right.isText = false) :
    ∀ part ∈ rest.head?, part.isText = false := by
  cases rest with
  | nil => simp
  | cons next _ => simpa [PatternPart.isText] using (List.isChain_cons_cons.mp apart).1

/-- What is written for the parts behind a text is cut into pieces that are resolved as these parts,
where the parameters in front of them are known. -/
theorem exists_pieces (wellFormed : pattern.WellFormed)
    (builtin : ∀ parameter ∈ pattern.parameters,
      parameter.valueType.Builtin ∧ parameter.innerGroups = 0)
    {parts : List PatternPart} (filled : ∀ text, .literal text ∈ parts → text ≠ "")
    (apart : parts.IsChain fun left right => left.isText = true → right.isText = false)
    {known : Nat} (bound : known ≤ pattern.parameters.length)
    (ordered : partIndices parts = List.range' known (pattern.parameters.length - known))
    (index : Nat) (read : List Char)
    (behind : read ≠ [] → ∀ part ∈ parts.head?, part.isText = false) :
    ∃ pieces, cutPattern index (.text read)
        (parts.flatMap (PatternPart.written pattern.parameters)) = (withText read pieces, none) ∧
      resolvePieces (pattern.parameters.take known) pieces = .ok (parts, pattern.parameters) := by
  -- by induction on the parts: the parameters in front of them are the ones that are known
  induction parts generalizing known index read with
  | nil =>
    have all : known = pattern.parameters.length := by
      have none : pattern.parameters.length - known = 0 := by
        simpa [partIndices] using congrArg List.length ordered.symm
      omega
    refine ⟨[], rfl, ?_⟩
    rw [all, List.take_length]
    rfl
  | cons part rest ih =>
    have later : ∀ text, .literal text ∈ rest → text ≠ "" := fun text member =>
      filled text (List.mem_cons_of_mem part member)
    rw [List.flatMap_cons]
    cases part with
    | literal text =>
      -- nothing has been read before the text, and no text follows it
      have start : read = [] := by
        by_contra present
        cases behind present (.literal text) rfl
      subst start
      have present : text.toList ≠ [] :=
        mt String.toList_eq_nil_iff.mp (filled text List.mem_cons_self)
      obtain ⟨pieces, cut, resolved⟩ := ih later apart.of_cons bound ordered
        (index + byteSize (escapeChars text.toList)) text.toList.reverse
        fun _ => apart_literal apart
      refine ⟨.text text.toList :: pieces, ?_, ?_⟩
      · rw [PatternPart.written, (escapeChars_spelling text.toList).cut, List.append_nil, cut]
        simp [withText, present]
      · exact resolvePieces_text_iff.mpr ⟨_, resolved, by rw [String.ofList_toList]⟩
    | parameter number =>
      obtain ⟨rfl, inside, ordered⟩ := ordered_cons ordered
      let parameter := pattern.parameters[number]
      have member : parameter ∈ pattern.parameters := List.getElem_mem inside
      obtain ⟨type, groups⟩ := builtin parameter member
      have named := wellFormed.named parameter member
      have chained := wellFormed.chained parameter member
      have taken := Parameter.read_body type groups named chained (wellFormed.fresh inside)
      obtain ⟨next, placeholder⟩ := cutPattern_bracketed (Parameter.body_plain type named chained)
        parameter.required index read (rest.flatMap (PatternPart.written pattern.parameters))
      obtain ⟨pieces, cut, resolved⟩ := ih later apart.of_cons inside ordered next []
        fun absent => absurd rfl absent
      refine ⟨.placeholder parameter.required parameter.body :: pieces, ?_, ?_⟩
      · rw [written_parameter inside]
        refine placeholder.trans ?_
        rw [cut]
        rfl
      · rw [List.take_succ_eq_append_getElem inside] at resolved
        refine resolvePieces_placeholder_iff.mpr ⟨parameter, _, taken, resolved, ?_⟩
        rw [List.length_take_of_le (Nat.le_of_lt inside)]

/-- No slash begins a printed part. -/
theorem written_head (parameters : List Parameter) (parts : List PatternPart) :
    ∀ c ∈ (parts.flatMap (PatternPart.written parameters)).head?, (c == '/') = false := by
  induction parts with
  | nil => simp
  | cons part rest ih =>
    intro c begins
    rw [List.flatMap_cons, List.head?_append, Option.mem_def, Option.or_eq_some_iff] at begins
    rcases begins with own | ⟨-, later⟩
    · cases part with
      | literal text => exact escapeChars_head text.toList c own
      | parameter index =>
        rw [PatternPart.written] at own
        cases found : parameters[index]? with
        | none => simp [found] at own
        | some parameter =>
          rw [found] at own
          cases own
          cases parameter.required <;> rfl
    · exact ih c later

theorem source_of_read {source : String} (taken : Pattern.read source = .ok pattern) :
    pattern.source = stripSlashes source :=
  (readStripped_ok_iff.mp (read_ok_iff.mp taken)).1

/-- A printed pattern is read as the pattern exactly if what has been printed does not end in a
slash, which would be taken off with its backslash left behind. -/
theorem read_print (wellFormed : pattern.WellFormed)
    (builtin : ∀ parameter ∈ pattern.parameters,
      parameter.valueType.Builtin ∧ parameter.innerGroups = 0) :
    Pattern.read pattern.print = .ok { pattern with source := pattern.print }
      ↔ pattern.print.toList.getLast? ≠ some '/' := by
  constructor
  · intro taken last
    -- the source of a pattern that has been read is what is left without the slashes around it
    have source := source_of_read taken
    dsimp only at source
    rw [source, stripSlashes, String.toList_ofList] at last
    cases strip_last '/' last
  · intro unslashed
    have bare : stripSlashes pattern.print = pattern.print := by
      refine stripSlashes_of_ends ?_ unslashed
      rw [print, String.toList_ofList]
      exact written_head pattern.parameters pattern.parts
    obtain ⟨pieces, cut, resolved⟩ := exists_pieces wellFormed builtin wellFormed.filled
      wellFormed.apart (Nat.zero_le _) (by rw [wellFormed.ordered, List.range_eq_range']; rfl) 0 []
      fun absent => absurd rfl absent
    refine read_of_cut bare ?_ resolved
    rw [print, String.toList_ofList, cut]
    rfl

/-- A version of a package: texts with characters of every kind around adjacent parameters. -/
def packagePattern : Pattern where
  source := ""
  parts := [.literal "v\x7b", .parameter 0, .parameter 1, .literal "/]\\"]
  parameters := [
    { name := "major", valueType := .int, functions := ["trim", "int"], required := true },
    { name := "_rest", valueType := .float, required := false }]

theorem read_print_package :
    packagePattern.WellFormed ∧
    (∀ parameter ∈ packagePattern.parameters,
      parameter.valueType.Builtin ∧ parameter.innerGroups = 0) ∧
    packagePattern.print = "v\\\x7b\x7bmajor:int:trim:int\x7d[_rest:float]\\/\\]\\\\" ∧
    Pattern.read "v\\\x7b\x7bmajor:int:trim:int\x7d[_rest:float]\\/\\]\\\\"
      = .ok { packagePattern with
        source := "v\\\x7b\x7bmajor:int:trim:int\x7d[_rest:float]\\/\\]\\\\" } := by
  have wellFormed : packagePattern.WellFormed :=
    { filled := by
        intro text member
        simp only [packagePattern, List.mem_cons, PatternPart.literal.injEq, reduceCtorEq,
          List.not_mem_nil, or_false, false_or] at member
        rcases member with rfl | rfl <;> decide
      apart := by decide
      ordered := by decide
      distinct := by decide
      named := by decide
      chained := by decide }
  have builtin : ∀ parameter ∈ packagePattern.parameters,
      parameter.valueType.Builtin ∧ parameter.innerGroups = 0 := by
    simp [packagePattern, ValueType.Builtin]
  have printed : packagePattern.print
      = "v\\\x7b\x7bmajor:int:trim:int\x7d[_rest:float]\\/\\]\\\\" := by decide
  have taken := (read_print wellFormed builtin).mpr (by rw [printed]; decide)
  rw [printed] at taken
  exact ⟨wellFormed, builtin, printed, taken⟩

end Pattern

end Signpost

import Signpost.Regex.Expr
import Signpost.Regex.Property
import Signpost.Text.Hex

/-!
# Lexemes of regular expressions

The pieces that are the same inside and outside brackets: the flags in force, the blanks and
comments that the extended flag skips, hexadecimal and decimal numbers, and what a backslash makes
of the characters behind it. Every reader returns what it read together with the rest of the text.
-/
namespace Signpost.Regex

open Signpost.Text

/-- The flags in force at a position. -/
structure Flags where
  ignoreCase : Bool := false
  multiLine : Bool := false
  dotAll : Bool := false
  swapGreed : Bool := false
  ascii : Bool := false
  extended : Bool := false
  crlf : Bool := false
  deriving DecidableEq, Repr

/-- Skips blanks and comments; a comment runs to the end of its line. -/
def skipBlanks (inComment : Bool) : List Char → List Char
  | [] => []
  | c :: rest =>
    if inComment then skipBlanks (c != '\n') rest
    else if c = '#' then skipBlanks true rest
    else if isBlank c then skipBlanks false rest
    else c :: rest

namespace Flags

def skip (flags : Flags) (text : List Char) : List Char :=
  if flags.extended then skipBlanks false text else text

/-- The next character that counts, looking past blanks and the start of a comment. -/
def peek (flags : Flags) (text : List Char) : Option Char :=
  if flags.extended then
    let past := match text.dropWhile isBlank with
      | '#' :: rest => rest.dropWhile isBlank
      | rest => rest
    past.head? <|> text.head?
  else text.head?

/-- Turns the flag of a letter on or off. -/
def set? (flags : Flags) (on : Bool) : Char → Option Flags
  | 'i' => some { flags with ignoreCase := on }
  | 'm' => some { flags with multiLine := on }
  | 's' => some { flags with dotAll := on }
  | 'U' => some { flags with swapGreed := on }
  | 'u' => some { flags with ascii := !on }
  | 'x' => some { flags with extended := on }
  | 'R' => some { flags with crlf := on }
  | _ => none

/-- A class as the flags make it match. -/
def fold (flags : Flags) (set : CharClass) : CharClass :=
  if flags.ignoreCase then if flags.ascii then .asciiCase set else .anyCase set else set

/-- The ASCII flag leaves no class that has other characters: their encodings could be matched in
part. -/
def admit? (flags : Flags) (set : CharClass) : Option CharClass :=
  if flags.ascii && !set.isAscii then none else some set

def literal (flags : Flags) (c : Char) : Expr := .chars (flags.fold (.single c))

/-- What a dot matches: all but the ends of lines, or everything. -/
def dot (flags : Flags) : CharClass :=
  .complement <| .within <|
    if flags.dotAll then [] else if flags.crlf then [(0x0A, 0x0A), (0x0D, 0x0D)]
    else [(0x0A, 0x0A)]

def start (flags : Flags) : Assertion :=
  if flags.multiLine then .lineStart flags.crlf else .textStart

def stop (flags : Flags) : Assertion :=
  if flags.multiLine then .lineEnd flags.crlf else .textEnd

def digits (flags : Flags) : CharClass :=
  if flags.ascii then .within [(0x30, 0x39)] else .decimal

def spaces (flags : Flags) : CharClass :=
  if flags.ascii then .within [(0x09, 0x0D), (0x20, 0x20)] else .space

def letters (flags : Flags) : CharClass :=
  if flags.ascii then .within [(0x30, 0x39), (0x41, 0x5A), (0x5F, 0x5F), (0x61, 0x7A)] else .word

end Flags

def charOfCode? (n : Nat) : Option Char := if n.isValidChar then some (Char.ofNat n) else none

/-- A given number of hexadecimal digits. -/
def hexDigits (flags : Flags) : Nat → Nat → List Char → Option (Nat × List Char)
  | 0, value, text => some (value, text)
  | _ + 1, _, [] => none
  | count + 1, value, c :: rest => do
    let digit ← Hex.value? c.toNat
    hexDigits flags count (value * 16 + digit) (flags.skip rest)

/-- Hexadecimal digits up to a closing brace. -/
def hexUntilBrace (flags : Flags) : Nat → Option Nat → List Char → Option (Nat × List Char)
  | fuel + 1, value, c :: rest =>
    if c = '\x7d' then value.map fun n => (n, flags.skip rest)
    else do
      let digit ← Hex.value? c.toNat
      hexUntilBrace flags fuel (some (value.getD 0 * 16 + digit)) (flags.skip rest)
  | _, _, _ => none

/-- A character given by its code point, after the letter that announces `width` digits. Two digits
give a byte, which under the ASCII flag must be a character of its own. -/
def readCode (flags : Flags) (width : Nat) (text : List Char) : Option (Char × List Char) := do
  let (n, rest) ←
    match flags.skip text with
    | '\x7b' :: rest => hexUntilBrace flags (rest.length + 1) none (flags.skip rest)
    | digits =>
      (hexDigits flags width 0 digits).filter fun (n, _) => !(flags.ascii && width = 2 && 0x80 ≤ n)
  return (← charOfCode? n, rest)

/-- The longest run of decimal digits, read as a number; blanks are skipped behind each digit. -/
def decimalDigits (flags : Flags) : Nat → Option Nat → List Char → Option Nat × List Char
  | fuel + 1, value, c :: rest =>
    if c.isDigit then
      decimalDigits flags fuel (some (value.getD 0 * 10 + (c.toNat - 0x30))) (flags.skip rest)
    else (value, c :: rest)
  | _, value, text => (value, text)

/-- A count of at most 32 bits, with blanks around it. The count is missing where there is no digit
and where it is too large. -/
def readCount (flags : Flags) (text : List Char) : Option Nat × List Char :=
  let (value, rest) := decimalDigits flags (text.length + 1) none (text.dropWhile isBlank)
  let after := match rest with
    | c :: _ => if isBlank c then flags.skip (rest.dropWhile isBlank) else rest
    | [] => rest
  (value.filter (· < UInt32.size), after)

/-- The greatest of several depths. -/
def deepest (depths : List Nat) : Nat := depths.foldr max 0

@[simp]
theorem deepest_nil : deepest [] = 0 := rfl

@[simp]
theorem deepest_cons (depth : Nat) (rest : List Nat) :
    deepest (depth :: rest) = max depth (deepest rest) := rfl

/-- How deep things nest that stand side by side: a single one needs no level above it. -/
def level : List Nat → Nat
  | [] => 0
  | [depth] => depth
  | depths => deepest depths + 1

@[simp]
theorem level_single (depth : Nat) : level [depth] = depth := rfl

/-- What a backslash and the characters behind it stand for. -/
inductive Escape
  | char (c : Char)
  | set (set : CharClass)
  | assertion (condition : Assertion)
  deriving DecidableEq, Repr

/-- Characters that may stand behind a backslash and then mean themselves: the ASCII characters that
are neither letters nor digits nor angle brackets. -/
def escapable (c : Char) : Bool := c.toNat < 0x80 && !c.isAlphanum && c != '<' && c != '>'

/-- The letters and hyphens of a word boundary's name. -/
def boundaryName (flags : Flags) : Nat → List Char → List Char × List Char
  | fuel + 1, c :: rest =>
    if c.isAlpha || c = '-' then
      let (name, after) := boundaryName flags fuel (flags.skip rest)
      (c :: name, after)
    else ([], c :: rest)
  | _, text => ([], text)

/-- A word boundary, after its letter: a name in braces makes it one-sided, and anything else in
braces is a count for it. -/
def readBoundary (flags : Flags) (text : List Char) : Option (Assertion × List Char) :=
  match text with
  | '\x7b' :: rest =>
    match flags.skip rest with
    | [] => none
    | c :: more =>
      if c.isAlpha || c = '-' then
        match boundaryName flags (more.length + 2) (c :: more) with
        | (name, '\x7d' :: after) =>
          match String.ofList name with
          | "start" => some (.wordStart flags.letters, after)
          | "end" => some (.wordEnd flags.letters, after)
          | "start-half" => some (.noWordBefore flags.letters, after)
          | "end-half" => some (.noWordAfter flags.letters, after)
          | _ => none
        | _ => none
      else some (.boundary flags.letters, text)
  | _ => some (.boundary flags.letters, text)

/-- Characters up to a closing brace. -/
def untilBrace (flags : Flags) : Nat → List Char → Option (List Char × List Char)
  | fuel + 1, c :: rest =>
    if c = '\x7d' then some ([], rest)
    else (untilBrace flags fuel (flags.skip rest)).map fun (name, after) => (c :: name, after)
  | _, _ => none

/-- What calls a property, after the letter that announces it: a name in braces or one letter. -/
def readPropertyName (flags : Flags) (text : List Char) : Option (List Char × List Char) :=
  match flags.skip text with
  | '\x7b' :: rest => untilBrace flags (rest.length + 1) (flags.skip rest)
  | c :: rest => some ([c], flags.skip rest)
  | [] => none

/-- A class called by a property, of which the ASCII flag knows none. -/
def readProperty (flags : Flags) (text : List Char) : Option (CharClass × List Char) := do
  let (name, rest) ← readPropertyName flags text
  if flags.ascii then none else return (flags.fold (← CharClass.called? name), rest)

/-- Reads what stands behind a backslash. -/
def readEscape (flags : Flags) : List Char → Option (Escape × List Char)
  | [] => none
  | c :: rest =>
    if escapable c then some (.char c, rest)
    else
      match c with
      | 'x' => (readCode flags 2 rest).map fun (c, rest) => (.char c, rest)
      | 'u' => (readCode flags 4 rest).map fun (c, rest) => (.char c, rest)
      | 'U' => (readCode flags 8 rest).map fun (c, rest) => (.char c, rest)
      | 'd' => some (.set flags.digits, rest)
      | 'D' => (flags.admit? (.complement flags.digits)).map fun set => (.set set, rest)
      | 's' => some (.set flags.spaces, rest)
      | 'S' => (flags.admit? (.complement flags.spaces)).map fun set => (.set set, rest)
      | 'w' => some (.set flags.letters, rest)
      | 'W' => (flags.admit? (.complement flags.letters)).map fun set => (.set set, rest)
      | 'p' => (readProperty flags rest).map fun (set, rest) => (.set set, rest)
      | 'P' => (readProperty flags rest).map fun (set, rest) => (.set (.complement set), rest)
      | 'a' => some (.char (Char.ofNat 0x07), rest)
      | 'f' => some (.char (Char.ofNat 0x0C), rest)
      | 't' => some (.char '\t', rest)
      | 'n' => some (.char '\n', rest)
      | 'r' => some (.char '\r', rest)
      | 'v' => some (.char (Char.ofNat 0x0B), rest)
      | 'A' => some (.assertion .textStart, rest)
      | 'z' => some (.assertion .textEnd, rest)
      | 'b' => (readBoundary flags rest).map fun (condition, rest) => (.assertion condition, rest)
      | 'B' => some (.assertion (.noBoundary flags.letters), rest)
      | '<' => some (.assertion (.wordStart flags.letters), rest)
      | '>' => some (.assertion (.wordEnd flags.letters), rest)
      | _ => none

end Signpost.Regex

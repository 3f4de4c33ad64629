import Signpost.Pattern.Basic
import Signpost.Pattern.Error
import Signpost.Text.Split

/-!
# Reading patterns

A pattern is first cut into literal pieces and the bodies of its placeholders, where an escaped
character is taken as it is and a placeholder ends at the matching closer outside inner brackets.
The pieces are then resolved from left to right. Cutting may stop early at a fault; the pieces
before it are resolved all the same, because a fault in one of them comes first.

The body of a placeholder is a name and tokens separated by colons outside brackets. The token
behind the name may be a type: a keyword, or a regular expression if it is no identifier. All
others are the names of functions.
-/
namespace Signpost

open Text

/-- Cuts at a separator that is neither escaped nor inside brackets. A closer without an opener
leaves the depth at zero. -/
def splitOutside (separator : Char) (opens closes : List Char) (depth : Nat) :
    List Char → List (List Char)
  | [] => [[]]
  | '\\' :: escaped :: rest =>
    (splitOutside separator opens closes depth rest).modifyHead (['\\', escaped] ++ ·)
  | c :: rest =>
    if c = separator ∧ depth = 0 then [] :: splitOutside separator opens closes depth rest
    else
      let depth := if c ∈ opens then depth + 1 else if c ∈ closes then depth - 1 else depth
      (splitOutside separator opens closes depth rest).modifyHead (c :: ·)

/-- The segment patterns of a route: its non-empty parts between slashes outside placeholders. -/
def splitRoute (route : String) : List String :=
  ((splitOutside '/' ['\x7b', '['] ['\x7d', ']'] 0 route.toList).filter fun segment =>
    !segment.isEmpty).map String.ofList

def startsIdentifier (c : Char) : Bool := c.isAlpha || c = '_'

def continuesIdentifier (c : Char) : Bool := c.isAlphanum || c = '_'

def isIdentifier (token : List Char) : Bool :=
  match token with
  | [] => false
  | first :: others => startsIdentifier first && others.all continuesIdentifier

/-- The type that a regular expression stands for, and how many groups it opens. -/
def customType (token : String) : Except PatternFault (ValueType × Nat) :=
  match Regex.compile? ("^(?:" ++ token ++ ")$") with
  | none => .error (.unresolvableToken token .invalidRegex)
  | some regex =>
    if regex.groupNames.isEmpty then .ok (.custom token, regex.groupCount)
    else .error (.unresolvableToken token .namedGroup)

/-- The type that a token stands for where only types are expected. -/
def readType (token : String) : Except PatternFault (ValueType × Nat) :=
  match ValueType.ofKeyword? token with
  | some valueType => .ok (valueType, 0)
  | none => customType token

/-- Function names separated by colons or commas, with blanks around them; empty ones are skipped.
-/
def readFunctions (text : String) : Except PatternFault (List String) :=
  let tokens := (pieces (fun c => c = ':' || c = ',') text.toList).map (strip isBlank)
  (tokens.filter fun token => !token.isEmpty).mapM fun token =>
    if isIdentifier token then .ok (String.ofList token)
    else .error (.unresolvableToken (String.ofList token) .notFunctionName)

/-- A piece of a pattern: text, or the body of a placeholder. -/
inductive PatternPiece
  | text (text : List Char)
  | placeholder (required : Bool) (body : List Char)
  deriving DecidableEq, Repr

/-- Where the cutting stands: in literal text, or in a placeholder that opened at a position. The
characters read so far are kept in reverse. -/
inductive CutMode
  | text (read : List Char)
  | placeholder (required : Bool) (start depth : Nat) (read : List Char)
  deriving DecidableEq, Repr

namespace CutMode

def push (mode : CutMode) (chars : List Char) : CutMode :=
  match mode with
  | .text read => .text (chars.reverse ++ read)
  | .placeholder required start depth read =>
    .placeholder required start depth (chars.reverse ++ read)

end CutMode

/-- Adds the literal text read so far in front of later pieces, unless it is empty. -/
def withText (read : List Char) (pieces : List PatternPiece) : List PatternPiece :=
  if read.isEmpty then pieces else .text read.reverse :: pieces

/-- Cuts a pattern; `index` is the position of the first character in bytes. -/
def cutPattern (index : Nat) (mode : CutMode) :
    List Char → List PatternPiece × Option PatternFault
  | [] =>
    match mode with
    | .text read => (withText read [], none)
    | .placeholder _ start _ _ => ([], some (.unterminatedPlaceholder start))
  | ['\\'] => ([], some (.loneEscape index))
  | '\\' :: escaped :: rest =>
    -- the body of a placeholder is cut again later, so its escapes are kept
    let kept := match mode with
      | .text _ => [escaped]
      | .placeholder .. => ['\\', escaped]
    cutPattern (index + 1 + escaped.utf8Size) (mode.push kept) rest
  | c :: rest =>
    let next := index + c.utf8Size
    match mode with
    | .text read =>
      if c = '\x7b' ∨ c = '[' then
        let (pieces, fault) := cutPattern next (.placeholder (c = '\x7b') index 0 []) rest
        (withText read pieces, fault)
      else if c = '\x7d' ∨ c = ']' then ([], some (.unexpectedCloser index c))
      else if c = '/' then ([], some (.segmentSeparator index))
      else cutPattern next (mode.push [c]) rest
    | .placeholder required start depth read =>
      if c = '\x7b' ∨ c = '[' ∨ c = '(' then
        cutPattern next (.placeholder required start (depth + 1) (c :: read)) rest
      else if depth = 0 ∧ c = (if required then '\x7d' else ']') then
        let (pieces, fault) := cutPattern next (.text []) rest
        (.placeholder required read.reverse :: pieces, fault)
      else if depth > 0 ∧ (c = '\x7d' ∨ c = ']' ∨ c = ')') then
        cutPattern next (.placeholder required start (depth - 1) (c :: read)) rest
      else cutPattern next (mode.push [c]) rest

/-- A name is an identifier that no earlier parameter has. -/
def checkName (known : List Parameter) (name : List Char) : Except PatternFault Unit :=
  match name with
  | [] => .error .missingName
  | first :: others =>
    if !startsIdentifier first then .error (.invalidStart (String.ofList name) first)
    else
      match others.find? fun c => !continuesIdentifier c with
      | some invalid => .error (.invalidCharacter (String.ofList name) invalid)
      | none =>
        if known.any (·.name == String.ofList name) then
          .error (.duplicateParameter (String.ofList name))
        else .ok ()

/-- Tokens that can only be the names of functions. -/
def readFunctionTokens (tokens : List (List Char)) : Except PatternFault (List String) :=
  tokens.mapM fun token =>
    if token.isEmpty then .error (.unresolvableToken "" .empty)
    else if isIdentifier token then .ok (String.ofList token)
    else .error (.unresolvableToken (String.ofList token) .notFunctionName)

/-- The type, if the first token behind the name is one, and the tokens that remain. -/
def readTypeToken (tokens : List (List Char)) :
    Except PatternFault ((ValueType × Nat) × List (List Char)) :=
  match tokens with
  | [] => .ok ((.string, 0), [])
  | token :: rest =>
    if token.isEmpty then .error (.unresolvableToken "" .empty)
    else
      match ValueType.ofKeyword? (String.ofList token) with
      | some valueType => .ok ((valueType, 0), rest)
      | none =>
        if isIdentifier token then .ok ((.string, 0), tokens)
        else do return (← customType (String.ofList token), rest)

/-- Reads the body of a placeholder. -/
def readParameter (known : List Parameter) (required : Bool) (body : List Char) :
    Except PatternFault Parameter := do
  let tokens := splitOutside ':' ['\x7b', '[', '('] ['\x7d', ']', ')'] 0 body
  let name := tokens.headD []
  checkName known name
  let ((valueType, innerGroups), rest) ← readTypeToken tokens.tail
  let functions ← readFunctionTokens rest
  return { name := String.ofList name, valueType, functions, required, innerGroups }

/-- Turns pieces into parts behind the parameters already known. -/
def resolvePieces (known : List Parameter) :
    List PatternPiece → Except PatternFault (List PatternPart × List Parameter)
  | [] => .ok ([], known)
  | .text text :: rest => do
    let (parts, parameters) ← resolvePieces known rest
    return (.literal (String.ofList text) :: parts, parameters)
  | .placeholder required body :: rest => do
    let parameter ← readParameter known required body
    let (parts, parameters) ← resolvePieces (known ++ [parameter]) rest
    return (.parameter known.length :: parts, parameters)

def stripSlashes (text : String) : String := String.ofList (strip (· == '/') text.toList)

namespace Pattern

/-- Reads a pattern whose surrounding slashes are gone. -/
def readStripped (source : String) : Except PatternFault Pattern := do
  let (pieces, fault) := cutPattern 0 (.text []) source.toList
  let (parts, parameters) ← resolvePieces [] pieces
  match fault with
  | some fault => .error fault
  | none => return { source, parts, parameters }

/-- Reads a segment pattern; slashes around it do not count. -/
def read (source : String) : Except PatternError Pattern :=
  let stripped := stripSlashes source
  (readStripped stripped).mapError fun fault => ⟨stripped, fault⟩

end Pattern

end Signpost

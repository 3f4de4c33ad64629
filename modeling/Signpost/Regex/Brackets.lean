import Signpost.Regex.Lexeme

/-!
# Classes in brackets

Brackets hold characters, ranges, escapes, named classes and further brackets, whose union is taken;
`&&`, `--` and `~~` combine what stands before them with what follows, from left to right. The open
brackets form a stack. Where case is ignored, both sides of an operation and the whole of a bracket
are closed under case, the latter before it is negated.

Beside every class stands how deep it nests: a bracket and an operation are a level each, and so is
the union of several items.
-/
namespace Signpost.Regex

inductive SetOperation
  | intersection
  | difference
  | exclusive
  deriving DecidableEq, Repr

def SetOperation.apply : SetOperation → CharClass → CharClass → CharClass
  | .intersection => .intersection
  | .difference => .difference
  | .exclusive => .exclusive

/-- An open bracket: the left side of a pending operation and the union of the items behind it, with
the depth of the former and those of the latter. -/
structure Bracket where
  negated : Bool := false
  pending : Option (SetOperation × CharClass × Nat) := none
  items : CharClass := .empty
  depths : List Nat := []
  deriving DecidableEq, Repr

namespace Bracket

def add (bracket : Bracket) (item : CharClass) (depth : Nat) : Bracket :=
  { bracket with items := .union bracket.items item, depths := depth :: bracket.depths }

/-- Everything read so far, the pending operation carried out. -/
def content (flags : Flags) (bracket : Bracket) : CharClass :=
  match bracket.pending with
  | none => bracket.items
  | some (operation, left, _) => operation.apply (flags.fold left) (flags.fold bracket.items)

def depth (bracket : Bracket) : Nat :=
  match bracket.pending with
  | none => level bracket.depths
  | some (_, _, left) => max left (level bracket.depths) + 1

def operate (flags : Flags) (bracket : Bracket) (operation : SetOperation) : Bracket :=
  { bracket with
    pending := some (operation, bracket.content flags, bracket.depth)
    items := .empty
    depths := [] }

def close (flags : Flags) (bracket : Bracket) : CharClass :=
  let set := flags.fold (bracket.content flags)
  if bracket.negated then .complement set else set

end Bracket

/-- Hyphens directly behind an opening bracket stand for themselves. -/
def leadingHyphens (flags : Flags) : Nat → Bracket → List Char → Bracket × List Char
  | fuel + 1, bracket, '-' :: rest =>
    leadingHyphens flags fuel (bracket.add (.single '-') 0) (flags.skip rest)
  | _, bracket, text => (bracket, text)

/-- Opens a bracket whose `[` has been read. A closing bracket in first place is a character. -/
def openBracket (flags : Flags) (text : List Char) : Bracket × List Char :=
  let (negated, inside) :=
    match flags.skip text with
    | '^' :: rest => (true, flags.skip rest)
    | rest => (false, rest)
  match leadingHyphens flags inside.length { negated } inside with
  | (bracket, ']' :: rest) =>
    if bracket.items = .empty then (bracket.add (.single ']') 0, flags.skip rest)
    else (bracket, ']' :: rest)
  | opened => opened

/-- A named class `:name:]` or `:^name:]` behind an opening bracket. -/
def readNamed (flags : Flags) : List Char → Option (CharClass × List Char)
  | ':' :: text => do
    let (negated, text) := match text with
      | '^' :: rest => (true, rest)
      | rest => (false, rest)
    let name := text.takeWhile (· != ':')
    match text.dropWhile (· != ':') with
    | ':' :: ']' :: rest =>
      let set := flags.fold (← CharClass.posix? (String.ofList name))
      return (if negated then .complement set else set, rest)
    | _ => none
  | _ => none

/-- A single character or an escape. -/
def readItem (flags : Flags) : List Char → Option (Escape × List Char)
  | [] => none
  | '\\' :: rest => readEscape flags rest
  | c :: rest => some (.char c, rest)

/-- An item or a range. The ends of a range are characters in ascending order; a hyphen before a
closing bracket or another hyphen makes no range. -/
def readRange (flags : Flags) (text : List Char) : Option (CharClass × List Char) := do
  let (first, rest) ← readItem flags text
  let rest := flags.skip rest
  let isRange := match rest with
    | '-' :: after => flags.peek after != some ']' && flags.peek after != some '-'
    | _ => false
  if rest.isEmpty then none
  else if isRange then
    match first, ← readItem flags (flags.skip rest.tail) with
    | .char low, (.char high, rest) =>
      if low ≤ high then return (.within [(low.toNat, high.toNat)], rest) else none
    | _, _ => none
  else
    match first with
    | .char c => return (.single c, rest)
    | .set set => return (set, rest)
    | .assertion _ => none

/-- Reads to the bracket that closes the outermost of the open ones. -/
def readBrackets (flags : Flags) :
    Nat → Bracket → List Bracket → List Char → Option ((CharClass × Nat) × List Char)
  | 0, _, _, _ => none
  | fuel + 1, here, outer, text =>
    match flags.skip text with
    | [] => none
    | '[' :: rest =>
      match readNamed flags rest with
      | some (set, rest) => readBrackets flags fuel (here.add set 0) outer rest
      | none =>
        let (inner, rest) := openBracket flags rest
        readBrackets flags fuel inner (here :: outer) rest
    | ']' :: rest =>
      match outer with
      | [] => some ((here.close flags, here.depth + 1), rest)
      | parent :: outer =>
        readBrackets flags fuel (parent.add (here.close flags) (here.depth + 1)) outer rest
    | '&' :: '&' :: rest =>
      readBrackets flags fuel (here.operate flags .intersection) outer rest
    | '-' :: '-' :: rest => readBrackets flags fuel (here.operate flags .difference) outer rest
    | '~' :: '~' :: rest => readBrackets flags fuel (here.operate flags .exclusive) outer rest
    | item => do
      let (set, rest) ← readRange flags item
      readBrackets flags fuel (here.add set 0) outer rest

/-- The class that starts behind an opening bracket, and how deep it nests. -/
def readClass (flags : Flags) (text : List Char) : Option ((CharClass × Nat) × List Char) := do
  let (bracket, rest) := openBracket flags text
  let ((set, depth), rest) ← readBrackets flags (text.length + 1) bracket [] rest
  return ((← flags.admit? set, depth), rest)

end Signpost.Regex

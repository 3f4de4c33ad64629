import Signpost.Regex.Brackets

/-!
# Reading regular expressions

The reader goes through the text once. It keeps the alternatives of the innermost open group, and
for every open group what stood before it and the flags that hold again behind it. A group of flags
alone changes the flags for the rest of the group that encloses it, later alternatives included; it
is kept as an item without an expression, because a repetition must not follow it.

Groups, repetitions, classes in brackets, and items or alternatives side by side are a level of nesting
each. How deep an item nests is kept beside it, since an expression may not nest deeper than a limit.

Every step takes at least one character, so the length of the text bounds the number of steps.
-/
namespace Signpost.Regex

open Signpost.Text

/-- The alternatives of a group, the latest first, and the items of the last one likewise, with their
depths. -/
structure Branches where
  finished : List Expr := []
  items : List (Option Expr) := []
  finishedDepths : List Nat := []
  depths : List Nat := []
  deriving DecidableEq, Repr

namespace Branches

def add (branches : Branches) (item : Expr) (depth : Nat) : Branches :=
  { branches with items := some item :: branches.items, depths := depth :: branches.depths }

def noteFlags (branches : Branches) : Branches :=
  { branches with items := none :: branches.items, depths := 0 :: branches.depths }

/-- The items of an alternative one after another, given with the last one first. -/
def sequence : List (Option Expr) → Expr
  | [] => .empty
  | none :: before => sequence before
  | some item :: before => .seq (sequence before) item

def current (branches : Branches) : Expr := sequence branches.items

def split (branches : Branches) : Branches where
  finished := branches.current :: branches.finished
  finishedDepths := level branches.depths :: branches.finishedDepths

/-- All alternatives, earlier ones preferred. -/
def whole (branches : Branches) : Expr :=
  branches.finished.foldl (fun later earlier => .either earlier later) branches.current

/-- How deep the alternatives nest. -/
def depth (branches : Branches) : Nat := level (level branches.depths :: branches.finishedDepths)

/-- Puts the last item under a repetition. -/
def repeatLast (branches : Branches) (low : Nat) (high : Option Nat) (greedy : Bool) :
    Option Branches :=
  match branches.items with
  | some item :: before =>
    some { branches with
      items := some (.repeated item low high greedy) :: before
      depths := branches.depths.modifyHead (· + 1) }
  | _ => none

end Branches

/-- How a group was opened. -/
inductive Opening
  | plain
  | capture (name : Option String)
  deriving DecidableEq, Repr

def Opening.wrap (opening : Opening) (body : Expr) : Expr :=
  match opening with
  | .plain => body
  | .capture name => .group name body

/-- An open group with what stood before it and the flags outside it. -/
structure OpenGroup where
  opening : Opening
  outside : Flags
  before : Branches
  deriving DecidableEq, Repr

structure Reading where
  flags : Flags := {}
  here : Branches := {}
  enclosing : List OpenGroup := []
  names : List String := []
  deriving DecidableEq, Repr

/-- Flags up to the parenthesis or the colon that ends them. No letter may come twice, and the
hyphen that turns the later ones off stands once, before one of them. -/
def readFlags (flags : Flags) (seen : List Char) :
    List Char → Option (Flags × List Char × Char × List Char)
  | [] => none
  | c :: rest =>
    if c = ':' ∨ c = ')' then
      -- a hyphen must be followed by a letter that it turns off
      if seen.head? = some '-' then none else some (flags, seen, c, rest)
    else if c ∈ seen then none
    else if c = '-' then readFlags flags (c :: seen) rest
    else do readFlags (← flags.set? (!seen.contains '-') c) (c :: seen) rest

/-- The name of a group, after its opening angle bracket. -/
def readGroupName (text : List Char) : Option (String × List Char) :=
  let name := text.takeWhile (· != '>')
  match name, text.dropWhile (· != '>') with
  | first :: others, '>' :: rest =>
    if (first = '_' || isAlphabetic first)
        && others.all fun c => c = '_' || c = '.' || c = '[' || c = ']' || isAlphanumeric c then
      some (String.ofList name, rest)
    else none
  | _, _ => none

namespace Reading

def add (reading : Reading) (item : Expr) (depth : Nat) : Reading :=
  { reading with here := reading.here.add item depth }

def enter (reading : Reading) (opening : Opening) (inside : Flags) : Reading :=
  { reading with
    flags := inside
    here := {}
    enclosing := ⟨opening, reading.flags, reading.here⟩ :: reading.enclosing }

def leave? (reading : Reading) : Option Reading :=
  match reading.enclosing with
  | [] => none
  | group :: enclosing =>
    some { reading with
      flags := group.outside
      here := group.before.add (group.opening.wrap reading.here.whole) (reading.here.depth + 1)
      enclosing }

def enterNamed (reading : Reading) (text : List Char) : Option (Reading × List Char) := do
  let (name, rest) ← readGroupName text
  if name ∈ reading.names then none
  else
    let entered := reading.enter (.capture (some name)) reading.flags
    return ({ entered with names := name :: entered.names }, rest)

/-- Reads what opens a group, after its parenthesis. There is no looking ahead or behind. -/
def readGroup (reading : Reading) (text : List Char) : Option (Reading × List Char) :=
  match reading.flags.skip text with
  | '?' :: '=' :: _ | '?' :: '!' :: _ | '?' :: '<' :: '=' :: _ | '?' :: '<' :: '!' :: _ => none
  | '?' :: 'P' :: '<' :: rest => reading.enterNamed rest
  | '?' :: '<' :: rest => reading.enterNamed rest
  | '?' :: rest => do
    let (flags, seen, mark, rest) ← readFlags reading.flags [] rest
    if mark = ':' then return (reading.enter .plain flags, rest)
    else if seen.isEmpty then none
    else return ({ reading with flags, here := reading.here.noteFlags }, rest)
  | rest => some (reading.enter (.capture none) reading.flags, rest)

/-- Puts the last item under a repetition, which a question mark makes lazy. -/
def readRepetition (reading : Reading) (low : Nat) (high : Option Nat) (text : List Char) :
    Option (Reading × List Char) := do
  let (lazy, rest) := match text with
    | '?' :: rest => (true, rest)
    | rest => (false, rest)
  -- under the flag that swaps preferences it is the question mark that makes a repetition greedy
  let here ← reading.here.repeatLast low high (lazy == reading.flags.swapGreed)
  return ({ reading with here }, rest)

/-- Reads a counted repetition, after its brace. -/
def readCounted (reading : Reading) (text : List Char) : Option (Reading × List Char) := do
  let flags := reading.flags
  let (low, rest) := readCount flags (flags.skip text)
  let low ← low
  let (high, rest) ← match rest with
    | ',' :: rest =>
      match flags.skip rest with
      -- nothing behind the comma: there is no upper bound
      | '\x7d' :: rest => some (none, '\x7d' :: rest)
      | rest =>
        let (high, rest) := readCount flags rest
        high.map fun high => (some high, rest)
    | rest => some (some low, rest)
  match rest with
  | '\x7d' :: rest =>
    if high.any (· < low) then none else reading.readRepetition low high (flags.skip rest)
  | _ => none

/-- Reads one item or mark that begins with the character given. -/
def step (reading : Reading) (c : Char) (rest : List Char) : Option (Reading × List Char) :=
  match c with
  | '(' => reading.readGroup rest
  | ')' => reading.leave?.map fun reading => (reading, rest)
  | '|' => some ({ reading with here := reading.here.split }, rest)
  | '[' =>
    (readClass reading.flags rest).map fun ((set, depth), rest) =>
      (reading.add (.chars set) depth, rest)
  | '?' => reading.readRepetition 0 (some 1) rest
  | '*' => reading.readRepetition 0 none rest
  | '+' => reading.readRepetition 1 none rest
  | '\x7b' => reading.readCounted rest
  | '\\' =>
    (readEscape reading.flags rest).map fun (escape, rest) =>
      match escape with
      | .char c => (reading.add (reading.flags.literal c) 0, rest)
      | .set set => (reading.add (.chars set) 0, rest)
      | .assertion condition => (reading.add (.assertion condition) 0, rest)
  | '.' => (reading.flags.admit? reading.flags.dot).map fun set => (reading.add (.chars set) 0, rest)
  | '^' => some (reading.add (.assertion reading.flags.start) 0, rest)
  | '$' => some (reading.add (.assertion reading.flags.stop) 0, rest)
  | c => some (reading.add (reading.flags.literal c) 0, rest)

/-- Reads to the end of the text. -/
def run (reading : Reading) : Nat → List Char → Option Reading
  | 0, _ => none
  | fuel + 1, text =>
    match reading.flags.skip text with
    | [] => some reading
    | c :: rest => do
      let (next, rest) ← reading.step c rest
      next.run fuel rest

/-- A text read to its end, unless a group is still open there. -/
def ofText? (text : List Char) : Option Reading :=
  (run {} (text.length + 1) text).filter (·.enclosing.isEmpty)

end Reading

namespace Expr

/-- How deep an expression may nest. -/
def nestLimit : Nat := 250

/-- How deep the expression of a text nests. -/
def nesting? (text : List Char) : Option Nat := (Reading.ofText? text).map (·.here.depth)

/-- The expression that a text denotes. -/
def read? (text : List Char) : Option Expr := do
  let reading ← Reading.ofText? text
  if reading.here.depth ≤ nestLimit then some reading.here.whole else none

end Expr

end Signpost.Regex

import Signpost.Regex.Loop

/-!
# Matching

For every position of the text an expression has a list of runs, in order of preference. The lists
of all positions form a table whose entries are computed when they are asked for, each from entries
of the tables of the parts and each at most once, so the work is bounded by a power of the length
of the text.

The body of a loop that always takes something moves on with every iteration. The table of such a
loop is laid out from the last position backwards, since an iteration needs only later entries. A
loop whose body may take nothing is searched as a whole instead.
-/
namespace Signpost.Regex

/-- The runs from every position, in order of preference. -/
abbrev Table := Array (Thunk (List MatchRun))

namespace Table

def runs (table : Table) (start : Nat) : List MatchRun :=
  match table[start]? with
  | some entry => entry.get
  | none => []

/-- The table of a text of length `size`. -/
def build (size : Nat) (entry : Nat → List MatchRun) : Table :=
  Array.ofFn fun start : Fin (size + 1) => Thunk.mk fun _ => entry start

def nothing (size : Nat) : Table := build size fun start => [(start, [])]

def andThen (size : Nat) (first second : Table) : Table :=
  build size fun start => extend (first.runs start) second.runs

/-- A fixed number of repetitions. -/
def exactly (size : Nat) (body : Table) : Nat → Table
  | 0 => nothing size
  | 1 => body
  | count + 1 => andThen size body (exactly size body count)

/-- Up to a number of repetitions. -/
def atMost (size : Nat) (body : Table) (greedy : Bool) : Nat → Table
  | 0 => nothing size
  | count + 1 =>
    let fewer := atMost size body greedy count
    build size fun start =>
      prefer greedy (extend (body.runs start) fewer.runs) [(start, [])]

/-- The runs of a loop from a position, given its entries for the later positions. -/
def loopEntry (body : Table) (greedy : Bool) (start : Nat) (later : List (Thunk (List MatchRun))) :
    List MatchRun :=
  keepFirst 0 <| (body.runs start).flatMap fun (stop, marks) =>
    let again :=
      if start < stop then
        match later[stop - start - 1]? with
        | some entry => entry.get.map fun (last, more) => (last, more ++ marks)
        | none => []
      else []
    if greedy then again ++ [(stop, marks)] else (stop, marks) :: again

/-- The entries of a loop for the last positions of the text, at least one repetition each. -/
def loopTail (size : Nat) (body : Table) (greedy : Bool) : Nat → List (Thunk (List MatchRun))
  | 0 => []
  | count + 1 =>
    let later := loopTail size body greedy count
    Thunk.mk (fun _ => loopEntry body greedy (size - count) later) :: later

/-- One repetition or more. -/
def loop (size : Nat) (body : Table) (greedy : Bool) : Table :=
  (loopTail size body greedy (size + 1)).toArray

def maybe (size : Nat) (body : Table) (greedy : Bool) : Table :=
  build size fun start => prefer greedy (body.runs start) [(start, [])]

/-- A repetition, given the table of its body and the table of one repetition or more. -/
def repeated (size : Nat) (body more : Table) (low : Nat) (high : Option Nat) (greedy : Bool) :
    Table :=
  match low, high with
  | 0, none => maybe size more greedy
  | 1, none => more
  | low + 1, none => andThen size (exactly size body low) more
  | low, some high =>
    andThen size (exactly size body low) (atMost size body greedy (high - low))

end Table

namespace Expr

/-- The table of an expression whose first group has the number `next`. A body that takes nothing is
tried at most once. -/
def table (text : Array Char) : Expr → Nat → Table
  | .empty, _ => Table.nothing text.size
  | .chars set, _ =>
    Table.build text.size fun start =>
      if Assertion.present set text start then [(start + 1, [])] else []
  | .assertion condition, _ =>
    Table.build text.size fun start => if condition.holds text start then [(start, [])] else []
  | .group _ body, next =>
    let inner := body.table text (next + 1)
    Table.build text.size fun start =>
      (inner.runs start).map fun (stop, marks) => (stop, (next, start, stop) :: marks)
  | .seq first second, next =>
    Table.andThen text.size (first.table text next) (second.table text (next + first.groups))
  | .either first second, next =>
    let left := first.table text next
    let right := second.table text (next + first.groups)
    Table.build text.size fun start => keepFirst 0 (left.runs start ++ right.runs start)
  | .repeated body low high greedy, next =>
    if high = some 0 then Table.nothing text.size
    else
      let inner := body.table text next
      if body.takesNothing then
        if low = 0 then Table.maybe text.size inner greedy else inner
      else
        let more :=
          if body.nullable then
            Table.build text.size fun start =>
              (loopRuns text body greedy start).map (renumber next)
          else Table.loop text.size inner greedy
        Table.repeated text.size inner more low high greedy

end Expr

/-- The preferred match of the leftmost position that has one: its start, its end and its groups. -/
def search (text : Array Char) (expr : Expr) : Option (Nat × MatchRun) :=
  let table := expr.table text 1
  (List.range (text.size + 1)).findSome? fun start =>
    (table.runs start).head?.map fun run => (start, run)

end Signpost.Regex

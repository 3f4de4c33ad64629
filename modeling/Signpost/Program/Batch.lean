import Signpost.Pattern.Basic
import Signpost.Program.Basic

/-!
# Merging patterns

The patterns of one level are merged into alternations, in order, and a new alternation is begun
when the next alternative would make the expression longer than allowed. A pattern that is longer
by itself gets an expression of its own. Every alternative is one capture group, the mark of its
branch; the groups of its parameters follow behind it.
-/
namespace Signpost

namespace Batch

def opening : String := "^(?:"

def closing : String := ")$"

/-- An alternation under construction. -/
structure Pending where
  alternatives : List String := []
  size : Nat := opening.utf8ByteSize + closing.utf8ByteSize
  nextGroup : Nat := 1
  branches : List BranchSlot := []
  deriving DecidableEq, Repr

def alternative (pattern : Pattern) : String := "(" ++ pattern.alternationBody ++ ")"

namespace Pending

def isEmpty (pending : Pending) : Bool := pending.alternatives.isEmpty

def push (pending : Pending) (pattern : Pattern) (arm mark : Nat) : Pending :=
  let separator := if pending.isEmpty then 0 else 1
  let captures := pattern.groupOffsets.map fun (name, offset) => (name, pending.nextGroup + offset)
  { alternatives := pending.alternatives ++ [alternative pattern]
    size := pending.size + separator + (alternative pattern).utf8ByteSize
    nextGroup := pending.nextGroup + 1 + pattern.groupCount
    branches := pending.branches ++ [⟨mark, arm, pending.nextGroup, captures⟩] }

/-- The length with one more alternative would exceed the limit. -/
def overflows (pending : Pending) (limit : Nat) (pattern : Pattern) : Bool :=
  !pending.isEmpty && limit < pending.size + 1 + (alternative pattern).utf8ByteSize

def source (pending : Pending) : String :=
  opening ++ String.intercalate "|" pending.alternatives ++ closing

def finish (pending : Pending) : Except ProgramError BatchGroup :=
  match Regex.compile? pending.source with
  | some regex => .ok ⟨regex, pending.branches⟩
  | none => .error (.invalidRegex pending.source)

end Pending

/-- Adds patterns to what is pending, the first of them with the given arm and mark. -/
def mergeFrom (limit : Nat) (pending : Pending) (arm mark : Nat) :
    List Pattern → Except ProgramError (List BatchGroup)
  | [] => if pending.isEmpty then .ok [] else do return [← pending.finish]
  | pattern :: rest =>
    if pending.overflows limit pattern then do
      let group ← pending.finish
      let later ← mergeFrom limit (({} : Pending).push pattern arm mark) (arm + 1) (mark + 1) rest
      return group :: later
    else mergeFrom limit (pending.push pattern arm mark) (arm + 1) (mark + 1) rest

/-- Merges the patterns of a level when `issued` marks have been given out before. Every pattern
gets one mark, so a counter of 32 bits does not wrap as long as `issued + patterns.length < 2 ^ 32`. -/
def merge (limit issued : Nat) (patterns : List Pattern) :
    Except ProgramError (List BatchGroup) :=
  mergeFrom limit {} 0 (issued + 1) patterns

end Batch

end Signpost

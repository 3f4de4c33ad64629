/-!
# Scopes

Names are bound by frames, which come and go with the bodies that they belong to, and by global
variables, which stay. An empty text does not hide the binding of an outer frame.
-/
namespace Signpost

abbrev Frame := List (String × String)

/-- Frames, the innermost first, and global variables, the latest first. -/
structure Scope where
  frames : List Frame := []
  globals : List (String × String) := []
  deriving DecidableEq, Repr

namespace Scope

def push (scope : Scope) (frame : Frame) : Scope := { scope with frames := frame :: scope.frames }

def pop (scope : Scope) : Scope := { scope with frames := scope.frames.tail }

def depth (scope : Scope) : Nat := scope.frames.length

def inFrame? (name : String) (frame : Frame) : Option String :=
  (frame.find? fun entry => entry.1 == name && !entry.2.isEmpty).map (·.2)

/-- The innermost binding of a name that is not empty. -/
def lookup? (scope : Scope) (name : String) : Option String :=
  scope.frames.findSome? (inFrame? name)

def set (scope : Scope) (name value : String) : Scope :=
  { scope with globals := (name, value) :: scope.globals }

def global? (scope : Scope) (name : String) : Option String := scope.globals.lookup name

end Scope

end Signpost

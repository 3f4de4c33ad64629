import Signpost.Json.Basic

/-!
# Records in JSON

A record with named fields is written as an object, or as an array that gives the fields by
position. In an object a field may stand once; members with other names are skipped, and whatever
their value holds does not matter. In an array trailing fields may be missing, but there may be no
further items.

Arrays and objects may nest to a bounded depth. The bound counts only those that are read, so a
reader is given the depth that is left and passes on one less.
-/
namespace Signpost.Json

/-- How deep the arrays and objects of a record may nest. -/
def depthLimit : Nat := 127

/-- The values of named fields, `none` for a field that is missing. -/
def fields? (names : List String) : Json → Option (List (Option Json))
  | .array items =>
    if items.length ≤ names.length then
      some (items.map some ++ List.replicate (names.length - items.length) none)
    else none
  | .object members =>
    if members.any fun member => member.1.isNone then none
    else
      names.mapM fun name =>
        match members.filter fun member => member.1 = some name with
        | [] => some none
        | [member] => some (some member.2)
        | _ => none
  | _ => none

/-- The text in every member of an object, in order. -/
def texts? : Json → Option (List (String × String))
  | .object members =>
    members.mapM fun (name, value) => do return (← name, ← value.text?)
  | _ => none

end Signpost.Json

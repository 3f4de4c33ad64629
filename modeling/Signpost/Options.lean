import Signpost.Json.Reader
import Signpost.Json.Record
import Signpost.Text.Blank

/-!
# Router options

Which attributes of a request hold its path and its query, and how long a merged regular expression
may become. Options are checked when a router is compiled, not when they are put together.
-/
namespace Signpost

structure Options where
  regexGroupLimit : Nat := 16384
  pathAttributes : List String := ["PATH_INFO", "REQUEST_URI"]
  queryAttribute : String := "QUERY_STRING"
  debug : Bool := false
  deriving DecidableEq, Repr

inductive OptionsError
  | regexGroupLimitTooSmall (provided : Nat)
  | emptyPathAttributes
  | emptyQueryAttribute
  deriving DecidableEq, Repr

namespace Options

/-- The least length that a merged regular expression must be allowed to have. -/
def minimumGroupLimit : Nat := 64

def validate (options : Options) : Except OptionsError Unit :=
  if options.regexGroupLimit < minimumGroupLimit then
    .error (.regexGroupLimitTooSmall options.regexGroupLimit)
  else if options.pathAttributes.all Text.blankText then .error .emptyPathAttributes
  else if Text.blankText options.queryAttribute then .error .emptyQueryAttribute
  else .ok ()

end Options

def OptionsError.message : OptionsError → String
  | .regexGroupLimitTooSmall provided =>
    s!"regex_group_limit must be at least {Options.minimumGroupLimit} (got {provided})"
  | .emptyPathAttributes => "path_attributes must name at least one attribute"
  | .emptyQueryAttribute => "query_attribute must not be empty"

namespace Options

def fieldNames : List String :=
  ["regex_group_limit", "path_attributes", "query_attribute", "debug"]

/-- A field that has been given, or its default. -/
def field? {α : Type} (json : Option Json) (read : Json → Option α) (default : α) : Option α :=
  match json with
  | none => some default
  | some json => read json

/-- Reads options from a record all of whose fields have defaults. -/
def ofJson? (json : Json) : Option Options := do
  let defaults : Options := {}
  match ← json.fields? fieldNames with
  | [limit, paths, query, debug] =>
    let regexGroupLimit ← field? limit Json.word? defaults.regexGroupLimit
    let pathAttributes ←
      field? paths (fun json => json.items?.bind fun items => items.mapM Json.text?)
        defaults.pathAttributes
    let queryAttribute ← field? query Json.text? defaults.queryAttribute
    let debug ← field? debug Json.bool? defaults.debug
    return { regexGroupLimit, pathAttributes, queryAttribute, debug }
  | _ => none

/-- Reads options from their text. -/
def read? (source : String) : Option Options := do ofJson? (← Json.read? source)

end Options

end Signpost

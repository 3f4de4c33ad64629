/-!
# Pattern errors

An error names the pattern without its surrounding slashes and says what is wrong with it. Positions
count the bytes of the UTF-8 form.
-/
namespace Signpost

/-- Why a token behind a parameter's name has no meaning. -/
inductive TokenFault
  | empty
  | notFunctionName
  | namedGroup
  | invalidRegex
  deriving DecidableEq, Repr

def TokenFault.reason : TokenFault → String
  | .empty => "empty token"
  | .notFunctionName => "expected a function name"
  | .namedGroup => "named capture groups are not allowed in parameter regexes"
  | .invalidRegex => "<regex error>"

inductive PatternFault
  | missingName
  | invalidStart (name : String) (found : Char)
  | invalidCharacter (name : String) (invalid : Char)
  | duplicateParameter (name : String)
  | unterminatedPlaceholder (start : Nat)
  | unexpectedCloser (index : Nat) (found : Char)
  | loneEscape (index : Nat)
  | segmentSeparator (index : Nat)
  | unresolvableToken (token : String) (fault : TokenFault)
  deriving DecidableEq, Repr

structure PatternError where
  pattern : String
  fault : PatternFault
  deriving DecidableEq, Repr

def PatternError.message (error : PatternError) : String :=
  let pattern := error.pattern
  match error.fault with
  | .missingName => s!"placeholder in pattern '{pattern}' is missing a parameter name"
  | .invalidStart name found =>
    s!"parameter name '{name}' in pattern '{pattern}' must start with an alphabetic character"
      ++ s!" or underscore (found '{found}')"
  | .invalidCharacter name invalid =>
    s!"parameter name '{name}' in pattern '{pattern}' contains invalid character '{invalid}'"
  | .duplicateParameter name =>
    s!"parameter '{name}' appears more than once in pattern '{pattern}'"
  | .unterminatedPlaceholder start =>
    s!"placeholder opened at byte {start} in pattern '{pattern}' is never closed"
  | .unexpectedCloser index found =>
    s!"unexpected '{found}' at byte {index} in pattern '{pattern}'"
  | .loneEscape index => s!"lone escape character at byte {index} in pattern '{pattern}'"
  | .segmentSeparator index =>
    s!"pattern '{pattern}' spans more than one segment ('/' at byte {index})"
  | .unresolvableToken token fault =>
    s!"unresolvable parameter token `{token}` in pattern '{pattern}': {fault.reason}"

end Signpost

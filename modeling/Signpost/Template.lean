import Signpost.Text.Split

/-!
# Templates

A template is text with references: a name and the filters it goes through, in braces and separated
by colons, each a word of ASCII letters, digits and underscores. The names `true`, `false` and
`null` alone are text. Braces that hold no reference are text, and since no reference holds a
brace, an opening brace always starts the search afresh.
-/
namespace Signpost

inductive TemplateToken
  | text (text : String)
  | variable (name : String) (filters : List String)
  deriving DecidableEq, Repr

namespace Template

open Text

def isWord (token : List Char) : Bool :=
  !token.isEmpty && token.all fun c => c.isAlphanum || c = '_'

/-- What stands in braces. -/
inductive Reference
  | reserved (text : List Char)
  | variable (name : String) (filters : List String)
  deriving DecidableEq, Repr

def reservedText? (inner : List Char) : Option (List Char) :=
  match String.ofList inner with
  | "true" => some inner
  | "false" => some inner
  | "null" => some []
  | _ => none

def reference? (inner : List Char) : Option Reference :=
  match reservedText? inner with
  | some text => some (.reserved text)
  | none =>
    let words := pieces (· == ':') inner
    if words.all isWord then
      match words.map String.ofList with
      | name :: filters => some (.variable name filters)
      | [] => none
    else none

/-- Puts the text read so far, in reverse, in front of later tokens, unless it is empty. -/
def withText (read : List Char) (tokens : List TemplateToken) : List TemplateToken :=
  if read.isEmpty then tokens else .text (String.ofList read.reverse) :: tokens

/-- Reads on behind the text and, if a brace is open, the characters since it, both in reverse. -/
def tokensFrom (text : List Char) (inside : Option (List Char)) :
    List Char → List TemplateToken
  | [] =>
    match inside with
    | none => withText text []
    | some read => withText (read ++ '\x7b' :: text) []
  | c :: rest =>
    match inside with
    | none =>
      if c = '\x7b' then tokensFrom text (some []) rest else tokensFrom (c :: text) none rest
    | some read =>
      if c = '\x7b' then tokensFrom (read ++ '\x7b' :: text) (some []) rest
      else if c = '\x7d' then
        match reference? read.reverse with
        | none => tokensFrom ('\x7d' :: read ++ '\x7b' :: text) none rest
        | some (.reserved value) => tokensFrom (value.reverse ++ text) none rest
        | some (.variable name filters) =>
          withText text (.variable name filters :: tokensFrom [] none rest)
      else tokensFrom text (some (c :: read)) rest

/-- The tokens of a template. -/
def tokens (source : String) : List TemplateToken := tokensFrom [] none source.toList

end Template

end Signpost

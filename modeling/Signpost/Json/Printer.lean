import Signpost.Json.Basic
import Signpost.Text.Hex

/-!
# Printing JSON

Values are printed without blanks. Quotes, backslashes and control characters are escaped,
everything else stands for itself. A text without content is printed as half of a surrogate pair.
-/
namespace Signpost.Json

def escapeChar (c : Char) : List Char :=
  if c = '"' then ['\\', '"']
  else if c = '\\' then ['\\', '\\']
  else if c = '\n' then ['\\', 'n']
  else if c = '\r' then ['\\', 'r']
  else if c = '\t' then ['\\', 't']
  else if c.toNat = 0x08 then ['\\', 'b']
  else if c.toNat = 0x0C then ['\\', 'f']
  else if c.toNat < 0x20 then
    ['\\', 'u', '0', '0', Text.Hex.lower (c.toNat / 16), Text.Hex.lower (c.toNat % 16)]
  else [c]

def printText : Option String → List Char
  | some content => '"' :: content.toList.flatMap escapeChar ++ ['"']
  | none => ['"', '\\', 'u', 'd', '8', '0', '0', '"']

mutual

def print : Json → List Char
  | .null => ['n', 'u', 'l', 'l']
  | .bool true => ['t', 'r', 'u', 'e']
  | .bool false => ['f', 'a', 'l', 's', 'e']
  | .number lexeme => lexeme.toList
  | .string content => printText content
  | .array items => '[' :: printItems items ++ [']']
  | .object members => '\x7b' :: printMembers members ++ ['\x7d']

def printItems : List Json → List Char
  | [] => []
  | [item] => item.print
  | item :: rest => item.print ++ ',' :: printItems rest

def printMembers : List (Option String × Json) → List Char
  | [] => []
  | [(name, value)] => printText name ++ ':' :: value.print
  | (name, value) :: rest => printText name ++ ':' :: value.print ++ ',' :: printMembers rest

end

def render (value : Json) : String := String.ofList value.print

end Signpost.Json

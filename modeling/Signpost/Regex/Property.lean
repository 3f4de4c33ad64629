import Signpost.Regex.CharClass
import Signpost.Text.Ages
import Signpost.Text.Categories
import Signpost.Text.LetterCase
import Signpost.Text.Printable
import Signpost.Text.Properties
import Signpost.Text.Scripts

/-!
# Classes by property

A property is called by its name alone, if characters have it or lack it, or by its name and a value;
a category or a script may also be called by its value alone. Names are compared without case, blanks,
hyphens and underscores, and without the `is` in front of them.

Many sets are put together from others, as the Unicode Standard defines them; what is added or left
out by code point is written in the form of the tables.
-/
namespace Signpost.Regex.CharClass

open Signpost.Text

def ofText (ranges : String) : CharClass := .within (rangesOf ranges)

/-- The class with a name in a table, no character if there is none. -/
def listed (table : List (String × String)) (name : String) : CharClass :=
  .within ((named? table name.toList).getD [])

def unions (sets : List CharClass) : CharClass := sets.foldl .union .empty

/-- The characters of some of the categories in the table. -/
def categories (names : List String) : CharClass := unions (names.map (listed categoryTable))

def property (name : String) : CharClass := listed propertyTable name

/-! ### General categories -/

def graphemeExtend : CharClass := .within extenderRanges

def nonspacingMark : CharClass :=
  .difference graphemeExtend (.union (property "othergraphemeextend") (categories ["me"]))

def otherLetter : CharClass :=
  .difference (.within alphabeticRanges)
    (.union (categories ["lu", "ll", "lt", "lm", "nl"]) (property "otheralphabetic"))

def unassigned : CharClass :=
  .difference (.within unprintableRanges) (categories ["cc", "cf", "co", "zs", "zl", "zp"])

def letter : CharClass := .union (categories ["lu", "ll", "lt", "lm"]) otherLetter

/-- A general category or a group of categories. -/
def category? (name : List Char) : Option CharClass :=
  match String.ofList name with
  | "any" => some (.complement .empty)
  | "ascii" => some (ofText "0-7F")
  | "assigned" => some (.complement unassigned)
  | "mn" | "nonspacingmark" => some nonspacingMark
  | "lo" | "otherletter" => some otherLetter
  | "nd" | "decimalnumber" | "digit" => some .decimal
  | "cn" | "unassigned" => some unassigned
  | "lc" | "casedletter" => some (categories ["lu", "ll", "lt"])
  | "l" | "letter" => some letter
  | "m" | "mark" | "combiningmark" => some (.union (categories ["mc", "me"]) nonspacingMark)
  | "n" | "number" => some (.union (categories ["nl", "no"]) .decimal)
  | "p" | "punctuation" | "punct" => some (categories ["pc", "pd", "pe", "pf", "pi", "po", "ps"])
  | "s" | "symbol" => some (categories ["sc", "sk", "sm", "so"])
  | "z" | "separator" => some (categories ["zl", "zp", "zs"])
  | "c" | "other" => some (.union (categories ["cc", "cf", "co"]) unassigned)
  | _ => (named? categoryTable name).map .within

/-! ### Scripts -/

def script? (name : List Char) : Option CharClass := (named? scriptTable name).map .within

/-- What further scripts use belongs neither to what is common to all scripts nor to what takes the
script of the character before it. -/
def scriptExtensions? (name : List Char) : Option CharClass := do
  let own := CharClass.within (← named? scriptTable name)
  if String.ofList name ∈ ["zyyy", "common", "zinh", "inherited", "qaai"] then
    return .difference own (unions (scriptExtraTable.map fun (_, ranges) => ofText ranges))
  else return .union own (.within ((named? scriptExtraTable name).getD []))

/-! ### Versions -/

/-- The characters that a version has: those that came with it and with the versions before it. -/
def age? (name : List Char) : List (String × String) → Option CharClass
  | [] => none
  | (names, ranges) :: later =>
    if (words names).contains name then some (ofText ranges)
    else (age? name later).map (.union (ofText ranges))

/-! ### Properties that characters have or lack -/

def lowercase : CharClass := .union (categories ["ll"]) (property "otherlowercase")

def uppercase : CharClass := .union (categories ["lu"]) (property "otheruppercase")

def changesWhenLowercased : CharClass :=
  .union (ofText "130") (.within (lowerRuns.flatMap fun run => steps run.first run.last run.step))

def changesWhenUppercased : CharClass :=
  .union (.within (upperSequences.map fun (code, _) => (code, code)))
    (.within (upperRuns.flatMap fun run => steps run.first run.last run.step))

def changesWhenTitlecased : CharClass :=
  .union (ofText "1C4 1C7 1CA 1F1")
    (.difference changesWhenUppercased (ofText "1C5 1C8 1CB 1F2 10D0-10FA 10FD-10FF 1F88-1F8F
      1F98-1F9F 1FA8-1FAF 1FBC 1FCC 1FFC"))

def changesWhenCasefolded : CharClass :=
  .union
    (ofText "B5 DF 149 17F 345 3C2 3D0-3D1 3D5-3D6 3F0-3F1 3F5 587 13F8-13FD 1C80-1C88 1E9A-1E9B
      1F80-1F87 1F90-1F97 1FA0-1FA7 1FB2-1FB4 1FB7 1FC2-1FC4 1FC7 1FF2-1FF4 1FF7 AB70-ABBF
      FB00-FB06 FB13-FB17")
    (.difference changesWhenLowercased (ofText "13A0-13F5"))

def defaultIgnorable : CharClass :=
  .difference
    (unions [property "otherdefaultignorablecodepoint", categories ["cf"],
      property "variationselector"])
    (unions [.space, property "prependedconcatenationmark", ofText "FFF9-FFFB 13430-13440"])

def graphemeBase : CharClass :=
  .complement (unions
    [categories ["cc", "cf", "co", "zl", "zp"], ofText "D800-DFFF", unassigned, graphemeExtend])

def patternChars : CharClass := .union (property "patternsyntax") (property "patternwhitespace")

def idStart : CharClass :=
  .difference (unions [letter, categories ["nl"], property "otheridstart"]) patternChars

def idContinue : CharClass :=
  .difference
    (unions [idStart, nonspacingMark, categories ["mc", "pc"], .decimal, property "otheridcontinue"])
    patternChars

def binary? (name : List Char) : Option CharClass :=
  match String.ofList name with
  | "alpha" | "alphabetic" => some (.within alphabeticRanges)
  | "wspace" | "whitespace" | "space" => some .space
  | "cased" => some (.within casedRanges)
  | "ci" | "caseignorable" => some (.within caseIgnorableRanges)
  | "lower" | "lowercase" => some lowercase
  | "upper" | "uppercase" => some uppercase
  | "math" => some (.union (categories ["sm"]) (property "othermath"))
  | "cwl" | "changeswhenlowercased" => some changesWhenLowercased
  | "cwu" | "changeswhenuppercased" => some changesWhenUppercased
  | "cwt" | "changeswhentitlecased" => some changesWhenTitlecased
  | "cwcf" | "changeswhencasefolded" => some changesWhenCasefolded
  | "cwcm" | "changeswhencasemapped" =>
    some (unions [changesWhenLowercased, changesWhenUppercased, changesWhenTitlecased])
  | "di" | "defaultignorablecodepoint" => some defaultIgnorable
  | "grbase" | "graphemebase" => some graphemeBase
  | "grext" | "graphemeextend" => some graphemeExtend
  | "ids" | "idstart" => some idStart
  | "idc" | "idcontinue" => some idContinue
  | "xids" | "xidstart" =>
    some (.difference idStart
      (ofText "37A E33 EB3 309B-309C FC5E-FC63 FDFA-FDFB FE70-FE7E/2 FF9E-FF9F"))
  | "xidc" | "xidcontinue" =>
    some (.difference idContinue (ofText "37A 309B-309C FC5E-FC63 FDFA-FDFB FE70-FE7E/2"))
  | _ => (named? propertyTable name).map .within

/-! ### Boundaries -/

/-- Syllables of a leading consonant and a vowel; the others end in a consonant as well. -/
def openSyllable : CharClass := .within (steps 0xAC00 0xD788 28)

def graphemeBreak? (name : List Char) : Option CharClass :=
  match String.ofList name with
  | "ex" | "extend" => some (.union graphemeExtend (property "emojimodifier"))
  | "sm" | "spacingmark" =>
    some (.union (ofText "E33 EB3") (.difference (categories ["mc"])
      (ofText "9BE 9D7 B3E B57 BBE BD7 CC2 CD5-CD6 D3E D57 DCF DDF 102B-102C 1038 1062-1064
        1067-106D 1083 1087-108C 108F 109A-109C 1A61 1A63-1A64 1B35 302E-302F AA7B AA7D 1133E 11357
        114B0 114BD 115AF 11720-11721 11930 1D165 1D16E-1D172")))
  | "lv" => some openSyllable
  | "lvt" => some (.difference (ofText "AC00-D7A3") openSyllable)
  | _ => (named? graphemeBreakTable name).map .within

def wordExtend : CharClass :=
  unions [graphemeExtend, categories ["mc"], property "emojimodifier"]

def wordBreak? (name : List Char) : Option CharClass :=
  match String.ofList name with
  | "extend" => some wordExtend
  | "nu" | "numeric" => some (.union .decimal (ofText "66B"))
  | "le" | "aletter" =>
    -- letters that are written without spaces are no letters of words
    let joined := ofText "E01-E30 E32-E33 E40-E46 E81-E82 E84 E86-E8A E8C-EA3 EA5 EA7-EB0 EB2-EB3
      EBD EC0-EC4 EC6 EDC-EDF 1000-102A 103F 1050-1055 105A-105D 1061 1065-1066 106E-1070 1075-1081
      108E 1780-17B3 17D7 17DC 1950-196D 1970-1974 1980-19AB 19B0-19C9 1A20-1A54 1AA7 A9E0-A9E4
      A9E6-A9EF A9FA-A9FE AA60-AA76 AA7A AA7E-AAAF AAB1 AAB5-AAB6 AAB9-AABD AAC0 AAC2 AADB-AADD
      11700-1171A 11740-11746"
    let others := unions [property "ideographic", listed scriptTable "hiragana",
      listed wordBreakTable "katakana", listed wordBreakTable "hebrewletter", wordExtend, joined]
    some (.union (.difference (.within alphabeticRanges) others)
      (ofText "2C2-2C5 2D2-2D7 2DE-2DF 2E5-2EB 2ED 2EF-2FF 55A-55C 55E 58A 5F3 A708-A716 A720-A721
        A789-A78A AB5B"))
  | _ => (named? wordBreakTable name).map .within

def sentenceLower : CharClass := .difference lowercase (ofText "345 10D0-10FA 10FD-10FF")

def sentenceUpper : CharClass :=
  .difference (.union uppercase (categories ["lt"])) (ofText "1C90-1CBA 1CBD-1CBF")

def sentenceExtend : CharClass := unions [graphemeExtend, categories ["mc"], ofText "200D"]

def sentenceBreak? (name : List Char) : Option CharClass :=
  match String.ofList name with
  | "lo" | "lower" => some sentenceLower
  | "up" | "upper" => some sentenceUpper
  | "ex" | "extend" => some sentenceExtend
  | "le" | "oletter" =>
    some (.union (ofText "5F3") (.difference (.within alphabeticRanges)
      (unions [sentenceLower, sentenceUpper, sentenceExtend])))
  | "nu" | "numeric" => some (.union .decimal (ofText "66B-66C"))
  | "cl" | "close" =>
    some (.union (ofText "275B-2760 2E00-2E01 2E06-2E08 2E0B 1F676-1F678") (.difference
      (.union (categories ["ps", "pe", "pi", "pf"]) (property "quotationmark")) (ofText "FF02 FF07")))
  | "st" | "sterm" => some (.difference (property "sentenceterminal") (ofText "2E FE52 FF0E"))
  | _ => (named? sentenceBreakTable name).map .within

/-! ### Names -/

/-- A name in the form in which names are compared. -/
def canonical (name : List Char) : List Char :=
  let plain (text : List Char) : List Char :=
    (text.filter fun c => c.toNat < 0x80 && c ∉ [' ', '_', '-']).map Char.toLower
  match name with
  | i :: s :: rest =>
    if i.toLower = 'i' ∧ s.toLower = 's' then
      -- the name of the comment field of the standard is no prefix of another name
      if plain rest = ['c'] then ['i', 's', 'c'] else plain rest
    else plain name
  | _ => plain name

/-- A class that is called by one name. -/
def byName? (name : List Char) : Option CharClass :=
  let name := canonical name
  binary? name <|> category? name <|> script? name

/-- A class that is called by the name of a property and a value of it. -/
def byValue? (property value : List Char) : Option CharClass :=
  let value := canonical value
  match String.ofList (canonical property) with
  | "gc" | "generalcategory" => category? value
  | "sc" | "script" => script? value
  | "scx" | "scriptextensions" => scriptExtensions? value
  | "age" => age? value ageTable
  | "gcb" | "graphemeclusterbreak" => graphemeBreak? value
  | "wb" | "wordbreak" => wordBreak? value
  | "sb" | "sentencebreak" => sentenceBreak? value
  | _ => none

/-- What stands before the first `!=` in a text and what stands after it. -/
def splitUnequal : List Char → Option (List Char × List Char)
  | [] => none
  | '!' :: '=' :: rest => some ([], rest)
  | c :: rest => (splitUnequal rest).map fun (before, after) => (c :: before, after)

/-- The class that a text in braces calls. The sign between a property and its value makes no
difference. -/
def called? (text : List Char) : Option CharClass :=
  match splitUnequal text, splitFirst ':' text, splitFirst '=' text with
  | some (property, value), _, _ => byValue? property value
  | none, (property, some value), _ => byValue? property value
  | none, _, (property, some value) => byValue? property value
  | none, _, _ => byName? text

example : (called? "Is_GC = digit".toList).map (·.contains 0x661) = some true := by decide +kernel

end Signpost.Regex.CharClass

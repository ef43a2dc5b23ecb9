import SparqlExpr.Unicode.Age
import SparqlExpr.Unicode.Break
import SparqlExpr.Unicode.Listed
import SparqlExpr.Unicode.Script

/-! Sets of characters by the names that patterns use, as of version 16 of the standard. -/
namespace SparqlExpr.Unicode

/-- Looks a name up in a list of names with meanings. -/
def named? (name : String) (entries : List (List String × α)) : Option α :=
  (entries.find? fun entry => entry.1.contains name).map (·.2)

/-- A property that is kept as a list of spans. -/
def listed? (name : String) : Option CodeSet :=
  (named? name listedProperties).map .ofText

/-- A property that is kept as a list of spans and must be there. -/
def listed (name : String) : CodeSet :=
  (listed? name).getD .empty

/-- The one letter that is left out of identifiers. -/
def verticalTilde : CodeSet := code 0x2e2f

def idStart : CodeSet :=
  (CodeSet.unionAll [Settled.letters, Settled.letterNumbers, listed "otheridstart"]).diff
    verticalTilde

def idContinue : CodeSet :=
  (CodeSet.unionAll [idStart, nonspacingMarks.settled, Settled.spacingMarks,
    Settled.decimalNumbers, Settled.connectorPunctuation, listed "otheridcontinue"]).diff
    verticalTilde

/-- Characters that are shown and stand by themselves. -/
def graphemeBase : CodeSet :=
  (CodeSet.unionAll [letters, marks, numbers, punctuation, symbols, spaceSeparators]).settled.diff
    Settled.graphemeExtend

def whiteSpace : CodeSet := .ofText
    "9-d 20 85 a0 1680 2000-200a 2028-2029 202f 205f 3000"

/-- Properties with a derivation. -/
def derived? (name : String) : Option CodeSet :=
  match name with
  | "alphabetic" | "alpha" => some Settled.alphabetic
  | "caseignorable" | "ci" => some caseIgnorable.settled
  | "cased" => some Settled.cased
  | "defaultignorablecodepoint" | "di" => some defaultIgnorable
  | "graphemebase" | "grbase" => some graphemeBase
  | "graphemeextend" | "grext" => some Settled.graphemeExtend
  | "idcontinue" | "idc" => some idContinue
  | "idstart" | "ids" => some idStart
  | "joincontrol" | "joinc" => some Settled.joinControl
  | "lowercase" | "lower" => some Settled.lowercase
  | "math" => some (mathSymbols.settled.union (listed "othermath"))
  | "otheralphabetic" | "oalpha" => some otherAlphabetic.settled
  | "othergraphemeextend" | "ogrext" => some otherGraphemeExtend.settled
  | "otherlowercase" | "olower" => some otherLowercase.settled
  | "otheruppercase" | "oupper" => some otherUppercase.settled
  | "uppercase" | "upper" => some Settled.uppercase
  | "whitespace" | "wspace" | "space" => some whiteSpace
  | "xidcontinue" | "xidc" => some (idContinue.diff (.ofText unstableIdContinue))
  | "xidstart" | "xids" => some (idStart.diff (.ofText unstableIdStart))
  | _ => none

/-- A property that a character has or has not. -/
def property? (name : String) : Option CodeSet :=
  (derived? name).or (listed? name)

/-- A general category or a union of them. -/
def category? (name : String) : Option CodeSet :=
  match name with
  | "any" => some .everything
  | "assigned" => some Settled.unassigned.complement
  | "ascii" => some ⟨[⟨0, 0x7f⟩]⟩
  | "lu" | "uppercaseletter" => some uppercaseLetters.settled
  | "ll" | "lowercaseletter" => some Settled.lowercaseLetters
  | "lt" | "titlecaseletter" => some titlecaseLetters.settled
  | "lc" | "casedletter" =>
    some (.unionAll [uppercaseLetters.settled, Settled.lowercaseLetters, titlecaseLetters.settled])
  | "lm" | "modifierletter" => some modifierLetters.settled
  | "lo" | "otherletter" => some Settled.otherLetters
  | "l" | "letter" => some Settled.letters
  | "mn" | "nonspacingmark" => some nonspacingMarks.settled
  | "mc" | "spacingmark" => some Settled.spacingMarks
  | "me" | "enclosingmark" => some enclosingMarks.settled
  | "m" | "mark" | "combiningmark" => some Settled.marks
  | "nd" | "decimalnumber" | "digit" => some Settled.decimalNumbers
  | "nl" | "letternumber" => some Settled.letterNumbers
  | "no" | "othernumber" => some otherNumbers.settled
  | "n" | "number" => some numbers.settled
  | "pc" | "connectorpunctuation" => some Settled.connectorPunctuation
  | "pd" | "dashpunctuation" => some dashPunctuation.settled
  | "ps" | "openpunctuation" => some openPunctuation.settled
  | "pe" | "closepunctuation" => some closePunctuation.settled
  | "pi" | "initialpunctuation" => some initialPunctuation.settled
  | "pf" | "finalpunctuation" => some finalPunctuation.settled
  | "po" | "otherpunctuation" => some otherPunctuation.settled
  | "p" | "punctuation" | "punct" => some punctuation.settled
  | "sm" | "mathsymbol" => some mathSymbols.settled
  | "sc" | "currencysymbol" => some currencySymbols.settled
  | "sk" | "modifiersymbol" => some modifierSymbols.settled
  | "so" | "othersymbol" => some otherSymbols.settled
  | "s" | "symbol" => some symbols.settled
  | "zs" | "spaceseparator" => some spaceSeparators.settled
  | "zl" | "lineseparator" => some lineSeparators.settled
  | "zp" | "paragraphseparator" => some paragraphSeparators.settled
  | "z" | "separator" => some separators.settled
  | "cc" | "control" | "cntrl" => some controls.settled
  | "cf" | "format" => some formats.settled
  | "co" | "privateuse" => some privateUse.settled
  | "cn" | "unassigned" => some Settled.unassigned
  | "c" | "other" =>
    some (.unionAll [controls, formats, privateUse, Settled.unassigned, ⟨[⟨0xd800, 0xdfff⟩]⟩])
  | _ => none

/-- A property, a category or a script by its name alone. -/
def byName? (name : String) : Option CodeSet :=
  ((property? name).or (category? name)).or (script? name)

/-- The characters with a value of a property. -/
def byValue? (property value : String) : Option CodeSet :=
  match property with
  | "gc" | "generalcategory" => category? value
  | "sc" | "script" => script? value
  | "scx" | "scriptextensions" => scriptExtension? value
  | "age" => age? value
  | "gcb" | "graphemeclusterbreak" => named? value clusterBreaks
  | "wb" | "wordbreak" => named? value wordBreaks
  | "sb" | "sentencebreak" => named? value sentenceBreaks
  | _ => none

/-- Lower case letters and digits of a name, without separators and without a leading `is`. Of a
name that `is` leaves with a single `c` nothing is dropped. -/
def plainName (name : List Char) : String :=
  let plain (chars : List Char) : List Char :=
    (chars.filter fun c => c.toNat < 0x80 && c != ' ' && c != '_' && c != '-').map Char.toLower
  match name with
  | i :: s :: rest =>
    if i.toLower = 'i' ∧ s.toLower = 's' then
      if plain rest = ['c'] then "isc" else String.ofList (plain rest)
    else String.ofList (plain name)
  | _ => String.ofList (plain name)

end SparqlExpr.Unicode

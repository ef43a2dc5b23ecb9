import SparqlExpr.Unicode.Property

/-! Characters by the edition of the standard. Texts follow version 17; patterns know the characters
of version 16 only. -/
namespace SparqlExpr.Unicode

/-- Characters that version 17 adds. -/
def newcomers : CodeSet := .ofText
    "88f c5c cdc 1acf-1add 1ae0-1aeb 20c1 2b96 a7ce-a7cf a7d2 a7d4 a7f1 fbc3-fbd2 fd90-fd91
    fdc8-fdce 10940-10959 10ec5-10ec7 10ed0-10ed8 10efa-10efb 11b60-11b67 11db0-11ddb 11de0-11de9
    16ea0-16eb8 16ebb-16ed3 16ff2-16ff6 187f8-187ff 18d09-18d1e 18d80-18df2 1ccfa-1ccfc
    1ceba-1ced0 1cee0-1cef0 1e6c0-1e6de 1e6e0-1e6f5 1e6fe-1e6ff 1f6d8 1f777-1f77a 1f8d0-1f8d8
    1fa54-1fa57 1fa8a 1fa8e 1fac8 1facd 1faea 1faef 1fbfa 2b73a-2b73f 2cea2-2cead 323b0-33479"

namespace CodeSet

/-- The members that version 16 knows. -/
def settled (s : CodeSet) : CodeSet :=
  s.diff newcomers

end CodeSet

/-- The one letter that has lost its case in version 17. -/
def reversedGlottalStop : CodeSet := ⟨[⟨0x295, 0x295⟩]⟩

namespace Settled

def lowercaseLetters : CodeSet :=
  (Unicode.lowercaseLetters.union reversedGlottalStop).settled

def otherLetters : CodeSet :=
  (Unicode.otherLetters.diff reversedGlottalStop).settled

def lowercase : CodeSet :=
  (Unicode.lowercase.union reversedGlottalStop).settled

def cased : CodeSet :=
  (Unicode.cased.union reversedGlottalStop).settled

def unassigned : CodeSet :=
  Unicode.unassigned.union newcomers

def letters : CodeSet := Unicode.letters.settled
def letterNumbers : CodeSet := Unicode.letterNumbers.settled
def marks : CodeSet := Unicode.marks.settled
def decimalNumbers : CodeSet := Unicode.decimalNumbers.settled
def connectorPunctuation : CodeSet := Unicode.connectorPunctuation.settled
def alphabetic : CodeSet := Unicode.alphabetic.settled
def uppercase : CodeSet := Unicode.uppercase.settled
def graphemeExtend : CodeSet := Unicode.graphemeExtend.settled
def spacingMarks : CodeSet := Unicode.spacingMarks.settled

def joinControl : CodeSet := ⟨[⟨0x200c, 0x200d⟩]⟩

/-- Characters of words: letters, marks, digits, connectors and joiners. -/
def wordCharacters : CodeSet :=
  .unionAll [alphabetic, marks, decimalNumbers, connectorPunctuation, joinControl]

end Settled

end SparqlExpr.Unicode

import SparqlExpr.Unicode.Edition

/-! Properties that tell where texts break into characters, words and sentences. -/
namespace SparqlExpr.Unicode

def code (n : Nat) : CodeSet := ⟨[⟨n, n⟩]⟩

def regionalIndicators : CodeSet := ⟨[⟨0x1f1e6, 0x1f1ff⟩]⟩

def emojiModifiers : CodeSet := ⟨[⟨0x1f3fb, 0x1f3ff⟩]⟩

def clusterExtend : CodeSet :=
  Settled.graphemeExtend.union emojiModifiers

/-- Spacing marks that start a cluster of their own. -/
def detachedMarks : CodeSet := .ofText
    "102b-102c 1038 1062-1064 1067-106d 1083 1087-108c 108f 109a-109c 1a61 1a63-1a64 aa7b aa7d
    11720-11721"

def clusterSpacingMarks : CodeSet :=
  ((CodeSet.unionAll [Settled.spacingMarks, code 0xe33, code 0xeb3]).diff clusterExtend).diff
    detachedMarks

/-- Syllables without a final consonant. -/
def openSyllables : CodeSet := .ofText "ac00-d788/1c"

def closedSyllables : CodeSet :=
  CodeSet.diff ⟨[⟨0xac00, 0xd7a3⟩]⟩ openSyllables

/-- The break property of clusters, by its names. -/
def clusterBreaks : List (List String × CodeSet) :=
  [(["cr"], code 0xd),
    (["lf"], code 0xa),
    (["cn", "control"], .ofText
      "0-9 b-c e-1f 7f-9f ad 61c 180e 200b 200e-200f 2028-202e 2060-206f feff fff0-fffb 13430-1343f
      1bca0-1bca3 1d173-1d17a e0000-e001f e0080-e00ff e01f0-e0fff"),
    (["ex", "extend"], clusterExtend),
    (["zwj"], code 0x200d),
    (["ri", "regionalindicator"], regionalIndicators),
    (["pp", "prepend"], .ofText
      "600-605 6dd 70f 890-891 8e2 d4e 110bd 110cd 111c2-111c3 113d1 1193f 11941 11a3a 11a84-11a89
      11d46 11f02"),
    (["sm", "spacingmark"], clusterSpacingMarks),
    (["l"], .ofText
      "1100-115f a960-a97c"),
    (["v"], .ofText
      "1160-11a7 d7b0-d7c6 16d63 16d67-16d6a"),
    (["t"], .ofText
      "11a8-11ff d7cb-d7fb"),
    (["lv"], openSyllables),
    (["lvt"], closedSyllables)]

def wordExtend : CodeSet :=
  .unionAll [Settled.graphemeExtend, Settled.spacingMarks, emojiModifiers]

/-- Letters of words that are not alphabetic. -/
def letterlikeSigns : CodeSet := .ofText
    "b8 2c2-2c5 2d2-2d7 2de-2df 2e5-2eb 2ed 2ef-2ff 55a-55c 55e 58a 5f3 70f a708-a716 a720-a721
    a789-a78a ab5b"

/-- Alphabetic characters of scripts that write no blanks, or with a break property of their own. -/
def unspacedLetters : CodeSet := .ofText
    "5d0-5ea 5ef-5f2 e01-e30 e32-e33 e40-e46 e81-e82 e84 e86-e8a e8c-ea3 ea5 ea7-eb0 eb2-eb3 ebd
    ec0-ec4 ec6 edc-edf 1000-102a 103f 1050-1055 105a-105d 1061 1065-1066 106e-1070 1075-1081 108e
    1780-17b3 17d7 17dc 1950-196d 1970-1974 1980-19ab 19b0-19c9 1a20-1a54 1aa7 3006-3007 3021-3029
    3031-3035 3038-303a 3041-3096 309d-309f 30a1-30fa 30fc-30ff 31f0-31ff 3400-4dbf 4e00-9fff
    a9e0-a9e4 a9e6-a9ef a9fa-a9fe aa60-aa76 aa7a aa7e-aaaf aab1 aab5-aab6 aab9-aabd aac0 aac2
    aadb-aadd f900-fa6d fa70-fad9 fb1d fb1f-fb28 fb2a-fb36 fb38-fb3c fb3e fb40-fb41 fb43-fb44
    fb46-fb4f ff66-ff9d 11700-1171a 11740-11746 17000-187f7 18800-18cd5 18cff-18d08 1aff0-1aff3
    1aff5-1affb 1affd-1affe 1b000-1b122 1b132 1b150-1b152 1b155 1b164-1b167 1b170-1b2fb
    20000-2a6df 2a700-2b739 2b740-2b81d 2b820-2cea1 2ceb0-2ebe0 2ebf0-2ee5d 2f800-2fa1d
    30000-3134a 31350-323af"

def wordLetters : CodeSet :=
  ((Settled.alphabetic.union letterlikeSigns).diff wordExtend).diff unspacedLetters

def wordNumbers : CodeSet :=
  Settled.decimalNumbers.union (.ofText "600-605 66b 6dd 890-891 8e2 19da 110bd 110cd")

/-- The break property of words, by its names. -/
def wordBreaks : List (List String × CodeSet) :=
  [(["cr"], code 0xd),
    (["lf"], code 0xa),
    (["nl", "newline"], .ofText
      "b-c 85 2028-2029"),
    (["extend"], wordExtend),
    (["zwj"], code 0x200d),
    (["fo", "format"], .ofText
      "ad 61c 180e 200e-200f 202a-202e 2060-2064 2066-206f feff fff9-fffb 13430-1343f 1bca0-1bca3
      1d173-1d17a e0001"),
    (["ri", "regionalindicator"], regionalIndicators),
    (["ka", "katakana"], .ofText
      "3031-3035 309b-309c 30a0-30fa 30fc-30ff 31f0-31ff 32d0-32fe 3300-3357 ff66-ff9d 1aff0-1aff3
      1aff5-1affb 1affd-1affe 1b000 1b120-1b122 1b155 1b164-1b167"),
    (["hl", "hebrewletter"], .ofText
      "5d0-5ea 5ef-5f2 fb1d fb1f-fb28 fb2a-fb36 fb38-fb3c fb3e fb40-fb41 fb43-fb44 fb46-fb4f"),
    (["le", "aletter"], wordLetters),
    (["sq", "singlequote"], code 0x27),
    (["dq", "doublequote"], code 0x22),
    (["mb", "midnumlet"], .ofText
      "2e 2018-2019 2024 fe52 ff07 ff0e"),
    (["ml", "midletter"], .ofText
      "3a b7 387 55f 5f4 2027 fe13 fe55 ff1a"),
    (["mn", "midnum"], .ofText
      "2c 3b 37e 589 60c-60d 66c 7f8 2044 fe50 fe54 ff0c ff1b"),
    (["nu", "numeric"], wordNumbers),
    (["ex", "extendnumlet"], .ofText
      "5f 202f 203f-2040 2054 fe33-fe34 fe4d-fe4f ff3f"),
    (["wsegspace"], .ofText
      "20 1680 2000-2006 2008-200a 205f 3000")]

def sentenceExtend : CodeSet :=
  .unionAll [Settled.graphemeExtend, Settled.spacingMarks, code 0x200d]

def sentenceLower : CodeSet :=
  (Settled.lowercase.diff Settled.graphemeExtend).diff (.ofText "10d0-10fa 10fd-10ff")

def sentenceUpper : CodeSet :=
  (Settled.uppercase.union (titlecaseLetters.settled)).diff (.ofText "1c90-1cba 1cbd-1cbf")

def sentenceLetters : CodeSet :=
  (Settled.alphabetic.union (code 0x5f3)).diff
    (.unionAll [sentenceLower, sentenceUpper, sentenceExtend])

def sentenceNumbers : CodeSet :=
  Settled.decimalNumbers.union (.ofText "66b-66c")

/-- The break property of sentences, by its names. -/
def sentenceBreaks : List (List String × CodeSet) :=
  [(["cr"], code 0xd),
    (["lf"], code 0xa),
    (["ex", "extend"], sentenceExtend),
    (["se", "sep"], .ofText
      "85 2028-2029"),
    (["fo", "format"], .ofText
      "ad 600-605 61c 6dd 70f 890-891 8e2 180e 200b 200e-200f 202a-202e 2060-2064 2066-206f feff
      fff9-fffb 110bd 110cd 13430-1343f 1bca0-1bca3 1d173-1d17a e0001"),
    (["sp"], .ofText
      "9 b-c 20 a0 1680 2000-200a 202f 205f 3000"),
    (["lo", "lower"], sentenceLower),
    (["up", "upper"], sentenceUpper),
    (["le", "oletter"], sentenceLetters),
    (["nu", "numeric"], sentenceNumbers),
    (["at", "aterm"], .ofText
      "2e 2024 fe52 ff0e"),
    (["sc", "scontinue"], .ofText
      "2c-2d 3a-3b 37e 55d 60c-60d 7f8 1802 1808 2013-2014 3001 fe10-fe11 fe13-fe14 fe31-fe32
      fe50-fe51 fe54-fe55 fe58 fe63 ff0c-ff0d ff1a-ff1b ff64"),
    (["st", "sterm"], .ofText
      "21 3f 589 61d-61f 6d4 700-702 7f9 837 839 83d-83e 964-965 104a-104b 1362 1367-1368 166e
      1735-1736 17d4-17d5 1803 1809 1944-1945 1aa8-1aab 1b4e-1b4f 1b5a-1b5b 1b5e-1b5f 1b7d-1b7f
      1c3b-1c3c 1c7e-1c7f 203c-203d 2047-2049 2cf9-2cfb 2e2e 2e3c 2e53-2e54 3002 a4ff a60e-a60f
      a6f3 a6f7 a876-a877 a8ce-a8cf a92f a9c8-a9c9 aa5d-aa5f aaf0-aaf1 abeb fe12 fe15-fe16
      fe56-fe57 ff01 ff1f ff61 10a56-10a57 10f55-10f59 10f86-10f89 11047-11048 110be-110c1
      11141-11143 111c5-111c6 111cd 111de-111df 11238-11239 1123b-1123c 112a9 113d4-113d5
      1144b-1144c 115c2-115c3 115c9-115d7 11641-11642 1173c-1173e 11944 11946 11a42-11a43
      11a9b-11a9c 11c41-11c42 11ef7-11ef8 11f43-11f44 16a6e-16a6f 16af5 16b37-16b38 16b44
      16d6e-16d6f 16e98 1bc9f 1da88"),
    (["cl", "close"], .ofText
      "22 27-29 5b 5d 7b 7d ab bb f3a-f3d 169b-169c 2018-201f 2039-203a 2045-2046 207d-207e
      208d-208e 2308-230b 2329-232a 275b-2760 2768-2775 27c5-27c6 27e6-27ef 2983-2998 29d8-29db
      29fc-29fd 2e00-2e0d 2e1c-2e1d 2e20-2e29 2e42 2e55-2e5c 3008-3011 3014-301b 301d-301f
      fd3e-fd3f fe17-fe18 fe35-fe44 fe47-fe48 fe59-fe5e ff08-ff09 ff3b ff3d ff5b ff5d ff5f-ff60
      ff62-ff63 1f676-1f678")]

end SparqlExpr.Unicode

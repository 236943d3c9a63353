import Dataflow.Pattern.Property
import Dataflow.Pattern.ScriptTable
/-!
The parts that characters play where a text is divided into user characters, words and sentences.

The values are put together from other properties as the standard on text segmentation defines them. Names of
values are compared like those of properties.
-/

namespace Dataflow.Pattern

open Text (CharSet)

/-! ## Shared parts -/

def ofScript (name : String) : CharSet := (tableSet? scriptTable name).getD .empty

/-- The values that have one meaning for all three divisions. -/
def lineEndSet? (value : String) : Option CharSet :=
  match value with
  | "cr" => some ⟨[(0xD, 0xD)]⟩
  | "lf" => some ⟨[(0xA, 0xA)]⟩
  | _ => none

/-- Joins the characters on both sides of it. -/
def zeroWidthJoiner : CharSet := ⟨[(0x200D, 0x200D)]⟩

/-- The signs in front of numbers, which stretch over the digits. -/
def numberSigns : CharSet := (withProperty "pcm").diff ⟨[(0x70F, 0x70F)]⟩

/-! ## User characters -/

/-- Format characters that do not end a user character. -/
def formatInside : CharSet := CharSet.unions [withProperty "joinc", withProperty "pcm", graphemeExtend]

def clusterControl : CharSet :=
  (CharSet.unions [ofCategories ["zl", "zp", "cc", "cf"], unassigned.inter defaultIgnorable]).diff
    (CharSet.union (setOfTable ["A D"]) formatInside)

def clusterPrepend : CharSet :=
  CharSet.union (withProperty "pcm")
    (setOfTable ["D4E 111C2-111C3 113D1 1193F 11941 11A3A 11A84-11A89 11D46 11F02"])

/-- Spacing marks that stand for themselves. -/
def looseMarks : CharSet := setOfTable [
  "102B-102C 1038 1062-1064 1067-106D 1083 1087-108C 108F 109A-109C 1A61 1A63-1A64 AA7B AA7D 11720-11721"]

def clusterSpacing : CharSet :=
  (CharSet.unions [(ofCategories ["mc"]).diff graphemeExtend, setOfTable ["E33 EB3"]]).diff looseMarks

/-- The Hangul syllables, in the order of their parts. -/
def syllables : Nat × Nat := (0xAC00, 0xD7A3)

/-- The number of syllables that begin alike, one of them without a final consonant. -/
def finals : Nat := 28

def openSyllables : CharSet :=
  ⟨(List.range ((syllables.2 + 1 - syllables.1) / finals)).map fun i =>
    (syllables.1 + finals * i, syllables.1 + finals * i)⟩

/-- The set of a part in the division into user characters. -/
def clusterSet? (value : String) : Option CharSet :=
  match value with
  | "cn" | "control" => some clusterControl
  | "ex" | "extend" => some ((CharSet.union graphemeExtend (withProperty "emod")).diff zeroWidthJoiner)
  | "l" => some ⟨[(0x1100, 0x115F), (0xA960, 0xA97C)]⟩
  | "v" => some ⟨[(0x1160, 0x11A7), (0xD7B0, 0xD7C6), (0x16D63, 0x16D63), (0x16D67, 0x16D6A)]⟩
  | "t" => some ⟨[(0x11A8, 0x11FF), (0xD7CB, 0xD7FB)]⟩
  | "lv" => some openSyllables
  | "lvt" => some (CharSet.diff ⟨[syllables]⟩ openSyllables)
  | "pp" | "prepend" => some clusterPrepend
  | "ri" | "regionalindicator" => some (withProperty "ri")
  | "sm" | "spacingmark" => some clusterSpacing
  | "zwj" => some zeroWidthJoiner
  | _ => lineEndSet? value

/-! ## Words -/

def wordExtend : CharSet :=
  (CharSet.unions [graphemeExtend, ofCategories ["mc"], withProperty "emod"]).diff zeroWidthJoiner

def wordFormat : CharSet :=
  (ofCategories ["cf"]).diff (CharSet.unions [withProperty "pcm", setOfTable ["200B-200D"], wordExtend])

def hebrewLetters : CharSet := (ofScript "hebr").inter (ofCategories ["lo"])

def katakanaWord : CharSet := CharSet.union (ofScript "kana") (setOfTable ["3031-3035 309B-309C 30A0 30FC FF70"])

/-- Letters of scripts that are written without blanks between words. -/
def unspacedLetters : CharSet := setOfTable [
  "E01-E30 E32-E33 E40-E46 E81-E82 E84 E86-E8A E8C-EA3 EA5 EA7-EB0 EB2-EB3 EBD EC0-EC4 EC6 EDC-EDF",
  "1000-102A 103F 1050-1055 105A-105D 1061 1065-1066 106E-1070 1075-1081 108E 1780-17B3 17D7 17DC",
  "1950-196D 1970-1974 1980-19AB 19B0-19C9 1A20-1A54 1AA7 A9E0-A9E4 A9E6-A9EF A9FA-A9FE AA60-AA76 AA7A",
  "AA7E-AAAF AAB1 AAB5-AAB6 AAB9-AABD AAC0 AAC2 AADB-AADD 11700-1171A 11740-11746"]

/-- Symbols and punctuation that count as letters. -/
def letterLike : CharSet := setOfTable [
  "2C2-2C5 2D2-2D7 2DE-2DF 2E5-2EB 2ED 2EF-2FF 55A-55C 55E 58A 5F3 70F A708-A716 A720-A721 A789-A78A AB5B"]

def wordLetters : CharSet :=
  (CharSet.union alphabetic letterLike).diff
    (CharSet.unions [withProperty "ideo", katakanaWord, unspacedLetters, ofScript "hira", wordExtend,
      hebrewLetters])

def wordNumeric : CharSet := CharSet.unions [ofCategories ["nd"], numberSigns, setOfTable ["66B 19DA"]]

/-- The set of a part in the division into words. -/
def wordPartSet? (value : String) : Option CharSet :=
  match value with
  | "le" | "aletter" => some wordLetters
  | "dq" | "doublequote" => some ⟨[(0x22, 0x22)]⟩
  | "sq" | "singlequote" => some ⟨[(0x27, 0x27)]⟩
  | "extend" => some wordExtend
  | "ex" | "extendnumlet" => some (CharSet.union (ofCategories ["pc"]) ⟨[(0x202F, 0x202F)]⟩)
  | "fo" | "format" => some wordFormat
  | "hl" | "hebrewletter" => some hebrewLetters
  | "ka" | "katakana" => some katakanaWord
  | "ml" | "midletter" => some (setOfTable ["3A B7 387 55F 5F4 2027 FE13 FE55 FF1A"])
  | "mn" | "midnum" => some (setOfTable ["2C 3B 37E 589 60C-60D 66C 7F8 2044 FE50 FE54 FF0C FF1B"])
  | "mb" | "midnumlet" => some (setOfTable ["2E 2018-2019 2024 FE52 FF07 FF0E"])
  | "nl" | "newline" => some (setOfTable ["B-C 85 2028-2029"])
  | "nu" | "numeric" => some wordNumeric
  | "ri" | "regionalindicator" => some (withProperty "ri")
  | "wsegspace" => some ((ofCategories ["zs"]).diff (setOfTable ["A0 2007 202F"]))
  | "zwj" => some zeroWidthJoiner
  | _ => lineEndSet? value

/-! ## Sentences -/

def sentenceBreaks : CharSet := setOfTable ["85 2028-2029"]

/-- The dots that may end a sentence or stand inside one. -/
def ambiguousStops : CharSet := setOfTable ["2E 2024 FE52 FF0E"]

def sentenceStops : CharSet := (withProperty "sterm").diff ambiguousStops

def sentenceExtend : CharSet := CharSet.unions [graphemeExtend, ofCategories ["mc"], zeroWidthJoiner]

def sentenceNumeric : CharSet := CharSet.union wordNumeric ⟨[(0x66C, 0x66C)]⟩

def sentenceFormat : CharSet :=
  (ofCategories ["cf"]).diff (CharSet.unions [withProperty "joinc", sentenceExtend, sentenceNumeric])

/-- Georgian letters, which begin sentences in both cases. -/
def sentenceLower : CharSet :=
  lowercase.diff (CharSet.union graphemeExtend (setOfTable ["10D0-10FA 10FD-10FF"]))

def sentenceUpper : CharSet :=
  (CharSet.union uppercase (ofCategories ["lt"])).diff (setOfTable ["1C90-1CBA 1CBD-1CBF"])

def sentenceLetters : CharSet :=
  (CharSet.union alphabetic ⟨[(0x5F3, 0x5F3)]⟩).diff
    (CharSet.unions [sentenceLower, sentenceUpper, sentenceExtend])

/-- Brackets and quotation marks around sentences. -/
def sentenceClose : CharSet :=
  CharSet.union (ofCategories ["ps", "pe", "pi", "pf"])
    (setOfTable ["22 27 275B-2760 2E00-2E01 2E06-2E08 2E0B 1F676-1F678"])

/-- Punctuation after which a sentence goes on. -/
def sentenceContinue : CharSet := setOfTable [
  "2C-2D 3A-3B 37E 55D 60C-60D 7F8 1802 1808 2013-2014 3001 FE10-FE11 FE13-FE14 FE31-FE32 FE50-FE51",
  "FE54-FE55 FE58 FE63 FF0C-FF0D FF1A-FF1B FF64"]

/-- The set of a part in the division into sentences. -/
def sentencePartSet? (value : String) : Option CharSet :=
  match value with
  | "at" | "aterm" => some ambiguousStops
  | "cl" | "close" => some sentenceClose
  | "ex" | "extend" => some sentenceExtend
  | "fo" | "format" => some sentenceFormat
  | "lo" | "lower" => some sentenceLower
  | "nu" | "numeric" => some sentenceNumeric
  | "le" | "oletter" => some sentenceLetters
  | "sc" | "scontinue" => some sentenceContinue
  | "st" | "sterm" => some sentenceStops
  | "se" | "sep" => some sentenceBreaks
  | "sp" => some ((withProperty "space").diff (CharSet.union sentenceBreaks (setOfTable ["A D"])))
  | "up" | "upper" => some sentenceUpper
  | _ => lineEndSet? value

end Dataflow.Pattern

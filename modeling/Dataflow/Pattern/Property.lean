import Dataflow.Pattern.Table
/-!
Properties of characters that follow from others.

Each is put together as the character standard defines it: from categories, and from a property that holds the
exceptions.
-/

namespace Dataflow.Pattern

open Text (CharSet)

/-! ## Letters -/

def lowercase : CharSet := CharSet.union (ofCategories ["ll"]) (withProperty "olower")

def uppercase : CharSet := CharSet.union (ofCategories ["lu"]) (withProperty "oupper")

def cased : CharSet := CharSet.unions [lowercase, uppercase, ofCategories ["lt"]]

def alphabetic : CharSet :=
  CharSet.unions [lowercase, uppercase, ofCategories ["lt", "lm", "lo", "nl"], withProperty "oalpha"]

/-- Punctuation inside words, which the search for a neighbouring letter looks through. -/
def wordPunctuation : CharSet :=
  setOfTable ["27 2E 3A B7 387 55F 5F4 2018-2019 2024 2027 FE13 FE52 FE55 FF07 FF0E FF1A"]

def caseIgnorable : CharSet := CharSet.union (ofCategories ["mn", "me", "cf", "lm", "sk"]) wordPunctuation

def changesWhenCasemapped : CharSet :=
  CharSet.unions [withProperty "cwl", withProperty "cwu", withProperty "cwt"]

/-! ## Identifiers -/

/-- The characters that the notation of patterns keeps for itself. -/
def patternCharacters : CharSet := CharSet.union (withProperty "patsyn") (withProperty "patws")

def idStart : CharSet :=
  (CharSet.unions [ofCategories ["lu", "ll", "lt", "lm", "lo", "nl"], withProperty "oids"]).diff patternCharacters

def idContinue : CharSet :=
  CharSet.union idStart
    ((CharSet.unions [ofCategories ["mn", "mc", "nd", "pc"], withProperty "oidc"]).diff patternCharacters)

/-- What a compatibility decomposition would turn into something that is no part of an identifier. -/
def unstable : CharSet := setOfTable ["309B-309C FC5E-FC63 FDFA-FDFB FE70 FE72 FE74 FE76 FE78 FE7A FE7C FE7E"]

/-- What a compatibility decomposition would turn into something that begins no identifier. -/
def unstableStart : CharSet := setOfTable ["E33 EB3 FF9E-FF9F"]

def xidStart : CharSet := idStart.diff (CharSet.unions [unstable, unstableStart, ⟨[(0x37A, 0x37A)]⟩])

def xidContinue : CharSet := idContinue.diff (CharSet.union unstable ⟨[(0x37A, 0x37A)]⟩)

def mathContinue : CharSet :=
  CharSet.union (withProperty "idcompatmathstart") (setOfTable ["B2-B3 B9 2070 2074-207E 2080-208E"])

/-! ## Others -/

def mathematical : CharSet := CharSet.union (ofCategories ["sm"]) (withProperty "omath")

def graphemeExtend : CharSet := CharSet.union (ofCategories ["mn", "me"]) (withProperty "ogrext")

def graphemeBase : CharSet :=
  (CharSet.unions [others, ofCategories ["zl", "zp"], graphemeExtend]).complement

def defaultIgnorable : CharSet :=
  (CharSet.unions [withProperty "odi", ofCategories ["cf"], withProperty "vs"]).diff
    (CharSet.unions [withProperty "space", setOfTable ["FFF9-FFFB 13430-1343F"], withProperty "pcm"])

/-- The characters of words: letters, marks, decimal digits, connecting punctuation and joiners. -/
def wordSet : CharSet :=
  CharSet.unions [alphabetic, ofCategories ["mn", "mc", "me", "nd", "pc"], withProperty "joinc"]

/-- The set of a property that a character has or has not. -/
def propertySet? (name : String) : Option CharSet :=
  match name with
  | "lower" | "lowercase" => some lowercase
  | "upper" | "uppercase" => some uppercase
  | "cased" => some cased
  | "alpha" | "alphabetic" => some alphabetic
  | "ci" | "caseignorable" => some caseIgnorable
  | "cwcm" | "changeswhencasemapped" => some changesWhenCasemapped
  | "ids" | "idstart" => some idStart
  | "idc" | "idcontinue" => some idContinue
  | "xids" | "xidstart" => some xidStart
  | "xidc" | "xidcontinue" => some xidContinue
  | "idcompatmathcontinue" => some mathContinue
  | "math" => some mathematical
  | "grext" | "graphemeextend" => some graphemeExtend
  | "grbase" | "graphemebase" => some graphemeBase
  | "di" | "defaultignorablecodepoint" => some defaultIgnorable
  | _ => tableSet? propertyTable name

end Dataflow.Pattern

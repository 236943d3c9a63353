import Dataflow.Pattern.Basic
import Dataflow.Pattern.Classes
import Dataflow.Number.Text
import Dataflow.Text.Blank
import Dataflow.Text.Search
/-!
Reading characters and escapes of a pattern.

What a character of a pattern means depends on the flags, which may change from one place to the next. Without the
Unicode flag, sets must stay in ASCII. In a verbose pattern, blanks and comments between the parts are skipped.
-/

namespace Dataflow

/-- Why a text is no pattern. -/
inductive PatternError where
  | unexpectedEnd
  | groupNotClosed
  | groupNotOpened
  | classNotClosed
  | nothingToRepeat
  | badCount
  | badRange
  | badEscape
  | badFlags
  | badGroupName
  | unknownSet
  | lookAround
  | backReference
  /-- Without Unicode support, a part that is not plain ASCII. -/
  | notAscii
  | tooDeep
  | tooLarge
deriving DecidableEq

def PatternError.message : PatternError → String
  | .unexpectedEnd => "the pattern ends too early"
  | .groupNotClosed => "a group is not closed"
  | .groupNotOpened => "a closing parenthesis opens nothing"
  | .classNotClosed => "a character class is not closed"
  | .nothingToRepeat => "a repetition has nothing to repeat"
  | .badCount => "a repetition count is not valid"
  | .badRange => "a character range is not valid"
  | .badEscape => "an escape is not known"
  | .badFlags => "flags are not valid"
  | .badGroupName => "a group name is not valid"
  | .unknownSet => "a character property is not known"
  | .lookAround => "look-around is not supported"
  | .backReference => "references to groups are not supported"
  | .notAscii => "only ASCII is allowed without Unicode support"
  | .tooDeep => "the pattern nests too deeply"
  | .tooLarge => "the pattern is too large"

namespace Pattern

open Text (CharSet)

/-! ## Reading state -/

structure Flags where
  ignoreCase : Bool := false
  multiLine : Bool := false
  dotMatchesAll : Bool := false
  anyLineBreak : Bool := false
  unicode : Bool := true
  /-- Blanks and comments between the parts are skipped. -/
  verbose : Bool := false
  /-- Repetitions take as little as they can unless marked, and not the other way round. -/
  lazy : Bool := false

structure ReadState where
  rest : List Char
  /-- The length of the whole text, which bounds every loop over it. -/
  length : Nat
  flags : Flags
  /-- How many groups have been opened that have a number. -/
  groups : Nat
  /-- The names of the groups so far. -/
  names : List String

abbrev Reading := StateT ReadState (Except PatternError)

/-! ## Characters -/

/-- Drops blanks, and comments from `#` to the end of the line. -/
def dropVerbose (inComment : Bool) : List Char → List Char
  | [] => []
  | c :: rest =>
    if inComment then dropVerbose (c != '\n') rest
    else if Text.isBlank c then dropVerbose false rest
    else if c = '#' then dropVerbose true rest
    else c :: rest

def skipVerbose : Reading Unit :=
  modify fun s => if s.flags.verbose then { s with rest := dropVerbose false s.rest } else s

def peek? : Reading (Option Char) := return (← get).rest.head?

/-- The first character that is neither a blank nor the `#` of a comment. The text of the comment is not passed over,
and in it a `#` counts. -/
def firstShown? (inComment : Bool) : List Char → Option Char
  | [] => none
  | c :: rest =>
    if Text.isBlank c then firstShown? inComment rest
    else if c = '#' ∧ !inComment then firstShown? true rest
    else some c

/-- The second character ahead; in a verbose pattern the first from there on that counts, if there is one. -/
def peekNext? : Reading (Option Char) := do
  let s ← get
  let rest := s.rest.drop 1
  if s.flags.verbose then return (firstShown? false rest).or rest.head? else return rest.head?

/-- Takes the next character. -/
def take (whenMissing : PatternError) : Reading Char := do
  let s ← get
  match s.rest with
  | [] => throw whenMissing
  | c :: rest => set { s with rest := rest }; return c

/-- Takes the next character and what a verbose pattern skips after it. -/
def takeSkipping (whenMissing : PatternError) : Reading Char := do
  let c ← take whenMissing
  skipVerbose
  return c

/-- Takes a given text if it comes next. -/
def takeIf (text : String) : Reading Bool := do
  let s ← get
  match Text.after? text.toList s.rest with
  | some rest => set { s with rest := rest }; return true
  | none => return false

/-! ## Escapes -/

/-- What an escape stands for, alone or inside a class. -/
inductive Escape where
  /-- A character; `byte` if it was given by exactly two hexadecimal digits. -/
  | char (c : Char) (byte : Bool)
  | set (s : CharSet)
  | look (condition : Look)

def anyHexDigit? (c : Char) : Option Nat :=
  if 'a' ≤ c ∧ c ≤ 'f' then some (c.toNat - 87) else hexDigit? c

/-- The character with a code point, if it is one. -/
def charOfCode (code : Nat) : Reading Char :=
  if code < 0xD800 ∨ 0xDFFF < code ∧ code < 0x110000 then pure (Char.ofNat code) else throw .badEscape

/-- A given number of hexadecimal digits. -/
def fixedHex : Nat → Nat → Reading Nat
  | 0, code => pure code
  | digits + 1, code => do
    match anyHexDigit? (← takeSkipping .unexpectedEnd) with
    | some d => fixedHex digits (16 * code + d)
    | none => throw .badEscape

/-- Takes characters up to a closing brace, which is taken too; at most `limit` of them. -/
def braced : Nat → List Char → Reading (List Char)
  | 0, _ => throw .unexpectedEnd
  | limit + 1, seen => do
    skipVerbose
    let c ← take .unexpectedEnd
    if c = '\x7d' then pure seen.reverse else braced limit (c :: seen)

def bracedText : Reading (List Char) := do braced ((← get).length + 1) []

/-- The character of a hexadecimal escape whose letter asks for so many digits. -/
def hexEscape (digits : Nat) : Reading Escape := do
  skipVerbose
  if (← peek?) = some '\x7b' then
    let _ ← take .unexpectedEnd
    let text ← bracedText
    if text.isEmpty ∨ !text.all fun c => (anyHexDigit? c).isSome then throw .badEscape
    skipVerbose
    return .char (← charOfCode (text.foldl (fun n c => 16 * n + (anyHexDigit? c).getD 0) 0)) false
  else
    return .char (← charOfCode (← fixedHex digits 0)) (digits == 2)

/-- Folds the case of a set if the flags ask for it. -/
def foldBy (flags : Flags) (set : CharSet) : CharSet :=
  if flags.ignoreCase then (if flags.unicode then foldCase set else foldAsciiCase set) else set

/-- A set under the flags: its case is folded, then it may be negated. Without Unicode it must stay in ASCII. -/
def setUnder (flags : Flags) (negated : Bool) (set : CharSet) : Reading CharSet := do
  let folded := foldBy flags set
  let result := if negated then folded.complement else folded
  if flags.unicode || isAscii result then return result else throw .notAscii

/-- The set of a one-letter class. -/
def letterClass (unicode ascii : CharSet) (negated : Bool) : Reading Escape := do
  let flags := (← get).flags
  let set := if flags.unicode then unicode else ascii
  return .set (← setUnder { flags with ignoreCase := false } negated set)

/-- The set after `\p` or `\P`. -/
def propertyClass (negated : Bool) : Reading Escape := do
  let flags := (← get).flags
  if !flags.unicode then throw .notAscii
  skipVerbose
  let c ← take .unexpectedEnd
  let finish (negated : Bool) : Option CharSet → Reading Escape
    | some set => return .set (← setUnder flags negated set)
    | none => throw .unknownSet
  if c = '\x7b' then
    let text ← bracedText
    let split (mark : List Char) : Option (String × String) :=
      match Text.pieces mark text with
      | name :: value :: more => some (looseName name, looseName (mark.intercalate (value :: more)))
      | _ => none
    match split ['!', '='] with
    | some (name, value) => finish (!negated) (valueSet? name value)
    | none => match split [':'] with
      | some (name, value) => finish negated (valueSet? name value)
      | none => match split ['='] with
        | some (name, value) => finish negated (valueSet? name value)
        | none => finish negated (namedSet? (looseName text))
  else
    if c = '\\' then throw .badEscape
    finish negated (namedSet? (looseName [c]))

/-- Takes letters and hyphens as long as there are any, at most `limit`. -/
def boundaryName : Nat → List Char → Reading (List Char)
  | 0, seen => pure seen.reverse
  | limit + 1, seen => do
    match ← peek? with
    | some c =>
      if c.isAlpha || c == '-' then
        let _ ← takeSkipping .unexpectedEnd
        boundaryName limit (c :: seen)
      else pure seen.reverse
    | none => pure seen.reverse

/-- A word boundary, whose kind may follow in braces; braces with a number are a repetition and stay. -/
def wordEscape : Reading Escape := do
  let start ← get
  let ascii := !start.flags.unicode
  if start.rest.head? ≠ some '\x7b' then return .look (.wordBoundary ascii)
  let _ ← takeSkipping .unexpectedEnd
  match ← peek? with
  | none => throw .unexpectedEnd
  | some c =>
    if !(c.isAlpha || c == '-') then
      set start
      return .look (.wordBoundary ascii)
    let name ← boundaryName (← get).length []
    if (← take .badEscape) ≠ '\x7d' then throw .badEscape
    match String.ofList name with
    | "start" => return .look (.wordStart ascii)
    | "end" => return .look (.wordEnd ascii)
    | "start-half" => return .look (.wordStartHalf ascii)
    | "end-half" => return .look (.wordEndHalf ascii)
    | _ => throw .badEscape

/-- An escape, after its backslash. -/
def escape : Reading Escape := do
  let c ← take .unexpectedEnd
  let ascii := !(← get).flags.unicode
  match c with
  | 'x' => hexEscape 2
  | 'u' => hexEscape 4
  | 'U' => hexEscape 8
  | 'p' => propertyClass false
  | 'P' => propertyClass true
  | 'd' => letterClass digitSet asciiDigitSet false
  | 'D' => letterClass digitSet asciiDigitSet true
  | 's' => letterClass spaceSet asciiSpaceSet false
  | 'S' => letterClass spaceSet asciiSpaceSet true
  | 'w' => letterClass wordSet asciiWordSet false
  | 'W' => letterClass wordSet asciiWordSet true
  | 'a' => return .char '\x07' false
  | 'f' => return .char '\x0c' false
  | 't' => return .char '\t' false
  | 'n' => return .char '\n' false
  | 'r' => return .char '\r' false
  | 'v' => return .char '\x0b' false
  | 'A' => return .look .textStart
  | 'z' => return .look .textEnd
  | 'b' => wordEscape
  | 'B' => return .look (.noWordBoundary ascii)
  | '<' => return .look (.wordStart ascii)
  | '>' => return .look (.wordEnd ascii)
  | c =>
    if c.isDigit then throw .backReference
    else if c.toNat < 0x80 ∧ !c.isAlpha then return .char c false
    else throw .badEscape

end Pattern

end Dataflow

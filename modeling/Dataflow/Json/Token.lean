import Dataflow.Json.Basic
import Dataflow.Number.Text
/-!
The tokens of JSON text.

A text is read as tokens from the left; the first place where none fits is a `fault`, and nothing follows it.
A number too large for binary64 and a string with half of a surrogate pair are still tokens, since a document may
hold them where nobody looks; their value is `none`.
-/

namespace Dataflow.Json

inductive Token where
  | beginArray
  | endArray
  | beginObject
  | endObject
  | comma
  | colon
  | null
  | bool (b : Bool)
  | number (value : Option JsonNumber)
  | string (value : Option String)
  | fault
deriving DecidableEq

/-! ## Numbers

The value of a number is that of its leading digits, as many as fit 64 bits, scaled by a power of ten. Both steps
round, so a long numeral may end up next to the nearest number. -/

/-- Appends digits to a count while it stays below `2^64`, and gives back the digits left over. -/
def absorbDigits (count : Nat) : List Char → Nat × List Char
  | [] => (count, [])
  | c :: digits =>
    let next := 10 * count + (c.toNat - 48)
    if next < 0x10000000000000000 then absorbDigits next digits else (count, c :: digits)

/-- The number nearest to a power of ten. -/
def tenToThe (n : Nat) : Number := .ofNat (Nat.pow 10 n)

/-- Divides by `10^n`, in steps of at most `10^308`. -/
def scaleDown (x : Number) (n : Nat) : Number :=
  if n ≤ 308 then x.div (tenToThe n)
  else if x.magnitude = 0 then x
  else scaleDown (x.div (tenToThe 308)) (n - 308)
termination_by n

/-- The digits' value times a power of ten; there is none if that is infinite. -/
def scaled? (negative : Bool) (count : Nat) (exponent : Int) : Option Number :=
  let signed (x : Number) := if negative then x.neg else x
  match exponent with
  | .negSucc e => some (signed (scaleDown (.ofNat count) (e + 1)))
  | .ofNat e =>
    if 308 < e then if count = 0 then some (signed .zero) else none
    else
      let x := (Number.ofNat count).mul (tenToThe e)
      if x.isInfinite then none else some (signed x)

/-- A numeral taken apart. -/
structure Numeral where
  negative : Bool
  whole : List Char
  fraction : List Char
  /-- The sign and the digits after the `e`, if there is one. -/
  exponent : Option (Bool × List Char)

/-- The number that a numeral denotes, if it is in range. -/
def Numeral.value? (n : Numeral) : Option JsonNumber :=
  let (count, wholeRest) := absorbDigits 0 n.whole
  if n.fraction.isEmpty && n.exponent.isNone && wholeRest.isEmpty then
    if !n.negative then some (.positive count)
    else if count = 0 ∨ 0x8000000000000000 < count then some (.float (Number.ofNat count).neg)
    else some (.negative count)
  else
    let (count, fractionRest) := absorbDigits count n.fraction
    let point : Int := wholeRest.length - (n.fraction.length - fractionRest.length : Nat)
    let shift := n.exponent.map fun (negative, digits) => (negative, digitsValue digits)
    let scaled := match shift with
      | none => scaled? n.negative count point
      | some (negative, size) =>
        if size < 0x80000000 then scaled? n.negative count (if negative then point - size else point + size)
        else if negative || count == 0 then some (if n.negative then .negativeZero else .zero)
        else none
    scaled.map .float

/-- At least one digit, and what follows the digits. -/
def someDigits? (cs : List Char) : Option (List Char × List Char) :=
  match cs.takeWhile Char.isDigit with
  | [] => none
  | digits => some (digits, cs.dropWhile Char.isDigit)

/-- A numeral at the start of a text, and what follows it. A numeral of several digits starts with none that
is 0. -/
def numeral? (cs : List Char) : Option (Numeral × List Char) := do
  let (negative, cs) := match cs with
    | '-' :: rest => (true, rest)
    | rest => (false, rest)
  let (whole, cs) ← someDigits? cs
  if whole.head? = some '0' ∧ 1 < whole.length then none
  let (fraction, cs) ← match cs with
    | '.' :: rest => someDigits? rest
    | rest => some ([], rest)
  let exponentPart? (rest : List Char) : Option (Option (Bool × List Char) × List Char) := do
    let (negative, rest) := splitSign rest
    let (digits, rest) ← someDigits? rest
    some (some (negative, digits), rest)
  let (exponent, cs) ← match cs with
    | 'e' :: rest => exponentPart? rest
    | 'E' :: rest => exponentPart? rest
    | rest => some (none, rest)
  some (⟨negative, whole, fraction, exponent⟩, cs)

/-! ## Strings -/

def hexValue? (c : Char) : Option Nat :=
  if '0' ≤ c ∧ c ≤ '9' then some (c.toNat - 48)
  else if 'a' ≤ c ∧ c ≤ 'f' then some (c.toNat - 87)
  else if 'A' ≤ c ∧ c ≤ 'F' then some (c.toNat - 55)
  else none

/-- The value of four hexadecimal digits. -/
def hexQuad? (a b c d : Char) : Option Nat := do
  let a ← hexValue? a
  let b ← hexValue? b
  let c ← hexValue? c
  let d ← hexValue? d
  some (((a * 16 + b) * 16 + c) * 16 + d)

/-- The character of a one-letter escape. -/
def simpleEscape? (c : Char) : Option Char :=
  if c = '"' ∨ c = '\\' ∨ c = '/' then some c
  else if c = 'b' then some '\x08'
  else if c = 'f' then some '\x0c'
  else if c = 'n' then some '\n'
  else if c = 'r' then some '\r'
  else if c = 't' then some '\t'
  else none

/-- A UTF-16 unit of an escape, waiting for its second half or not. -/
inductive Pending where
  | none
  | high (unit : Nat)

/-- Reads a string after its opening quote. `sound` is false once a surrogate has stood alone. -/
def stringRest? (seen : List Char) (sound : Bool) (pending : Pending) :
    List Char → Option (Option String × List Char)
  | [] => none
  | '"' :: rest =>
    let sound := match pending with | .none => sound | .high _ => false
    some (if sound then some (String.ofList seen.reverse) else none, rest)
  | '\\' :: 'u' :: a :: b :: c :: d :: rest =>
    match hexQuad? a b c d with
    | none => none
    | some unit =>
      let isLow := decide (0xDC00 ≤ unit ∧ unit ≤ 0xDFFF)
      let isHigh := decide (0xD800 ≤ unit ∧ unit ≤ 0xDBFF)
      match pending with
      | .high first =>
        if isLow then
          let code := 0x10000 + (first - 0xD800) * 0x400 + (unit - 0xDC00)
          stringRest? (Char.ofNat code :: seen) sound .none rest
        else stringRest? seen false .none rest
      | .none =>
        if isHigh then stringRest? seen sound (.high unit) rest
        else if isLow then stringRest? seen false .none rest
        else stringRest? (Char.ofNat unit :: seen) sound .none rest
  | '\\' :: c :: rest =>
    let sound := match pending with | .none => sound | .high _ => false
    match simpleEscape? c with
    | none => none
    | some c => stringRest? (c :: seen) sound .none rest
  | c :: rest =>
    if c.toNat < 0x20 ∨ c = '\\' then none
    else
      let sound := match pending with | .none => sound | .high _ => false
      stringRest? (c :: seen) sound .none rest

/-! ## Texts -/

def isSpace (c : Char) : Bool := c = ' ' || c = '\t' || c = '\n' || c = '\r'

/-- The token at the start of a text without leading blanks, and what follows it. -/
def token? (cs : List Char) : Option (Token × List Char) :=
  match cs with
  | '[' :: rest => some (.beginArray, rest)
  | ']' :: rest => some (.endArray, rest)
  | '\x7b' :: rest => some (.beginObject, rest)
  | '\x7d' :: rest => some (.endObject, rest)
  | ',' :: rest => some (.comma, rest)
  | ':' :: rest => some (.colon, rest)
  | '"' :: rest => (stringRest? [] true .none rest).map fun (s, rest) => (.string s, rest)
  | 'n' :: 'u' :: 'l' :: 'l' :: rest => some (.null, rest)
  | 't' :: 'r' :: 'u' :: 'e' :: rest => some (.bool true, rest)
  | 'f' :: 'a' :: 'l' :: 's' :: 'e' :: rest => some (.bool false, rest)
  | cs => (numeral? cs).map fun (n, rest) => (.number n.value?, rest)

/-- Reads at most `limit` tokens. -/
def tokensUpTo : Nat → List Char → List Token
  | 0, _ => []
  | limit + 1, cs =>
    match cs.dropWhile isSpace with
    | [] => []
    | cs =>
      match token? cs with
      | none => [.fault]
      | some (token, rest) => token :: tokensUpTo limit rest

/-- The tokens of a text. Each has at least one character, so the length bounds their number. -/
def tokens (text : String) : List Token :=
  let cs := text.toList
  tokensUpTo cs.length cs

end Dataflow.Json

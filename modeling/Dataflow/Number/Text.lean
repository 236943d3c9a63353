import Dataflow.Number.Decimal
/-!
Numbers as text: the plain notation, which is always positional, and the reader for numeric text.

An integral number is written as an integer, held inside the signed 64 bit range; any other finite one with the
fewest digits that read back. The reader takes more than the writer makes: a sign, a missing integer or fraction
part, an exponent, and the names of infinity and NaN in any case of letters.
-/

namespace Dataflow

/-! ## Digits -/

/-- The decimal digits of a natural number. -/
def natText (n : Nat) : String := String.ofList (Nat.toDigits 10 n)

/-- A number can be read off its digits. -/
theorem ofDigitChars_natText (n : Nat) : Nat.ofDigitChars 10 (natText n).toList 0 = n := by
  rw [natText, String.toList_ofList]
  exact Nat.ofDigitChars_ten_toDigits

theorem natText_injective : Function.Injective natText := by
  intro m n h
  rw [← ofDigitChars_natText m, h, ofDigitChars_natText]

def intText (n : Int) : String := if n < 0 then "-" ++ natText n.natAbs else natText n.natAbs

/-- A decimal without exponent: zeros fill the gap between the digits and the point. -/
def Decimal.positional (d : Decimal) : String :=
  let digits := Nat.toDigits 10 d.digits
  match d.exponent with
  | .ofNat e => String.ofList (digits ++ List.replicate e '0')
  | .negSucc e =>
    let places := e + 1
    let padded := List.replicate (places + 1 - digits.length) '0' ++ digits
    String.ofList (padded.take (padded.length - places) ++ '.' :: padded.drop (padded.length - places))

/-- The value of a run of decimal digits. -/
def digitsValue (digits : List Char) : Nat :=
  digits.foldl (fun n c => 10 * n + (c.toNat - 48)) 0

/-- An optional sign and the rest; the flag is set for a minus. -/
def splitSign : List Char → Bool × List Char
  | '-' :: rest => (true, rest)
  | '+' :: rest => (false, rest)
  | rest => (false, rest)

/-! ## Writing -/

namespace Number

/-- The plain notation of a number. -/
def text (x : Number) : String :=
  if x.isIntegral then intText x.toInt64Range
  else if x.isNaN then "NaN"
  else
    let sign := if x.isNegative then "-" else ""
    if x.isInfinite then sign ++ "inf" else sign ++ (shortest .up x.magnitude).positional

/-- The notation that shows a whole number in full, however large, and keeps the sign of a zero. -/
def fullText (x : Number) : String :=
  if x.isNaN then "NaN"
  else
    let sign := if x.isNegative then "-" else ""
    if x.isInfinite then sign ++ "inf" else sign ++ (shortest .up x.magnitude).positional

end Number

/-! ## Reading -/

/-- The exponent part of numeric text: nothing, or `e`, an optional sign and at least one digit. -/
def readExponent? : List Char → Option Int
  | [] => some 0
  | c :: rest =>
    if c == 'e' || c == 'E' then
      let (negative, digits) := splitSign rest
      if digits.isEmpty || !digits.all Char.isDigit then none
      else some (if negative then -(digitsValue digits : Int) else digitsValue digits)
    else none

/-- A decimal in unsigned numeric text: digits with at most one point among or beside them, then an exponent. -/
def Decimal.read? (chars : List Char) : Option Decimal :=
  let whole := chars.takeWhile Char.isDigit
  let rest := chars.dropWhile Char.isDigit
  let (fraction, rest) := match rest with
    | '.' :: rest => (rest.takeWhile Char.isDigit, rest.dropWhile Char.isDigit)
    | rest => ([], rest)
  if whole.isEmpty && fraction.isEmpty then none
  else (readExponent? rest).map fun e => ⟨digitsValue (whole ++ fraction), e - fraction.length⟩

/-- The number that a text denotes, without blanks around it. -/
def Number.read? (chars : List Char) : Option Number :=
  let (negative, body) := splitSign chars
  let name := String.ofList (body.map Char.toLower)
  if name == "inf" || name == "infinity" then some (.infinity negative)
  else if name == "nan" then some (.ofParts negative Number.quietMagnitude)
  else (Decimal.read? body).map (.ofDecimal negative)

end Dataflow

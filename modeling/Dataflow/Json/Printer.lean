import Dataflow.Json.Basic
import Dataflow.Number.Text
/-!
JSON text: the compact form, and the one with a member or item per line.

A floating number has the fewest digits that read back, a tie between two going to the even digit. It is written
positionally from `10^-5` up to `10^16`, with a fraction even when that is zero, and with a signed exponent
outside that range. Strings escape the quote, the backslash and control characters, and nothing else.
-/

namespace Dataflow

/-! ## Numbers -/

/-- A decimal in scientific notation: one digit, the others after a point, and the exponent with its sign. -/
def Decimal.scientific (d : Decimal) : String :=
  let digits := Nat.toDigits 10 d.digits
  let exponent := d.exponent + (digits.length - 1 : Nat)
  let fraction := match digits.drop 1 with
    | [] => []
    | more => '.' :: more
  String.ofList (digits.take 1 ++ fraction) ++ (if exponent < 0 then "e-" else "e+") ++ natText exponent.natAbs

namespace Json

/-- A finite number. -/
def floatText (x : Number) : String :=
  let d := Number.shortest .even x.magnitude
  let leading := d.exponent + (Nat.toDigits 10 d.digits).length
  let body :=
    if x.magnitude = 0 then "0.0"
    else if -5 < leading ∧ leading ≤ 16 then
      if 0 ≤ d.exponent then d.positional ++ ".0" else d.positional
    else d.scientific
  if x.isNegative then "-" ++ body else body

def numberText : JsonNumber → String
  | .positive n => natText n
  | .negative n => "-" ++ natText n
  | .float x => floatText x

/-! ## Strings -/

/-- A character inside a JSON string. -/
def escapeChar (c : Char) : List Char :=
  if c = '"' then ['\\', '"']
  else if c = '\\' then ['\\', '\\']
  else if c = '\x08' then ['\\', 'b']
  else if c = '\t' then ['\\', 't']
  else if c = '\n' then ['\\', 'n']
  else if c = '\x0c' then ['\\', 'f']
  else if c = '\r' then ['\\', 'r']
  else if c.toNat < 0x20 then
    '\\' :: 'u' :: '0' :: '0' :: Nat.digitChar (c.toNat / 16) :: [Nat.digitChar (c.toNat % 16)]
  else [c]

def stringText (s : String) : String :=
  String.ofList ('"' :: s.toList.flatMap escapeChar ++ ['"'])

/-! ## Documents -/

mutual

/-- The text without any blanks. -/
def compact : Json → String
  | .null => "null"
  | .bool b => if b then "true" else "false"
  | .number n => numberText n
  | .string s => stringText s
  | .array items => "[" ++ ",".intercalate (compactItems items) ++ "]"
  | .object members => "\x7b" ++ ",".intercalate (compactMembers members) ++ "\x7d"

def compactItems : List Json → List String
  | [] => []
  | j :: js => j.compact :: compactItems js

def compactMembers : List (String × Json) → List String
  | [] => []
  | (k, j) :: ms => (stringText k ++ ":" ++ j.compact) :: compactMembers ms

end

/-- A line break and the indentation of a nesting depth. -/
def newline (depth : Nat) : String := "\n" ++ String.ofList (List.replicate (2 * depth) ' ')

/-- Brackets around parts on lines of their own; nothing stands between the brackets of an empty container. -/
def block (depth : Nat) (opening closing : String) (parts : List String) : String :=
  if parts.isEmpty then opening ++ closing
  else
    opening ++ newline (depth + 1) ++ ("," ++ newline (depth + 1)).intercalate parts ++ newline depth ++ closing

mutual

/-- The text with a part per line, inside `depth` containers. -/
def prettyAt (depth : Nat) : Json → String
  | .array items => block depth "[" "]" (prettyItems (depth + 1) items)
  | .object members => block depth "\x7b" "\x7d" (prettyMembers (depth + 1) members)
  | .null => "null"
  | .bool b => if b then "true" else "false"
  | .number n => numberText n
  | .string s => stringText s

def prettyItems (depth : Nat) : List Json → List String
  | [] => []
  | j :: js => j.prettyAt depth :: prettyItems depth js

def prettyMembers (depth : Nat) : List (String × Json) → List String
  | [] => []
  | (k, j) :: ms => (stringText k ++ ": " ++ j.prettyAt depth) :: prettyMembers depth ms

end

/-- The text with a member or an item per line, indented by two blanks a level. -/
def pretty (j : Json) : String := prettyAt 0 j

end Json

end Dataflow

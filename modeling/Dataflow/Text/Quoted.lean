import Dataflow.Text.Unprintable
/-!
Quoted text: one line that shows every character that would not show by itself.
-/

namespace Dataflow.Text

/-- A character by its number, in lower-case hexadecimal. -/
def escapeByCode (c : Char) : List Char :=
  '\\' :: 'u' :: '\x7b' :: (Nat.toDigits 16 c.toNat ++ ['\x7d'])

/-- A character inside double quotes. A mark that would join the quote or the character before it is shown by
number too. -/
def escapeQuoted (c : Char) : List Char :=
  if c = '\x00' then ['\\', '0']
  else if c = '\t' then ['\\', 't']
  else if c = '\r' then ['\\', 'r']
  else if c = '\n' then ['\\', 'n']
  else if c = '"' then ['\\', '"']
  else if c = '\\' then ['\\', '\\']
  else if c = ' ' then [c]
  else if graphemeExtend.contains c || unprintable.contains c then escapeByCode c
  else [c]

/-- A text in double quotes. -/
def quoted (s : String) : String :=
  String.ofList ('"' :: s.toList.flatMap escapeQuoted ++ ['"'])

end Dataflow.Text

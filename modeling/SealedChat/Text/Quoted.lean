import SealedChat.Bytes.Hex
import SealedChat.Text.Visible

/-!
# Quoted texts

A text for people to read stands between double quotes. Quotes and backslashes get a backslash, a few
control characters a letter, and every other character that is not visible its code in braces.
-/

namespace SealedChat.Text

/-- The hexadecimal figures of a number, without leading zeros. -/
def hexFigures (n : Nat) : List Char :=
  if n < 16 then [Hex.digit n] else hexFigures (n / 16) ++ [Hex.digit (n % 16)]

/-- What stands for a character between quotes. -/
def quoteChar (c : Char) : List Char :=
  if c = '"' then ['\\', '"']
  else if c = '\\' then ['\\', '\\']
  else if c = '\n' then ['\\', 'n']
  else if c = '\r' then ['\\', 'r']
  else if c = '\t' then ['\\', 't']
  else if c = '\x00' then ['\\', '0']
  else if isVisible c then [c]
  else ['\\', 'u', '\x7b'] ++ hexFigures c.toNat ++ ['\x7d']

/-- A text in quotes. -/
def quote (text : String) : String :=
  String.ofList ('"' :: text.toList.flatMap quoteChar ++ ['"'])

end SealedChat.Text

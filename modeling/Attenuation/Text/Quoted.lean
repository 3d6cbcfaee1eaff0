import Attenuation.Text.Extender
import Attenuation.Text.Unprintable

/-!
# Quoted text

Messages quote a text between double quotes. The quote, the backslash, and four controls have
short escapes; a character that has no printed form, or only extends the one before it, is
written by its code point in hexadecimal; every other character stands for itself.
-/

namespace Attenuation.Text

/-- The code point of a character in lower-case hexadecimal, between braces. -/
def codeEscape (code : Nat) : List Char :=
  '\\' :: 'u' :: '\x7b' :: (Nat.toDigits 16 code ++ ['\x7d'])

/-- A character inside quotes. -/
def quoteChar (c : Char) : List Char :=
  if c = '"' then ['\\', '"']
  else if c = '\\' then ['\\', '\\']
  else if c = '\n' then ['\\', 'n']
  else if c = '\r' then ['\\', 'r']
  else if c = '\t' then ['\\', 't']
  else if c = '\x00' then ['\\', '0']
  else if isUnprintable c.toNat || isExtender c.toNat then codeEscape c.toNat
  else [c]

/-- A text between double quotes. -/
def quoted (text : String) : String :=
  String.ofList ('"' :: (text.toList.flatMap quoteChar ++ ['"']))

end Attenuation.Text

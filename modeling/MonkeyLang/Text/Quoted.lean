import MonkeyLang.Text.Hex
import MonkeyLang.Unicode.Combining
import MonkeyLang.Unicode.Unprintable

/-!
# Quoted text

A text between double quotes, on one line and readable without marks: quotes, backslashes, line
breaks, and every character that is printed on top of its neighbour or not at all are escaped.
-/

namespace MonkeyLang.Text

/-- The written form of one character between quotes. -/
def escape (c : Char) : List Char :=
  if c = '\x00' then ['\\', '0']
  else if c = '\t' then ['\\', 't']
  else if c = '\r' then ['\\', 'r']
  else if c = '\n' then ['\\', 'n']
  else if c = '"' then ['\\', '"']
  else if c = '\\' then ['\\', '\\']
  else if 0x20 ≤ c.toNat && c.toNat < 0x7F then [c]
  else if Unicode.isOverprinted c || Unicode.isUnprintable c then
    ['\\', 'u', '\x7b'] ++ hexDigits c.toNat ++ ['\x7d']
  else [c]

/-- A text in quotes. -/
def quote (s : String) : String := .ofList ('"' :: (s.toList.flatMap escape ++ ['"']))

end MonkeyLang.Text

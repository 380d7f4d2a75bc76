import PciBus.Text.Numeral
import PciBus.Text.Printable

/-!
# Quoted text

Values that come from outside stand in messages between quotation marks,
with everything that would not show written as an escape. A text is closed
by double marks and a single character by single marks; only the mark that
closes is escaped inside.
-/

namespace PciBus.Text

/-- The escape by code point: `\u` and the hexadecimal number in braces. -/
def codeEscape (c : Char) : List Char :=
  ['\\', 'u', '\x7b'] ++ hexDigits 1 c.toNat ++ ['\x7d']

/-- A character as it stands between two `mark`s. -/
def escape (mark c : Char) : List Char :=
  if c = '\x00' then ['\\', '0']
  else if c = '\t' then ['\\', 't']
  else if c = '\r' then ['\\', 'r']
  else if c = '\n' then ['\\', 'n']
  else if c = '\\' || c = mark then ['\\', c]
  else if isExtending c || !isPrintable c then codeEscape c
  else [c]

/-- A text in double quotation marks. -/
def quote (s : String) : String :=
  String.ofList ('"' :: s.toList.flatMap (escape '"') ++ ['"'])

/-- A character in single quotation marks. -/
def quoteChar (c : Char) : String :=
  String.ofList ('\'' :: escape '\'' c ++ ['\''])

end PciBus.Text

import MarkupTemplate.Text.Printable

/-!
# Quoted text

Text and characters between quotes, with escapes for what could not be read off the page: the quote
in use, the backslash, controls, separators and combining characters.
-/

namespace MarkupTemplate.Text

/-- The hexadecimal digits of a number, in lower case and without leading zeros. -/
def hexDigits (n : Nat) : List Char := Nat.toDigits 16 n

def escapeChar (quote c : Char) : List Char :=
  if c = '\x00' then ['\\', '0']
  else if c = '\t' then ['\\', 't']
  else if c = '\r' then ['\\', 'r']
  else if c = '\n' then ['\\', 'n']
  else if c = '\\' || c = quote then ['\\', c]
  else if isCombining c || !isPrintable c then
    ['\\', 'u', '\x7b'] ++ hexDigits c.toNat ++ ['\x7d']
  else [c]

def quote (s : String) : String :=
  String.ofList ('"' :: s.toList.flatMap (escapeChar '"') ++ ['"'])

def quoteChar (c : Char) : String := String.ofList ('\'' :: escapeChar '\'' c ++ ['\''])

end MarkupTemplate.Text

import MarkupTemplate.Text.Lines

/-!
# Text in markup

Escaping the characters that markup gives a meaning, and quoting attribute values.
-/

namespace MarkupTemplate.Text

/-- The entity that stands for a character with a meaning in markup, the character itself
otherwise. -/
def escapeEntity (c : Char) : List Char :=
  match c with
  | '&' => "&amp;".toList
  | '<' => "&lt;".toList
  | '>' => "&gt;".toList
  | '"' => "&quot;".toList
  | '\'' => "&#39;".toList
  | c => [c]

def escapeMarkup (text : List Char) : List Char := text.flatMap escapeEntity

def escapeQuoted (text : List Char) : List Char :=
  text.flatMap fun c => if c = '\'' then [c] else escapeEntity c

/-- The text in double quotes, in single ones if it holds a double quote, or with entities inside
double quotes if it holds both. -/
def quoteAttribute (text : List Char) : List Char :=
  if !text.contains '"' then '"' :: text ++ ['"']
  else if !text.contains '\'' then '\'' :: text ++ ['\'']
  else '"' :: escapeQuoted text ++ ['"']

end MarkupTemplate.Text

import MarkupTemplate.Span
import MarkupTemplate.Text.Lines
import MarkupTemplate.Text.Width

/-!
# Excerpts of the source

A message is shown under the source line it is about, with carets below the span.
-/

namespace MarkupTemplate

/-- What an excerpt shows. -/
structure Excerpt where
  /-- The number of the line, counted from one. -/
  number : Nat
  code : List Char
  /-- The columns before the first caret. -/
  column : Nat
  /-- The number of carets, at least one. -/
  carets : Nat

namespace Excerpt

open Text

/-- The number of the line that holds a byte position, counted from zero, and the column of the
position. Past the last line the column is the width of that line. -/
def locate (width : List Char → Nat) : List (List Char) → Nat → Nat → Nat × Nat
  | [], line, _ => (line, 0)
  | text :: rest, line, offset =>
    if offset < byteLength text + 1 then
      (line, match splitAtByte? text offset with
        | some (before, _) => width before
        | none => offset)
    else if rest.isEmpty then (line + 1, width text)
    else locate width rest (line + 1) (offset - (byteLength text + 1))

/-- The excerpt for a span, with the display width as a parameter. -/
def ofSpan (width : List Char → Nat) (source : List Char) (span : Span) : Excerpt :=
  let lines := terminatedLines source
  let (line, column) := locate width lines 0 span.m
  { number := line + 1
    code := (lines[line]? <|> lines.getLast?).getD []
    column := column
    carets := max 1 (width ((slice? source span.m span.n).getD [])) }

/-- The excerpt over three lines: a margin, the code, and the carets with the message. -/
def render (e : Excerpt) (message : String) : String :=
  let number := toString e.number
  let pad := String.ofList (List.replicate number.length ' ')
  let lead := String.ofList (List.replicate e.column ' ')
  let carets := String.ofList (List.replicate e.carets '^')
  "\n " ++ pad ++ " |\n " ++ number ++ " | " ++ String.ofList e.code ++ "\n " ++ pad ++ " | " ++
    lead ++ carets ++ " " ++ message ++ "\n"

end Excerpt

end MarkupTemplate

import MarkupTemplate.Text.Lines

/-!
# Indentation of text

Adding, measuring and removing the indentation shared by the lines of a text.
An empty line is never indented and never counts; a line of blanks is not empty.
-/

namespace MarkupTemplate.Text

/-- A character that indentation is made of. -/
def isIndentChar (c : Char) : Bool := c == ' ' || c == '\t'

/-- `indentLines` from a place where a line has just started, or not. -/
def indentFrom (indent : List Char) : Bool → List Char → List Char
  | _, [] => []
  | atStart, c :: cs =>
    if c = '\n' then '\n' :: indentFrom indent true cs
    else if atStart then indent ++ c :: indentFrom indent false cs
    else c :: indentFrom indent false cs

/-- Writes `indent` at the start of every line that is not empty. -/
def indentLines (indent text : List Char) : List Char := indentFrom indent true text

/-- The longest text that both texts start with. -/
def sharedLead : List Char → List Char → List Char
  | a :: as, b :: bs => if a = b then a :: sharedLead as bs else []
  | _, _ => []

/-- The longest run of spaces and tabs that every line starts with, empty lines apart. -/
def commonIndent (text : List Char) : List Char :=
  match (splitLines text).filter (!·.isEmpty) with
  | [] => []
  | line :: lines => lines.foldl sharedLead (line.takeWhile isIndentChar)

/-- Takes `indent` away from the start of every line that begins with it. -/
def removeIndent (indent text : List Char) : List Char :=
  (splitKeepingNewlines text).flatMap fun line => (stripLead? indent line).getD line

/-- Takes the indentation that the lines after the first share away from them. -/
def outdentTail (text : List Char) : List Char :=
  match afterFirstLine? text with
  | none => text
  | some rest => firstLine text ++ '\n' :: removeIndent (commonIndent rest) rest

/-! ### No indentation -/

theorem indentFrom_nil (atStart : Bool) (text : List Char) : indentFrom [] atStart text = text := by
  induction text generalizing atStart with
  | nil => rfl
  | cons c cs ih =>
    unfold indentFrom
    split
    · next h => rw [ih, h]
    · split <;> simp [ih]

theorem indentLines_nil (text : List Char) : indentLines [] text = text := indentFrom_nil true text

end MarkupTemplate.Text

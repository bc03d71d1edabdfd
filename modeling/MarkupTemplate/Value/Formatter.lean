import MarkupTemplate.Text.Markup
import MarkupTemplate.Value.Text

/-!
# Formatters

Formatters other than the plain one.
-/

namespace MarkupTemplate.Formatter

/-- Escapes strings for markup and writes other scalars as they are. -/
def escaped : Formatter := fun v =>
  match v with
  | .string s => .ok (String.ofList (Text.escapeMarkup s.toList))
  | v => plain v

/-- Refuses `none` with a message. -/
def refusingNone : Formatter := fun v =>
  match v with
  | .none => .error (some "unable to format None")
  | v => plain v

/-- Marks every value with a question mark, and refuses `none` without a message. -/
def marked : Formatter := fun v =>
  match v with
  | .none => .error none
  | v => ("?" ++ ·) <$> escaped v

end MarkupTemplate.Formatter

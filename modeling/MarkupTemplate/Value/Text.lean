import MarkupTemplate.Decimal.Notation
import MarkupTemplate.Value.Host

/-!
# The text of scalar values

How scalars are written in attributes, in concatenations and by the formatters. A formatter decides
how the value of an expression stands in the text of a document.
-/

namespace MarkupTemplate

variable {κ : Type}

/-- The text of a scalar; `none` is written as nothing, other values have no text. -/
def Value.scalarText? : Value κ → Option String
  | .none => some ""
  | .bool b => some (if b then "true" else "false")
  | .integer i => some (toString i.toInt)
  | .float x => some (Decimal.write x)
  | .string s => some s
  | _ => Option.none

/-- The text of a value where only scalars are allowed. -/
def Value.text (v : Value κ) : Except Error String :=
  match v.scalarText? with
  | some s => .ok s
  | Option.none => fail (.notScalar v.kind)

def Value.texts : List (Value κ) → Except Error (List String)
  | [] => .ok []
  | v :: vs => do
    let s ← v.text
    let rest ← Value.texts vs
    .ok (s :: rest)

/-! ### Formatters -/

/-- Writes a value into text, or refuses it with a message of its own or none. -/
abbrev Formatter := Value Shown → Except (Option String) String

namespace Formatter

/-- Writes scalars as they are and refuses all other values. -/
def plain : Formatter := fun v =>
  match v.scalarText? with
  | some s => .ok s
  | none => .error (some s!"expression evaluated to unformattable type {v.kind.name}")

end Formatter

end MarkupTemplate

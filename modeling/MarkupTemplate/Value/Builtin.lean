import MarkupTemplate.Text.Case
import MarkupTemplate.Value.Text

/-!
# Functions

A function is called with the filtered value first and the arguments written after its name.
-/

namespace MarkupTemplate

variable {κ : Type}

/-- A size as an integer; one that does not fit becomes the greatest integer. -/
def Value.ofSize (n : Nat) : Value κ :=
  .integer (if n ≤ Int64.maxValue.toInt then Int64.ofNat n else Int64.maxValue)

/-- Replaces every occurrence of a text that is not empty, from left to right. -/
def replaceFrom (pattern replacement : List Char) : Nat → List Char → List Char
  | _, [] => []
  | skip + 1, _ :: cs => replaceFrom pattern replacement skip cs
  | 0, c :: cs =>
    if pattern.isPrefixOf (c :: cs) then
      replacement ++ replaceFrom pattern replacement (pattern.length - 1) cs
    else c :: replaceFrom pattern replacement 0 cs

/-- Replaces every occurrence of a text. The empty text occurs around every character. -/
def replaceAll (pattern replacement text : List Char) : List Char :=
  if pattern.isEmpty then replacement ++ text.flatMap fun c => c :: replacement
  else replaceFrom pattern replacement 0 text

namespace Builtin

/-- The text of an argument that must be a string. -/
def stringArgument (f : Builtin) : Value κ → Except Error String
  | .string s => .ok s
  | v => fail (.argumentNotString f v.kind)

/-- Applies a function to a text. -/
def onText (f : Builtin) (g : List Char → List Char) (v : Value κ) : Except Error (Value κ) := do
  let s ← f.stringArgument v
  .ok (.string (String.ofList (g s.toList)))

/-- The first element of a list, or `none`. -/
def firstOf : Value κ → Except Error (Value κ)
  | .list items => .ok (items.head?.getD .none)
  | v => fail (.unsupportedArgument .first v.kind)

def lastOf : Value κ → Except Error (Value κ)
  | .list items => .ok (items.getLast?.getD .none)
  | v => fail (.unsupportedArgument .last v.kind)

/-- The number of characters, elements, entries or nodes. -/
def lengthOf : Value κ → Except Error (Value κ)
  | .string s => .ok (.ofSize s.toList.length)
  | .list items => .ok (.ofSize items.length)
  | .map entries => .ok (.ofSize entries.length)
  | .nodes ns => .ok (.ofSize ns.length)
  | v => fail (.unsupportedArgument .len v.kind)

/-- The elements or characters in reverse order. -/
def reversed : Value κ → Except Error (Value κ)
  | .string s => .ok (.string (String.ofList s.toList.reverse))
  | .list items => .ok (.list items.reverse)
  | v => fail (.unsupportedArgument .reverse v.kind)

/-- The second value in place of `none`. -/
def orDefault : Value κ → Value κ → Value κ
  | .none, d => d
  | v, _ => v

/-- The element of a list at an index or of a map under a key, or `none`. What `none` holds is
`none`, so that look-ups can be chained. -/
def element : Value κ → Value κ → Except Error (Value κ)
  | .none, _ => .ok .none
  | .list items, .integer i =>
    .ok (if 0 ≤ i.toInt then (items[i.toInt.toNat]?).getD .none else .none)
  | .map entries, .string s => .ok ((Dict.get? s entries).getD .none)
  | .list _, key => fail (.listIndexedBy key.kind)
  | .map _, key => fail (.mapIndexedBy key.kind)
  | v, _ => fail (.notIndexable v.kind)

/-- The texts of the elements of a list with a separator between them. -/
def joined (list separator : Value κ) : Except Error (Value κ) := do
  let separator ← stringArgument .join separator
  match list with
  | .list items => do
    let texts ← Value.texts items
    .ok (.string (String.intercalate separator texts))
  | v => fail (.unsupportedArgument .join v.kind)

def call : Builtin → List (Value κ) → Except Error (Value κ)
  | .lower, [v] => onText .lower Text.lower v
  | .upper, [v] => onText .upper Text.upper v
  | .replace, [v, pattern, replacement] => do
    let s ← stringArgument .replace v
    let pattern ← stringArgument .replace pattern
    let replacement ← stringArgument .replace replacement
    .ok (.string (String.ofList (replaceAll pattern.toList replacement.toList s.toList)))
  | .first, [v] => firstOf v
  | .last, [v] => lastOf v
  | .len, [v] => lengthOf v
  | .reverse, [v] => reversed v
  | .default, [v, d] => .ok (orDefault v d)
  | .get, [v, key] => element v key
  | .join, [list, separator] => joined list separator
  | f, args => fail (.wrongArity f args.length)

end Builtin

def Function.call [Host] [Shows κ] : Function → List (Value κ) → Except Error (Value κ)
  | .builtin f, args => f.call args
  | .host serial _, args => (Host.function serial).call Shows.shown args

end MarkupTemplate

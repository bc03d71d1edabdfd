import MarkupTemplate.Text.Case
import MarkupTemplate.Value.Host

/-!
# Custom tags

Tags that write something other than markup: the size of their body, the body in capitals, the body
in parentheses, and whether a body that must be empty is.
-/

namespace MarkupTemplate

namespace Tag

def counter (origin : TagOrigin) : Tag :=
  { origin, name := "count", isTextual := false, expansion := .custom 0 }

def capitals (origin : TagOrigin) : Tag :=
  { origin, name := "upper", isPure := false, expansion := .custom 1 }

def parentheses (origin : TagOrigin) : Tag :=
  { origin, name := "paren", isTextual := false, expansion := .custom 2 }

def emptiness (origin : TagOrigin) : Tag :=
  { origin, name := "vnodes", isVoid := true, isTextual := false, expansion := .custom 3 }

def custom? (origin : TagOrigin) : String → Option Tag
  | "count" => some (counter origin)
  | "upper" => some (capitals origin)
  | "paren" => some (parentheses origin)
  | "vnodes" => some (emptiness origin)
  | _ => none

end Tag

/-- How many nodes a body has. -/
def TagBody.size {κ : Type} : TagBody κ → String
  | .text _ => "text"
  | .nodes ns _ => s!"{ns.length} nodes"

/-- What a custom tag writes. -/
def expandCustom (serial : Nat) (body : TagBody Shown) (positional : List (Value Shown))
    (named : List (String × Value Shown)) : Except Error String :=
  match serial with
  | 0 => .ok body.size
  | 1 => (fun s => String.ofList (Text.upper s.toList)) <$> body.render
  | 2 =>
    if body.isEmpty then .ok s!"(empty {positional.length} {named.length})"
    else (fun s => s!"({s})") <$> body.render
  | _ => .ok (if body.isEmpty then "[vnodes true]" else "[vnodes false]")

end MarkupTemplate

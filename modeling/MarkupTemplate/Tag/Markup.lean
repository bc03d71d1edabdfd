import MarkupTemplate.Text.Markup
import MarkupTemplate.Value.Text

/-!
# Writing tags

What a tag makes of its body and attributes.
-/

namespace MarkupTemplate

variable {κ : Type}

/-- The text of an attribute: the texts of the elements of a list with blanks between them, or the
text of a scalar. -/
def attributeText : Value κ → Except Error String
  | .list items => (String.intercalate " " ·) <$> Value.texts items
  | v => v.text

/-- A positional attribute of the tag `tag`. Nothing is written for `none` and `false`. -/
def writePositional (tag : String) : Value κ → Except Error String
  | .none | .bool false => .ok ""
  | .bool true => fail (.positionalTrue tag)
  | v => (" " ++ ·) <$> attributeText v

/-- A named attribute. Nothing is written for `none` and `false`, and the name for `true`. -/
def writeNamed (dialect : Dialect) (name : String) : Value κ → Except Error String
  | .none | .bool false => .ok ""
  | .bool true =>
    .ok (match dialect with
      | .html => " " ++ name
      | .xhtml => " " ++ name ++ "=\"" ++ name ++ "\"")
  | v => do
    let text ← attributeText v
    .ok (" " ++ name ++ "=" ++ String.ofList (Text.quoteAttribute text.toList))

def writeAllPositional (tag : String) : List (Value κ) → Except Error String
  | [] => .ok ""
  | v :: vs => do
    let s ← writePositional tag v
    let rest ← writeAllPositional tag vs
    .ok (s ++ rest)

def writeAllNamed (dialect : Dialect) : List (String × Value κ) → Except Error String
  | [] => .ok ""
  | (name, v) :: rest => do
    let s ← writeNamed dialect name v
    let more ← writeAllNamed dialect rest
    .ok (s ++ more)

/-- The newline that puts the closing tag of an outlined body on a line of its own. -/
def closingBreak (body : String) : String :=
  if body.toList.head? == some '\n' && body.toList.getLast? != some '\n' then "\n" else ""

/-- An opening tag with its attributes, the body, and a closing tag; for a tag without a body the
opening tag only. -/
def writeMarkup (name : String) (isVoid : Bool) (dialect : Dialect) (body : TagBody κ)
    (positional : List (Value κ)) (named : List (String × Value κ)) : Except Error String :=
  if isVoid && !body.isEmpty then fail (.bodyOfVoid name)
  else do
    let positional ← writeAllPositional name positional
    let named ← writeAllNamed dialect named
    let opening := "<" ++ name ++ positional ++ named
    if isVoid then
      .ok (opening ++ match dialect with | .html => ">" | .xhtml => " />")
    else do
      let text ← body.render
      .ok (opening ++ ">" ++ text ++ closingBreak text ++ "</" ++ name ++ ">")

def Tag.expand [Host] [Shows κ] (tag : Tag) (body : TagBody κ) (positional : List (Value κ))
    (named : List (String × Value κ)) : Except Error String :=
  match tag.expansion with
  | .markup dialect => writeMarkup tag.name tag.isVoid dialect body positional named
  | .custom serial =>
    Host.expand serial body.shown (positional.map Value.shown) (named.map (Prod.map id Value.shown))

end MarkupTemplate

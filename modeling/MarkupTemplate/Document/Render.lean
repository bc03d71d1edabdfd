import MarkupTemplate.Document.Indentation
import MarkupTemplate.Tag.Markup
import MarkupTemplate.Text.Indent

/-!
# Rendering

The text of a document is put together from the leaves up: an element's body is written by its tag,
goes on a new line if the element is outline, and is then indented.
-/

namespace MarkupTemplate

variable {κ : Type}

/-- The text of an element in its place. -/
def layOut (outline : Bool) (indent : Option Indent) (text : String) : Except Error String :=
  let text := if outline then "\n" ++ text else text
  match indent with
  | none => .ok text
  | some (.relative indent) =>
    .ok (String.ofList (Text.indentLines indent.toList text.toList))
  | some (.absolute indent) => fail (.indentStillAbsolute indent)

variable [Host] [Shows κ]

/-- The text of an element from its body and what rendering that gives. -/
def Head.write (head : Head (Value κ)) (body : List (Node κ)) (rendered : Except Error String) :
    Except Error String :=
  match head.tag with
  | none => rendered
  | some tag =>
    if tag.isVoid && !body.isEmpty then fail (.bodyOfVoid tag.name)
    else if tag.isTextual then do
      let text ← rendered
      tag.expand (.text text) head.positional head.named
    else tag.expand (.nodes body rendered) head.positional head.named

/-- The text of a document without one newline in front of it. -/
def withoutLeadingNewline (text : String) : String := String.ofList (Text.stripNewline text.toList)

mutual

def Node.render : Node κ → Except Error String
  | .text s => .ok s
  | .root body => withoutLeadingNewline <$> Node.renderList body
  | .element head indent body => do
    let text ← head.write body (Node.renderList body)
    layOut head.outline indent text

def Node.renderList : List (Node κ) → Except Error String
  | [] => .ok ""
  | n :: ns => do
    let s ← n.render
    let rest ← Node.renderList ns
    .ok (s ++ rest)

end

/-- The text of a document. The first line does not start with the newline of its block. -/
def Document.render (d : Document κ) : Except Error String :=
  withoutLeadingNewline <$> Node.renderList d.body

end MarkupTemplate

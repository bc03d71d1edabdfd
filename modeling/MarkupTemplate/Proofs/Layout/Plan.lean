import MarkupTemplate.Document.Render
import MarkupTemplate.Proofs.Layout.Margins
import MarkupTemplate.Proofs.Result

/-!
# Planned documents

A plan is a tree of texts and elements as it is meant to stand on the page, with every indentation
measured from the left margin. It can be built into a document, and it can be printed as if there
were no indentation, with the margin of every character kept beside it.
-/

namespace MarkupTemplate

variable {κ : Type}

/-- A tag that writes markup. -/
structure MarkupTag where
  origin : TagOrigin
  name : String
  isVoid : Bool
  dialect : Dialect

def MarkupTag.toTag (tag : MarkupTag) : Tag := .markup tag.origin tag.name tag.isVoid tag.dialect

/-- What a planned element holds besides its body and its indentation. -/
structure PlanHead (κ : Type) where
  tag : Option MarkupTag := none
  positional : List (Value κ) := []
  named : List (String × Value κ) := []
  outline : Bool := false

def PlanHead.toHead (head : PlanHead κ) : Head (Value κ) :=
  ⟨head.tag.map (·.toTag), head.positional, head.named, head.outline⟩

inductive Plan (κ : Type) where
  | text (s : String)
  | element (head : PlanHead κ) (indent : Option String) (body : List (Plan κ))

namespace Plan

/-- An indentation of blanks that starts with a newline and goes at least as far as that of the
parent. -/
structure Deepens (parent indent : String) : Prop where
  newline : indent.toList.head? = some '\n'
  blank : ∀ c ∈ indent.toList.tail, Text.isIndentChar c = true
  extend : parent.toList <+: indent.toList

mutual

/-- Tags without a body have none, only elements on a line of their own are indented, and every
indentation goes at least as far as that of the closest indented element around it, or `parent`. -/
def WellLaid (parent : String) : Plan κ → Prop
  | .text _ => True
  | .element head none body => (∀ tag ∈ head.tag, tag.isVoid → body = []) ∧ AllWellLaid parent body
  | .element head (some indent) body => (∀ tag ∈ head.tag, tag.isVoid → body = []) ∧
      head.outline = true ∧ Deepens parent indent ∧ AllWellLaid indent body

def AllWellLaid (parent : String) : List (Plan κ) → Prop
  | [] => True
  | p :: ps => p.WellLaid parent ∧ AllWellLaid parent ps

end

mutual

/-- The element of a plan, made after those of its body. -/
def build : Plan κ → Except Error (Node κ)
  | .text s => .ok (.text s)
  | .element head indent body => do
    let body ← buildAll body
    Node.ofHead head.toHead (indent.map .absolute) body

def buildAll : List (Plan κ) → Except Error (List (Node κ))
  | [] => .ok []
  | p :: ps => do
    let n ← p.build
    let ns ← buildAll ps
    .ok (n :: ns)

end

/-- The document of some plans. -/
def document (plans : List (Plan κ)) : Except Error (Document κ) := do
  let nodes ← buildAll plans
  Document.ofNodes nodes

end Plan

namespace Plan

mutual

/-- The plan without any indentation. -/
def bare : Plan κ → Plan κ
  | .text s => .text s
  | .element head _ body => .element head none (bareAll body)

def bareAll : List (Plan κ) → List (Plan κ)
  | [] => []
  | p :: ps => p.bare :: bareAll ps

end

mutual

theorem wellLaid_bare {parent outer : String} :
    ∀ {plan : Plan κ}, plan.WellLaid parent → plan.bare.WellLaid outer
  | .text _, _ => trivial
  | .element _ none _, ⟨empty, body⟩ =>
    ⟨fun tag found void => by rw [empty tag found void, bareAll], allWellLaid_bareAll body⟩
  | .element _ (some _) _, ⟨empty, _, _, body⟩ =>
    ⟨fun tag found void => by rw [empty tag found void, bareAll], allWellLaid_bareAll body⟩

theorem allWellLaid_bareAll {parent outer : String} :
    ∀ {plans : List (Plan κ)}, AllWellLaid parent plans → AllWellLaid outer (bareAll plans)
  | [], _ => trivial
  | _ :: _, ⟨first, rest⟩ => ⟨wellLaid_bare first, allWellLaid_bareAll rest⟩

end

end Plan

/-! ### Printing -/

/-- The opening tag with its attributes. -/
def MarkupTag.opening (tag : MarkupTag) (positional : List (Value κ))
    (named : List (String × Value κ)) : Except Error String := do
  let positional ← writeAllPositional tag.name positional
  let named ← writeAllNamed tag.dialect named
  .ok ("<" ++ tag.name ++ positional ++ named ++ match tag.isVoid, tag.dialect with
    | true, .xhtml => " />"
    | _, _ => ">")

/-- What stands after a body: the closing tag, on a line of its own if the body starts on one and
does not end with one. -/
def MarkupTag.closing (tag : MarkupTag) (body : List Char) : String :=
  closingBreak (String.ofList body) ++ "</" ++ tag.name ++ ">"

/-- A printed body in its tag. What the tag writes has the margin of the element. -/
def PlanHead.printTag (head : PlanHead κ) (margin : List Char) (body : List Text.Marked) :
    Except Error (List Text.Marked) :=
  match head.tag with
  | none => .ok body
  | some tag => do
    let opening ← tag.opening head.positional head.named
    if tag.isVoid then .ok (Text.mark margin opening.toList)
    else .ok (Text.mark margin opening.toList ++ body ++
      Text.mark margin (tag.closing (Text.unmarked body)).toList)

/-- The text of an element with some body, behind a newline if it stands on a line of its own. -/
def PlanHead.print (head : PlanHead κ) (margin : List Char) (body : List Text.Marked) :
    Except Error (List Text.Marked) := do
  let text ← head.printTag margin body
  .ok (if head.outline then ('\n', margin) :: text else text)

namespace Plan

mutual

/-- The text of a plan without any indentation. The margin of a character is the indentation, without
its newline, of the innermost indented element that the character is of, or the given margin if there
is none. -/
def print (margin : List Char) : Plan κ → Except Error (List Text.Marked)
  | .text s => .ok (Text.mark margin s.toList)
  | .element head indent body => do
    let margin := (indent.map (·.toList.tail)).getD margin
    let body ← printAll margin body
    head.print margin body

def printAll (margin : List Char) : List (Plan κ) → Except Error (List Text.Marked)
  | [] => .ok []
  | p :: ps => do
    let text ← p.print margin
    let rest ← printAll margin ps
    .ok (text ++ rest)

end

end Plan

/-! ### Printing without margins -/

namespace Text

/-- The text with no margins. -/
def bare (text : List Marked) : List Marked := mark [] (unmarked text)

theorem bare_append (text more : List Marked) : bare (text ++ more) = bare text ++ bare more := by
  simp [bare, mark, unmarked]

theorem bare_mark (margin text : List Char) : bare (mark margin text) = mark [] text := by
  rw [bare, unmarked_mark]

theorem unmarked_bare (text : List Marked) : unmarked (bare text) = unmarked text := by
  rw [bare, unmarked_mark]

end Text

open Text (bare bare_append bare_mark unmarked_bare)

theorem PlanHead.printTag_bare (head : PlanHead κ) (margin : List Char) (body : List Text.Marked) :
    head.printTag [] (bare body) = bare <$> head.printTag margin body := by
  unfold printTag
  split
  · rfl
  · next tag _ =>
    cases tag.opening head.positional head.named with
    | error e => rfl
    | ok opening =>
      simp only [ok_bind, unmarked_bare]
      split <;> simp only [map_ok, bare_append, bare_mark]

theorem PlanHead.print_bare (head : PlanHead κ) (margin : List Char) (body : List Text.Marked) :
    head.print [] (bare body) = bare <$> head.print margin body := by
  rw [print, print, printTag_bare head margin]
  cases head.printTag margin body with
  | error e => rfl
  | ok text =>
    simp only [map_ok, ok_bind]
    cases head.outline <;> rfl

namespace Plan

mutual

theorem print_bare (margin : List Char) :
    ∀ plan : Plan κ, plan.bare.print [] = Text.bare <$> plan.print margin
  | .text s => by rw [bare, print, print, map_ok, bare_mark]
  | .element head indent body => by
    rw [bare, print, print]
    simp only [Option.map_none, Option.getD_none]
    rw [printAll_bareAll ((indent.map (·.toList.tail)).getD margin) body]
    cases printAll ((indent.map (·.toList.tail)).getD margin) body with
    | error e => rfl
    | ok text => exact head.print_bare _ text

theorem printAll_bareAll (margin : List Char) :
    ∀ plans : List (Plan κ), printAll [] (bareAll plans) = Text.bare <$> printAll margin plans
  | [] => rfl
  | plan :: plans => by
    rw [bareAll, printAll, printAll, print_bare margin plan, printAll_bareAll margin plans]
    cases plan.print margin with
    | error e => rfl
    | ok text =>
      cases printAll margin plans with
      | error e => rfl
      | ok more => simp only [map_ok, ok_bind, bare_append]

end

end Plan

end MarkupTemplate

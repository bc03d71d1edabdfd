import MarkupTemplate.Document.Indentation
import MarkupTemplate.Text.Blank

/-!
# Selecting elements

A selector states criteria on the tag and the named attributes of an element. Criteria that are not
set match anything.
-/

namespace MarkupTemplate

variable {κ : Type}

structure Selector (κ : Type) where
  tag : Option String := none
  id : Option String := none
  /-- One of the words or strings of the attribute `class`. -/
  className : Option String := none
  /-- Named attributes and the values they must equal. -/
  attrs : List (String × Value κ) := []

def Value.hasClass (name : String) : Value κ → Bool
  | .string s => (Text.words s.toList).contains name.toList
  | .list items => items.any fun v => v.string? == some name
  | _ => false

/-- A criterion holds if it is set. -/
def holdsIfSet {α : Type} (criterion : Option α) (p : α → Bool) : Bool :=
  match criterion with
  | none => true
  | some a => p a

def Head.hasAttr [BEq κ] (head : Head (Value κ)) (name : String) (value : Value κ) : Bool :=
  match head.named? name with
  | some v => v == value
  | none => false

/-- The element meets every criterion that is set. -/
def Selector.accepts [BEq κ] (sel : Selector κ) (head : Head (Value κ)) : Bool :=
  holdsIfSet sel.tag (fun name => (head.tag.map (·.name)) == some name) &&
  holdsIfSet sel.id (fun id => (head.named? "id").bind (·.string?) == some id) &&
  holdsIfSet sel.className (fun name => ((head.named? "class").map (·.hasClass name)).getD false) &&
  sel.attrs.all fun (name, value) => head.hasAttr name value

/-- The node is an element that meets every criterion. -/
def Selector.matches [BEq κ] (sel : Selector κ) : Node κ → Bool
  | .element head _ _ => sel.accepts head
  | _ => false

mutual

/-- All nodes below a node, each before those below it. -/
def Node.descendants : Node κ → List (Node κ)
  | .text _ => []
  | .root body => Node.preorder body
  | .element _ _ body => Node.preorder body

def Node.preorder : List (Node κ) → List (Node κ)
  | [] => []
  | n :: ns => n :: (n.descendants ++ Node.preorder ns)

end

mutual

/-- The elements below a node that a selector matches, in document order. -/
def Node.select [BEq κ] (sel : Selector κ) : Node κ → List (Node κ)
  | .text _ => []
  | .root body => Node.selectList sel body
  | .element _ _ body => Node.selectList sel body

def Node.selectList [BEq κ] (sel : Selector κ) : List (Node κ) → List (Node κ)
  | [] => []
  | n :: ns =>
    let below := n.select sel ++ Node.selectList sel ns
    if sel.matches n then n :: below else below

end

def Document.select [BEq κ] (sel : Selector κ) (d : Document κ) : List (Node κ) :=
  Node.selectList sel d.body

end MarkupTemplate

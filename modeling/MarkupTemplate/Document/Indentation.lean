import MarkupTemplate.Text.Lines
import MarkupTemplate.Value.Basic

/-!
# Placing nodes

Nodes are built with absolute indentation and become relative to their parent when that is placed.
Elements without indentation of their own are transparent: what happens to them happens to their
children. A step that fails on one node leaves the nodes before it changed and those after it alone.
-/

namespace MarkupTemplate

variable {κ : Type}

/-- What `indent` adds to `parent`, if it extends it. -/
def extension? (parent indent : String) : Option String :=
  (Text.stripLead? parent.toList indent.toList).map String.ofList

mutual

/-- The node with its absolute indentation made relative to that of its parent, and the error that
stopped this, if any. -/
def Node.demote (parent : String) : Node κ → Node κ × Option Error
  | .text s => (.text s, none)
  | .root body => (.root body, none)
  | .element head none body =>
    let (body', error) := Node.demoteList parent body
    (.element head none body', error)
  | .element head (some (.absolute indent)) body =>
    match extension? parent indent with
    | some rest => (.element head (some (.relative rest)) body, none)
    | none =>
      (.element head (some (.absolute indent)) body,
        some (Cause.indentOutsideParent indent parent).toError)
  | .element head (some (.relative indent)) body =>
    (.element head (some (.relative indent)) body, none)

def Node.demoteList (parent : String) : List (Node κ) → List (Node κ) × Option Error
  | [] => ([], none)
  | n :: ns =>
    match n.demote parent with
    | (n', some error) => (n' :: ns, some error)
    | (n', none) =>
      let (ns', error) := Node.demoteList parent ns
      (n' :: ns', error)

end

mutual

/-- The node with its relative indentation measured from the margin, below `base`. -/
def Node.anchor (base : String) : Node κ → Node κ
  | .text s => .text s
  | .root body => .root body
  | .element head none body => .element head none (Node.anchorList base body)
  | .element head (some (.relative indent)) body =>
    .element head (some (.absolute (base ++ indent))) body
  | .element head (some (.absolute indent)) body => .element head (some (.absolute indent)) body

def Node.anchorList (base : String) : List (Node κ) → List (Node κ)
  | [] => []
  | n :: ns => n.anchor base :: Node.anchorList base ns

end

/-- Nodes demoted below a parent, or the error of the first that fails. -/
def demoteAll (parent : String) (nodes : List (Node κ)) : Except Error (List (Node κ)) :=
  match Node.demoteList parent nodes with
  | (nodes', none) => .ok nodes'
  | (_, some error) => .error error

/-- The element with an absolute indentation and its children relative to it, and the error that
stopped this, if any. -/
def Node.place (indent : String) : Node κ → Node κ × Option Error
  | .element head before body =>
    if indent.toList.head? == some '\n' then
      match Node.demoteList indent body with
      | (body', none) => (.element head (some (.absolute indent)) body', none)
      | (body', some error) => (.element head before body', some error)
    else (.element head before body, some (Cause.indentWithoutNewline indent).toError)
  | n => (n, none)

/-- A new element. A tag without a body refuses one, and an absolute indentation demotes the
children. -/
def Node.ofHead (head : Head (Value κ)) (indent : Option Indent) (body : List (Node κ)) :
    Except Error (Node κ) :=
  match head.tag with
  | some tag => if tag.isVoid && !body.isEmpty then fail (.bodyOfVoid tag.name) else build
  | none => build
where
  /-- The element, placed if its indentation is absolute. -/
  build : Except Error (Node κ) :=
    match indent with
    | some (.absolute indent) =>
      match Node.place indent (.element head none body) with
      | (n, none) => .ok n
      | (_, some error) => .error error
    | indent => .ok (.element head indent body)

def Node.group (outline : Bool) (indent : Option Indent) (body : List (Node κ)) :
    Except Error (Node κ) :=
  Node.ofHead { outline } indent body

/-- A document: nodes demoted below the left margin. -/
structure Document (κ : Type) where
  body : List (Node κ)

def Document.ofNodes (nodes : List (Node κ)) : Except Error (Document κ) :=
  Document.mk <$> demoteAll "\n" nodes

def Document.toNode (d : Document κ) : Node κ := .root d.body

end MarkupTemplate

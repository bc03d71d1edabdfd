import MarkupTemplate.Value.Basic

/-!
# Contents

Whatever can be flattened into a list of nodes: nodes, lists of contents to any depth, and values
that hold nodes.
-/

namespace MarkupTemplate

variable {κ : Type}

/-- Something that may hold nodes. -/
inductive Content (κ : Type) where
  | none
  | node (node : Node κ)
  | nodes (nodes : List (Node κ))
  | list (items : List (Content κ))
  | value (value : Value κ)

mutual

/-- The nodes that a value holds; `none` holds none and a list those of its elements. -/
def Value.flatten : Value κ → Except Error (List (Node κ))
  | .none => .ok []
  | .nodes ns => .ok ns
  | .list items => Value.flattenList items
  | v => fail (.notNodes v.kind)

def Value.flattenList : List (Value κ) → Except Error (List (Node κ))
  | [] => .ok []
  | v :: vs => do
    let ns ← v.flatten
    let rest ← Value.flattenList vs
    .ok (ns ++ rest)

end

mutual

def Content.flatten : Content κ → Except Error (List (Node κ))
  | .none => .ok []
  | .node n => .ok [n]
  | .nodes ns => .ok ns
  | .list items => Content.flattenList items
  | .value v => v.flatten

def Content.flattenList : List (Content κ) → Except Error (List (Node κ))
  | [] => .ok []
  | c :: cs => do
    let ns ← c.flatten
    let rest ← Content.flattenList cs
    .ok (ns ++ rest)

end

end MarkupTemplate

import MarkupTemplate.Tag
import MarkupTemplate.Dict

/-!
# Values and nodes

Values are what expressions evaluate to. They can hold nodes of the document tree, and nodes hold
values as attributes. The parameter `κ` is the type of the closures that a script makes: values from
outside a script have none, and their type is `Value Empty`.
-/

namespace MarkupTemplate

/-- The indentation of a node. -/
inductive Indent where
  /-- Measured from the left margin of the document; starts with a newline. -/
  | absolute (indent : String)
  | relative (indent : String)
  deriving DecidableEq, Repr

/-- What an element holds besides its body and its place: the tag that writes it, if any, the
attributes, and whether it starts on a line of its own. -/
structure Head (ν : Type) where
  tag : Option Tag := none
  positional : List ν := []
  named : List (String × ν) := []
  outline : Bool := false

mutual

/-- What expressions evaluate to. -/
inductive Value (κ : Type) where
  | none
  | bool (b : Bool)
  | integer (i : Int64)
  | float (x : Float)
  | string (s : String)
  | list (items : List (Value κ))
  /-- Entries in ascending order of their keys. -/
  | map (entries : List (String × Value κ))
  | nodes (nodes : List (Node κ))
  /-- A tag, written when the document is rendered. -/
  | tag (tag : Tag)
  /-- A definition of the script, expanded during translation. -/
  | closure (c : κ)
  | function (f : Function)

/-- A node of the document tree. -/
inductive Node (κ : Type) where
  | text (s : String)
  | root (body : List (Node κ))
  | element (head : Head (Value κ)) (indent : Option Indent) (body : List (Node κ))

end

variable {κ μ : Type}

instance : Inhabited (Value κ) := ⟨.none⟩

/-- The kind that messages name. -/
def Value.kind : Value κ → Kind
  | .none => .none
  | .bool _ => .bool
  | .integer _ => .integer
  | .float _ => .float
  | .string _ => .string
  | .list _ => .list
  | .map _ => .map
  | .nodes _ => .nodes
  | .tag _ | .closure _ => .callable
  | .function _ => .function

/-- The value counts as true in a condition. -/
def Value.isTruthy : Value κ → Bool
  | .none => false
  | .bool b => b
  | .integer i => i != 0
  | .float x => x != 0
  | .string s => !s.isEmpty
  | .list items => !items.isEmpty
  | .map entries => !entries.isEmpty
  | .nodes ns => !ns.isEmpty
  | .tag _ | .closure _ | .function _ => true

def Value.string? : Value κ → Option String
  | .string s => some s
  | _ => Option.none

/-! ### Replacing closures -/

mutual

/-- Replaces every closure in a value. -/
def Value.mapClosures (f : κ → μ) : Value κ → Value μ
  | .none => .none
  | .bool b => .bool b
  | .integer i => .integer i
  | .float x => .float x
  | .string s => .string s
  | .list items => .list (Value.mapClosuresList f items)
  | .map entries => .map (Value.mapClosuresEntries f entries)
  | .nodes ns => .nodes (Node.mapClosuresList f ns)
  | .tag tag => .tag tag
  | .closure c => .closure (f c)
  | .function g => .function g

def Value.mapClosuresList (f : κ → μ) : List (Value κ) → List (Value μ)
  | [] => []
  | v :: vs => v.mapClosures f :: Value.mapClosuresList f vs

def Value.mapClosuresEntries (f : κ → μ) : List (String × Value κ) → List (String × Value μ)
  | [] => []
  | (k, v) :: rest => (k, v.mapClosures f) :: Value.mapClosuresEntries f rest

def Node.mapClosures (f : κ → μ) : Node κ → Node μ
  | .text s => .text s
  | .root body => .root (Node.mapClosuresList f body)
  | .element ⟨tag, positional, named, outline⟩ indent body =>
    .element
      ⟨tag, Value.mapClosuresList f positional, Value.mapClosuresEntries f named, outline⟩
      indent (Node.mapClosuresList f body)

def Node.mapClosuresList (f : κ → μ) : List (Node κ) → List (Node μ)
  | [] => []
  | n :: ns => n.mapClosures f :: Node.mapClosuresList f ns

end

/-- A value from outside, as a value of a script. -/
def Value.lift (v : Value Empty) : Value κ := v.mapClosures nofun

/-! ### Equality -/

mutual

/-- Equality as attributes are compared. Nodes equal nothing, and a NaN does not equal itself. -/
def Value.equal [BEq κ] : Value κ → Value κ → Bool
  | .none, .none => true
  | .bool a, .bool b => a == b
  | .integer a, .integer b => a == b
  | .float a, .float b => a == b
  | .string a, .string b => a == b
  | .list a, .list b => Value.equalList a b
  | .map a, .map b => Value.equalEntries a b
  | .tag a, .tag b => a.same b
  | .closure a, .closure b => a == b
  | .function a, .function b => a == b
  | _, _ => false

def Value.equalList [BEq κ] : List (Value κ) → List (Value κ) → Bool
  | [], [] => true
  | a :: as, b :: bs => a.equal b && Value.equalList as bs
  | _, _ => false

def Value.equalEntries [BEq κ] : List (String × Value κ) → List (String × Value κ) → Bool
  | [], [] => true
  | (k, a) :: as, (l, b) :: bs => k == l && a.equal b && Value.equalEntries as bs
  | _, _ => false

end

instance [BEq κ] : BEq (Value κ) := ⟨Value.equal⟩

instance instBEqEmpty : BEq Empty := ⟨nofun⟩

/-! ### Children -/

/-- The nodes below a node. A text has none. -/
def Node.body? : Node κ → Option (List (Node κ))
  | .text _ => Option.none
  | .root body | .element _ _ body => some body

def Node.indent? : Node κ → Option Indent
  | .element _ indent _ => indent
  | _ => Option.none

/-- The node starts on a line of its own. -/
def Node.isOutline : Node κ → Bool
  | .element head _ _ => head.outline
  | _ => false

/-- The named attribute of an element, the last one if it is repeated. -/
def Head.named? {ν : Type} (h : Head ν) (name : String) : Option ν :=
  (h.named.reverse.find? (·.1 == name)).map (·.2)

end MarkupTemplate

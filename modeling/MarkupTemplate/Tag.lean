import MarkupTemplate.Error

/-!
# Tags

A tag writes the text of an element from its body and attributes. It adds neither the newline of an
outline element nor any indentation. Its type holds no values or nodes, so that values can hold
tags.
-/

namespace MarkupTemplate

/-- The two dialects of markup. They differ in how `true` and tags without a body are written. -/
inductive Dialect where
  | html | xhtml
  deriving DecidableEq, Repr

/-- Where a tag comes from. With its name this is its identity. -/
inductive TagOrigin where
  | standard (dialect : Dialect)
  /-- A tag made by hand, with a number that no other such tag has. -/
  | made (serial : Nat)
  deriving DecidableEq, Repr

/-- How a tag writes its element. -/
inductive Expansion where
  | markup (dialect : Dialect)
  /-- As the host program says, which has a number for it. -/
  | custom (serial : Nat)
  deriving DecidableEq, Repr

/-- A tag that can be attached to an element. -/
structure Tag where
  origin : TagOrigin
  name : String
  /-- The tag takes no body. -/
  isVoid : Bool := false
  /-- The tag takes its body as text rather than as nodes. -/
  isTextual : Bool := true
  /-- The text depends on the body and the attributes only. -/
  isPure : Bool := true
  expansion : Expansion

/-- The two are one tag, not only alike. -/
def Tag.same (a b : Tag) : Bool := a.origin == b.origin && a.name == b.name

def Tag.markup (origin : TagOrigin) (name : String) (isVoid : Bool) (dialect : Dialect) : Tag :=
  { origin, name, isVoid, expansion := .markup dialect }

def Tag.inspect (t : Tag) : String :=
  match t.expansion with
  | .markup dialect =>
    "MarkupTag \x7b name: " ++ Text.quote t.name ++ ", void: " ++ toString t.isVoid ++ ", mode: " ++
      (match dialect with | .html => "Html" | .xhtml => "Xhtml") ++ " \x7d"
  | .custom _ => "CustomTag(" ++ Text.quote t.name ++ ")"

end MarkupTemplate

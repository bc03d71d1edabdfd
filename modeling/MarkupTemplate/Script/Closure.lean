import MarkupTemplate.Scope.Store
import MarkupTemplate.Script.Basic

/-!
# Closures

A closure is a definition together with the scope that it was defined in. Calling it runs its body
on top of that scope, so that it sees the bindings of its definition and nothing bound since.
-/

namespace MarkupTemplate

/-- A definition of a script at its place. -/
structure Definition where
  signature : Signature
  body : List Block
  /-- The depth of the place of the definition. -/
  depth : Nat

def Definition.name (d : Definition) : String := d.signature.name.name

/-- A definition of a script, as a value. -/
structure Closure extends Definition where
  /-- Tells closures apart: every time a definition is run it makes a new one. -/
  id : Nat
  branch : Scope.Branch

namespace Closure

/-- Closures are equal if they come from one run of one definition. -/
instance : BEq Closure := ⟨fun a b => a.id == b.id⟩

def inspect (c : Closure) : String :=
  "Closure \x7b name: " ++ Text.quote c.name ++ ", depth: " ++ toString c.depth ++ ", branch: " ++
    c.branch.inspect ++ ", .. \x7d"

end Closure

end MarkupTemplate

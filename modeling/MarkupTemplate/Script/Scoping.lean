import MarkupTemplate.Script.Closure
import MarkupTemplate.Stop
import MarkupTemplate.Value.Host

/-!
# Scoping

What a translation asks of the state that it passes on: the visible bindings by their positions,
the indentation of the block being translated, and the scopes that definitions are closed over.
-/

namespace MarkupTemplate

/-- Closures that are made of definitions. -/
class Defined (κ : Type) where
  /-- The definition that a closure was made of. -/
  definition : κ → Definition
  /-- The number of bindings that the closure captured. -/
  length : κ → Nat

instance {κ : Type} [Defined κ] : Shows κ where
  shown c := ⟨(Defined.definition c).name, (Defined.definition c).depth, Defined.length c⟩

/-- States `σ` that keep bindings and scopes, with closures `κ` and marks `μ` to go back to. -/
class Scoping (σ : Type) (κ μ : outParam Type) where
  /-- The position and value of the binding that is visible under a name. -/
  find? : String → σ → Option (Nat × Value κ)
  length : σ → Nat
  push : String → Value κ → σ → σ
  set : Nat → Value κ → σ → Except Error σ
  /-- The indentation, which starts with a newline. -/
  indent : σ → String
  indentBy : Char → σ → σ
  /-- Takes the last character of the indentation away. -/
  dedent : σ → Except Error σ
  /-- The place to go back to. -/
  mark : σ → μ
  /-- Undoes the bindings made since a mark of the same scope. -/
  reset : μ → σ → Run σ
  /-- Closes a definition over what is visible. -/
  close : Definition → σ → κ × σ
  /-- Goes into the scope of a closure, at an absolute indentation. -/
  enter : κ → String → σ → Run σ
  /-- Goes back to a mark of the scope that was left. -/
  leave : μ → σ → σ
  /-- The default of a parameter of a closure, which is computed from what the closure sees. -/
  default : κ → Nat → ((String → Option (Value κ)) → Except Error (Value κ)) → σ →
    Run (Value κ × σ)

end MarkupTemplate

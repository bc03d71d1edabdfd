import MarkupTemplate.Tag.Registry
import MarkupTemplate.Text.Identifier
import MarkupTemplate.Value.Basic

/-!
# Modules

Scripts reach symbols outside themselves through modules. A symbol starts with a sigil: `%name` is
a tag or closure and `$name` a variable.
-/

namespace MarkupTemplate

/-- The symbol of a tag or closure. -/
def tagSymbol (name : String) : String := "%" ++ name

/-- The symbol of a variable. -/
def varSymbol (name : String) : String := "$" ++ name

/-- Modules by their paths, each with its symbols. The values of a script's modules come from outside
the script. -/
structure Modules (κ : Type := Empty) where
  modules : Dict (Dict (Value κ))

namespace Modules

variable {κ : Type}

def builtinPath : String := "builtins"

def builtins (r : Registry) : Dict (Value κ) :=
  let tags := r.map fun (name, tag) => (tagSymbol name, Value.tag tag)
  let functions := Builtin.all.map fun f => (varSymbol f.name, Value.function (.builtin f))
  Dict.ofEntries (tags ++ functions)

/-- The built-in module over a registry, and no other. -/
def ofRegistry (r : Registry) : Modules κ := ⟨[(builtinPath, builtins r)]⟩

/-- The value may be registered under the symbol. -/
def accept (symbol : String) (value : Value κ) : Except Error Unit :=
  match symbol.toList with
  | '%' :: name =>
    if value.kind ≠ .callable then fail (.symbolNotCallable symbol value.kind) else acceptName name
  | '$' :: name => acceptName name
  | _ => fail (.symbolWithoutSigil symbol)
where
  acceptName (name : List Char) : Except Error Unit :=
    if Text.isIdentifier name then .ok () else fail (.symbolNotIdentifier symbol)

def acceptAll : List (String × Value κ) → Except Error Unit
  | [] => .ok ()
  | (symbol, value) :: rest => do
    accept symbol value
    acceptAll rest

/-- Registers symbols at a path, over those that are there. Nothing is registered if one of them is
refused. -/
def add (m : Modules κ) (path : String) (symbols : List (String × Value κ)) :
    Except Error (Modules κ) := do
  acceptAll symbols
  .ok ⟨Dict.insert path (((Dict.get? path m.modules).getD []).insertAll symbols) m.modules⟩

def symbolsOf (m : Modules κ) (path : String) : Except Error (Dict (Value κ)) :=
  match Dict.get? path m.modules with
  | some symbols => .ok symbols
  | none => fail (.unknownModule path)

def symbol (m : Modules κ) (symbol path : String) : Except Error (Value κ) := do
  let symbols ← m.symbolsOf path
  match Dict.get? symbol symbols with
  | some value => .ok value
  | none => fail (.undefined symbol)

/-- The name after the sigil starts with an underscore. -/
def isPrivate (symbol : String) : Bool := symbol.toList[1]? == some '_'

/-- The symbols of a module that are not private. -/
def publicSymbols (m : Modules κ) (path : String) : Except Error (Dict (Value κ)) := do
  let symbols ← m.symbolsOf path
  .ok (symbols.filter fun (symbol, _) => !isPrivate symbol)

/-- The symbols that every script starts with. -/
def initialSymbols (m : Modules κ) : Except Error (Dict (Value κ)) := m.publicSymbols builtinPath

end Modules

end MarkupTemplate

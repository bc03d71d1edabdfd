import MarkupTemplate.Engine

/-!
# Lexical scoping

The plain meaning of scopes: the visible bindings are a list, a definition captures a copy of it,
a call runs the body on that copy, and a default is evaluated on it whenever it is needed.
-/

namespace MarkupTemplate

/-- A definition and a copy of the bindings that were visible at it. -/
inductive Capture where
  | mk (definition : Definition) (bindings : List (String × Value Capture))

namespace Capture

def definition : Capture → Definition
  | .mk d _ => d

def bindings : Capture → List (String × Value Capture)
  | .mk _ bindings => bindings

instance : Defined Capture where
  definition := definition
  length c := c.bindings.length

end Capture

/-- The position and value of the last binding of a name. -/
def lastBinding? {α : Type} (name : String) : List (String × α) → Option (Nat × α)
  | [] => none
  | (other, v) :: rest =>
    match lastBinding? name rest with
    | some (i, w) => some (i + 1, w)
    | none => if other = name then some (0, v) else none

namespace Translate

/-- The visible bindings and the indentation. -/
structure Lexical where
  bindings : List (String × Value Capture)
  indent : String

namespace Lexical

def start : Lexical := ⟨[], "\n"⟩

def set (index : Nat) (v : Value Capture) (s : Lexical) : Except Error Lexical :=
  if index < s.bindings.length then
    .ok { s with bindings := s.bindings.modify index fun b => (b.1, v) }
  else fail (.setPastTop index)

/-- Takes the last character of the indentation away, but not the newline. -/
def dedent (s : Lexical) : Except Error Lexical :=
  if s.indent.utf8ByteSize ≤ 1 then fail .dedentAtMargin
  else .ok { s with indent := String.ofList s.indent.toList.dropLast }

end Lexical

/-- A mark is the state itself. -/
instance : Scoping Lexical Capture Lexical where
  find? name s := lastBinding? name s.bindings
  length s := s.bindings.length
  push name v s := { s with bindings := s.bindings ++ [(name, v)] }
  set := Lexical.set
  indent := Lexical.indent
  indentBy c s := { s with indent := s.indent.push c }
  dedent := Lexical.dedent
  mark s := s
  reset m _ := .ok m
  close d s := (.mk d s.bindings, s)
  enter c indent _ := .ok ⟨c.bindings, Scope.withNewline indent⟩
  leave m _ := m
  default c _ compute s := do
    let v ← (compute fun name => (lastBinding? name c.bindings).map (·.2) : Except Error _)
    .ok (v, s)

end Translate

/-- Translates the template with lexical scoping. -/
def Template.translateLexically [Host] (t : Template) (context : Dict (Value Empty)) :
    Run (Document Capture) :=
  Translate.script (t.env context) t.engine.callLimit Translate.Lexical.start t.script.blocks

end MarkupTemplate

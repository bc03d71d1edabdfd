import MarkupTemplate.Script.Resolve
import MarkupTemplate.Script.Translate
import MarkupTemplate.Value.Formatter
import MarkupTemplate.Value.Serial

/-!
# Engine

An engine holds the modules that scripts import from and the formatter of values. It compiles a
script to a template, which is rendered with the variables that a caller provides.
-/

namespace MarkupTemplate

/-- The settings that scripts are compiled and translated with. -/
structure Engine where
  modules : Modules := .ofRegistry (.standard .html)
  formatter : Formatter := .plain
  /-- How many calls of closures may be inside each other: by default more than there is room for. -/
  callLimit : Nat := 0x4000000000000000

structure Template where
  engine : Engine
  script : Script.Resolved

/-- Compiles a script: every symbol that it reads is resolved. -/
def Engine.compile (engine : Engine) (script : Script) : Run Template := do
  let resolved ← script.resolve engine.modules
  .ok ⟨engine, resolved⟩

namespace Template

/-- The depth of the shallowest definition that the template reads: 0 for symbols from outside, and
`none` if it reads nothing. -/
def readDepth (t : Template) : Option Nat := t.script.readDepth

/-- The definitions of the template, each before those in its body. -/
def definitions (t : Template) : List Signature := Block.allDefinitions t.script.blocks

def env (t : Template) (context : Dict (Value Empty)) : Translate.Env where
  source := t.script.source
  modules := t.engine.modules
  formatter := t.engine.formatter
  context := context

variable [Host]

def translate (t : Template) (context : Dict (Value Empty)) : Run (Document Closure) :=
  MarkupTemplate.translate (t.env context) t.engine.callLimit t.script.blocks

def renderWith (t : Template) (context : Dict (Value Empty)) : Run String := do
  let d ← t.translate context
  (d.render : Except Error _)

def render (t : Template) (data : Serial) : Run String := do
  let context ← (data.toVariables : Except Error _)
  t.renderWith context

end Template

end MarkupTemplate

import MarkupTemplate.Proofs.Declared.Charges
import MarkupTemplate.Proofs.Outside.Worlds
import MarkupTemplate.Proofs.Worlds.Blocks

/-!
# States of several worlds at once

The bindings of a script in all worlds: what the script binds itself is one value with joint
captures in it, and what comes from outside has a value for each world. A reference that is declared
inside gives the same value in every world.
-/

namespace MarkupTemplate

open Resolve (defaultExprs)

variable {ω : Type}

/-- A definition with the bindings that it captures in each world. -/
structure Joint (ω : Type) where
  definition : Definition
  bindings : ω → List (String × Value Capture)
  length : Nat
  length_bindings : ∀ w, (bindings w).length = length

def Joint.capture (w : ω) (c : Joint ω) : Capture := .mk c.definition (c.bindings w)

instance : Defined (Joint ω) := ⟨Joint.definition, Joint.length⟩

/-- A closure is seen alike in all worlds. -/
theorem Joint.shown_capture (w : ω) (c : Joint ω) :
    Shows.shown (c.capture w) = Shows.shown c :=
  congrArg (Shown.mk _ _) (c.length_bindings w)

/-- The value of a binding: one that the script makes, or one from outside in each world. -/
inductive Cell (ω : Type) where
  | inside (v : Value (Joint ω))
  | outside (v : ω → Value Empty)

namespace Cell

def value (w : ω) : Cell ω → Value Capture
  | .inside v => v.mapClosures (Joint.capture w)
  | .outside v => (v w).lift

def inside? : Cell ω → Option (Value (Joint ω))
  | .inside v => some v
  | .outside _ => none

end Cell

/-- The bindings in one world. -/
abbrev valuesIn (w : ω) : List (String × Cell ω) → List (String × Value Capture) :=
  List.map (Prod.map id (Cell.value w))

/-- A definition that captures some bindings. -/
def Joint.ofCells (definition : Definition) (bindings : List (String × Cell ω)) : Joint ω where
  definition := definition
  bindings w := valuesIn w bindings
  length := bindings.length
  length_bindings _ := List.length_map _

/-- Some bindings are from outside exactly where that is declared. -/
def Declared (bindings : List (String × Cell ω)) (scope : Declarations) : Prop :=
  bindings.map (Prod.map id fun cell => cell.inside?.isSome) =
    scope.map (Prod.map id fun d => decide (0 < d.depth))

/-- A reference to nothing from outside. -/
def Reference.Inside (scope : Declarations) (r : Reference) : Prop :=
  ∀ d ∈ r.declarations scope, 0 < d.depth

/-- A site that refers to nothing from outside, and binds names only that are provided. -/
structure Site.Closed (provided : String → Prop) (site : Site) : Prop where
  inside : ∀ r ∈ site.block.references, r.Inside site.scope
  provided : ∀ names, site.block = .context names → ∀ name ∈ names, provided name.name

/-- A closure whose defaults and body refer to nothing from outside, and that captured only such
closures. -/
inductive Joint.Closed (m : Modules) (provided : String → Prop) : Joint ω → Prop where
  | mk {d : Definition} {bindings : List (String × Cell ω)} {scope : Declarations} :
    (∀ name v, (name, Cell.inside v) ∈ bindings → ∀ c ∈ v.closures, Joint.Closed m provided c) →
    Declared bindings scope →
    (∀ r ∈ Expr.allReferences (defaultExprs d.signature.params), r.Inside scope) →
    (∀ site ∈ Block.allSites m (scope ++ d.signature.declares (d.depth + 1)) (d.depth + 1) d.body,
      site.Closed provided) →
    Joint.Closed m provided (.ofCells d bindings)

namespace Translate

/-- A lexical state in all worlds. -/
structure JointState (ω : Type) where
  bindings : List (String × Cell ω)
  indent : String

namespace JointState

variable {s : JointState ω} {scope : Declarations} {m : Modules} {provided : String → Prop}

def state (w : ω) (s : JointState ω) : Lexical := ⟨valuesIn w s.bindings, s.indent⟩

def push (name : String) (v : Value (Joint ω)) (s : JointState ω) : JointState ω :=
  { s with bindings := s.bindings ++ [(name, .inside v)] }

/-- Binds a name to what it is outside. -/
def pushOutside (name : String) (v : ω → Value Empty) (s : JointState ω) : JointState ω :=
  { s with bindings := s.bindings ++ [(name, .outside v)] }

/-- The position and value of the visible binding of a name, unless that is from outside. -/
def find? (s : JointState ω) (symbol : String) : Option (Nat × Value (Joint ω)) :=
  (lastBinding? symbol s.bindings).bind fun (i, cell) => cell.inside?.map (i, ·)

theorem state_push (w : ω) (name : String) (v : Value (Joint ω)) (s : JointState ω) :
    Scoping.push name (v.mapClosures (Joint.capture w)) (s.state w) = (s.push name v).state w := by
  simp [Scoping.push, state, push, valuesIn, Cell.value]

theorem state_pushOutside (w : ω) (name : String) (v : ω → Value Empty) (s : JointState ω) :
    Scoping.push name (v w).lift (s.state w) = (s.pushOutside name v).state w := by
  simp [Scoping.push, state, pushOutside, valuesIn, Cell.value]

/-- The states of each world. -/
def reading [Host] : Reading ω (JointState ω) (Joint ω) where
  capture := Joint.capture
  unseen w := Host.unseen_of_shown (Joint.shown_capture w)
  state := state
  push := push
  indent s := s.indent
  atIndent indent s := { s with indent }
  name_capture _ _ := rfl
  push_state := state_push
  indent_state _ _ := rfl
  state_atIndent _ _ _ := rfl
  atIndent_indent _ := rfl

theorem reading_formats [Host] (formatter : Formatter) : (reading (ω := ω)).Formats formatter :=
  fun w v => congrArg formatter (Value.shown_mapClosures (Joint.shown_capture w) v)

/-- A state whose bindings are as they are declared, and whose closures are closed. -/
structure Fits (m : Modules) (provided : String → Prop) (s : JointState ω) (scope : Declarations) :
    Prop where
  declared : Declared s.bindings scope
  closed : ∀ name v, (name, Cell.inside v) ∈ s.bindings → v.Holds (Joint.Closed m provided)
  newline : s.indent.toList.head? = some '\n'

namespace Fits

theorem push (h : s.Fits m provided scope) (name : String) {v : Value (Joint ω)}
    (closed : v.Holds (Joint.Closed m provided)) {d : Declaration} (inside : 0 < d.depth) :
    (s.push name v).Fits m provided (scope ++ [(name, d)]) := by
  refine ⟨?_, fun other w member => ?_, h.newline⟩
  · rw [Declared, JointState.push, List.map_append, List.map_append, h.declared]
    simp [Cell.inside?, inside]
  · rcases List.mem_append.mp member with earlier | last
    · exact h.closed other w earlier
    · cases List.mem_singleton.mp last
      exact closed

theorem pushOutside (h : s.Fits m provided scope) (name : String) (v : ω → Value Empty) :
    (s.pushOutside name v).Fits m provided (scope ++ [(name, { depth := outsideDepth })]) := by
  refine ⟨?_, fun other w member => ?_, h.newline⟩
  · rw [Declared, JointState.pushOutside, List.map_append, List.map_append, h.declared]
    simp [Cell.inside?, outsideDepth]
  · rcases List.mem_append.mp member with earlier | last
    · exact h.closed other w earlier
    · cases List.mem_singleton.mp last

theorem withIndent (h : s.Fits m provided scope) {indent : String}
    (newline : indent.toList.head? = some '\n') :
    JointState.Fits m provided { s with indent } scope :=
  ⟨h.declared, h.closed, newline⟩

/-- A name that is declared inside, if at all, stands for the same in all worlds. -/
theorem find?_state (h : s.Fits m provided scope) {symbol : String}
    (inside : ∀ d, scope.find? symbol = some d → 0 < d.depth) (w : ω) :
    Scoping.find? symbol (s.state w) =
      (s.find? symbol).map (Prod.map id (Value.mapClosures (Joint.capture w))) := by
  have there : Scoping.find? symbol (s.state w) =
      (lastBinding? symbol s.bindings).map (Prod.map id (Cell.value w)) := lastBinding?_map _ _ _
  have declared := congrArg (lastBinding? symbol) h.declared
  rw [lastBinding?_map, lastBinding?_map] at declared
  rw [there, find?]
  cases last : lastBinding? symbol s.bindings with
  | none => rfl
  | some entry =>
    obtain ⟨i, v | v⟩ := entry
    · rfl
    · rw [last] at declared
      obtain ⟨⟨j, d⟩, found, same⟩ := Option.map_eq_some_iff.mp declared.symm
      have deep := inside d (by rw [Declarations.find?, found]; rfl)
      simp [Cell.inside?, deep] at same

theorem find?_closed (h : s.Fits m provided scope) {symbol : String} {i : Nat}
    {v : Value (Joint ω)} (found : s.find? symbol = some (i, v)) :
    v.Holds (Joint.Closed m provided) := by
  obtain ⟨⟨j, cell⟩, last, here⟩ := Option.bind_eq_some_iff.mp found
  cases cell with
  | outside v => cases here
  | inside w =>
    cases here
    exact h.closed symbol _ (List.mem_of_getElem? (mem_of_lastBinding? last))

/-- What the script makes itself is found in the same way in all worlds. -/
def lookup (h : s.Fits m provided scope) : Lookup ω (Joint.Closed (ω := ω) m provided) where
  find? := s.find?
  place _ i := i
  holds _ _ _ found := h.find?_closed found
  order _ _ _ _ _ _ _ _ _ := Iff.rfl

/-- References to nothing from outside find the same in all worlds. -/
theorem tells [Host] (h : s.Fits m provided scope) {references : List Reference}
    (inside : ∀ r ∈ references, r.Inside scope) : reading.TellsAll h.lookup s references := by
  intro r referred symbol looked
  refine h.find?_state fun d found => inside r referred d ?_
  rw [r.declarations_eq]
  exact List.mem_flatMap.mpr ⟨symbol, looked, Option.mem_toList.mpr found⟩

end Fits

end JointState

end Translate

end MarkupTemplate

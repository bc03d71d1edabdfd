import MarkupTemplate.Scope.Stack
import MarkupTemplate.Script.Scoping
import MarkupTemplate.Value.Deferred

/-!
# Scoping on branches

Scripts are translated on stacks that share a store. A closure keeps the branch that was visible at
its definition: its body runs on a new stack on top of that branch, and a default is evaluated on
the branch when it is first needed.
-/

namespace MarkupTemplate

open Scope

namespace Translate

/-- The bindings of all stacks, the current stack, and the defaults that closures keep. -/
structure State (κ : Type) where
  store : Store (Value κ)
  stack : Stack
  /-- The number of closures made so far. -/
  closures : Nat
  /-- The default of a parameter, by the number of the closure and the place of the parameter. -/
  cells : Nat → Nat → Deferred (Value κ)

/-- The place to go back to: the stack as it is, and its position. -/
structure Mark where
  stack : Stack
  checkpoint : Checkpoint
  deriving DecidableEq, Repr

/-- The closures of a translation, which may carry more than a `Closure` does. -/
class Closing (κ : Type) where
  /-- The closure without what else is carried. -/
  closure : κ → Closure
  /-- The closure with all that is carried, as it is made in a state. -/
  ofClosure : Closure → State κ → κ

instance : Closing Closure := ⟨id, fun c _ => c⟩

instance {κ : Type} [Closing κ] : Defined κ where
  definition c := (Closing.closure c).toDefinition
  length c := (Closing.closure c).branch.length

namespace State

variable {κ : Type}

/-- The state before anything is bound. -/
def start : State κ :=
  let (store, stack) := (Store.empty : Store (Value κ)).newStack
  { store, stack, closures := 0, cells := fun _ _ => .pending }

/-- The part of the current stack that is visible now. -/
def branch (s : State κ) : Branch := s.stack.branch s.store

def push (symbol : String) (v : Value κ) (s : State κ) : State κ :=
  { s with store := s.stack.push symbol v s.store }

def set (index : Nat) (v : Value κ) (s : State κ) : Except Error (State κ) := do
  let store ← s.stack.set index v s.store
  .ok { s with store }

def dedent (s : State κ) : Except Error (State κ) := do
  let stack ← s.stack.dedent
  .ok { s with stack }

def mark (s : State κ) : Mark := ⟨s.stack, s.stack.checkpoint s.store⟩

/-- Goes back to a position. -/
def reset (m : Mark) (s : State κ) : Run (State κ) := do
  let (store, stack) ← s.stack.reset m.checkpoint s.store
  .ok { s with store, stack }

/-- Goes back to the stack of a mark, and gives the current one up. -/
def leave (m : Mark) (s : State κ) : State κ :=
  { s with store := s.stack.drop s.store, stack := m.stack }

/-- The value of a symbol that a branch sees. -/
def look (s : State κ) (b : Branch) (symbol : String) : Option (Value κ) :=
  (s.store.findOn? symbol b).map (·.2)

variable [Closing κ]

/-- Makes a closure that sees what is visible now. -/
def close (d : Definition) (s : State κ) : κ × State κ :=
  (Closing.ofClosure { d with id := s.closures, branch := s.branch } s,
    { s with closures := s.closures + 1 })

/-- Starts a stack on the branch of a closure. -/
def enter (c : κ) (indent : String) (s : State κ) : State κ :=
  let (store, stack) := s.store.stackOn (Closing.closure c).branch indent
  { s with store, stack }

/-- Keeps the default of a parameter of a closure. -/
def keep (id index : Nat) (cell : Deferred (Value κ)) (s : State κ) : State κ :=
  { s with cells := fun i j => if i = id ∧ j = index then cell else s.cells i j }

/-- The default of a parameter of a closure, computed where the closure was made when it is first
needed. -/
def default (c : κ) (index : Nat)
    (compute : (String → Option (Value κ)) → Except Error (Value κ)) (s : State κ) :
    Except Error (Value κ × State κ) := do
  let ⟨_, id, branch⟩ := Closing.closure c
  let (result, cell, s) := (s.cells id index).get (fun s => (compute (s.look branch), s)) s
  let v ← result
  .ok (v, s.keep id index cell)

end State

instance {κ : Type} [Closing κ] : Scoping (State κ) κ Mark where
  find? symbol s := s.stack.find? s.store symbol
  length s := s.stack.length s.store
  push := State.push
  set := State.set
  indent s := s.stack.indent
  indentBy c s := { s with stack := s.stack.indentBy c }
  dedent := State.dedent
  mark := State.mark
  reset := State.reset
  close := State.close
  enter c indent s := .ok (s.enter c indent)
  leave := State.leave
  default c index compute s := s.default c index compute

end Translate

end MarkupTemplate

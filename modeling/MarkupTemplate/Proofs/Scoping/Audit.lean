import MarkupTemplate.Engine
import MarkupTemplate.Proofs.Scope.Position

/-!
# Audited scoping

Scoping on branches with a book of every write kept beside it. Before the scope of a closure is
used, for a call or for a default, the book tells whether each position that the closure saw when
it was made is still there and has not been written since. If not, the translation stops.
-/

namespace MarkupTemplate

open Scope

/-- The level that has the binding at a position of a level: this level or one below. -/
def Scope.Store.holder? {α : Type} (σ : Store α) (id index : Nat) : Option Nat :=
  match σ.levels[id]? with
  | none => none
  | some l =>
    if index < l.trunkLength then
      match l.trunk with
      | none => none
      | some b => if b.level < id then σ.holder? b.level index else none
    else if index - l.trunkLength < l.bindings.size then some id else none
termination_by id

namespace Translate

/-- A state and its book. -/
structure Audited (κ : Type) where
  state : State κ
  /-- The number of writes so far, which serves as the time. -/
  now : Nat
  /-- When a position of a level was last written. -/
  written : Nat → Nat → Nat
  /-- The closures made, in the order of their numbers, and when they were made. -/
  made : List (κ × Nat)
  /-- What the translation stops with if an audit fails. -/
  alarm : Stop

namespace Audited

variable {κ : Type}

/-- The state before anything is bound. -/
def start (alarm : Stop) : Audited κ := ⟨.start, 0, fun _ _ => 0, [], alarm⟩

/-- Puts a write at a position of the current stack into the book. -/
def record (index : Nat) (s : Audited κ) : Audited κ :=
  { s with
    now := s.now + 1
    written := fun id i =>
      if id = s.state.stack.level ∧ i = index then s.now + 1 else s.written id i }

def push (symbol : String) (v : Value κ) (s : Audited κ) : Audited κ :=
  { s.record (s.state.stack.length s.state.store) with state := s.state.push symbol v }

def set (index : Nat) (v : Value κ) (s : Audited κ) : Except Error (Audited κ) := do
  let state ← s.state.set index v
  .ok { s.record index with state }

/-- Every position of a branch is there and has not been written after a time. -/
def untouched (b : Branch) (time : Nat) (s : Audited κ) : Bool :=
  (List.range b.length).all fun i =>
    match s.state.store.holder? b.level i with
    | some id => s.written id i ≤ time
    | none => false

variable [Closing κ]

/-- Every position that a closure saw when it was made is there and has not been written since. -/
def intact (c : κ) (s : Audited κ) : Bool :=
  match s.made[(Closing.closure c).id]? with
  | some (_, time) => s.untouched (Closing.closure c).branch time
  | none => false

def close (d : Definition) (s : Audited κ) : κ × Audited κ :=
  let (c, state) := s.state.close d
  (c, { s with state, made := s.made ++ [(c, s.now)] })

end Audited

instance {κ : Type} [Closing κ] : Scoping (Audited κ) κ Mark where
  find? symbol s := Scoping.find? symbol s.state
  length s := Scoping.length s.state
  push := Audited.push
  set := Audited.set
  indent s := Scoping.indent s.state
  indentBy c s := { s with state := Scoping.indentBy c s.state }
  dedent s := do
    let state ← Scoping.dedent s.state
    .ok { s with state }
  mark s := Scoping.mark s.state
  reset m s := do
    let state ← Scoping.reset m s.state
    .ok { s with state }
  close := Audited.close
  enter c indent s :=
    if s.intact c then .ok { s with state := s.state.enter c indent } else .error s.alarm
  leave m s := { s with state := s.state.leave m }
  default c index compute s :=
    if s.intact c then do
      let (v, state) ← (s.state.default c index compute : Except Error _)
      .ok (v, { s with state })
    else .error s.alarm

end Translate

end MarkupTemplate

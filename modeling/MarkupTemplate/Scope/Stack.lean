import MarkupTemplate.Scope.Store
import MarkupTemplate.Stop

/-!
# Scope stacks

A stack is the top of a level together with the indentation of the block being processed. Positions
of the trunk are only read: popping, writing or resetting into it is refused.
-/

namespace MarkupTemplate.Scope

variable {α : Type}

/-- A stack: the number of its level, and an indentation that starts with a newline. -/
structure Stack where
  level : Nat
  indent : String
  deriving DecidableEq, Repr

/-- A saved position of a stack: its length, and the length of its indentation in bytes. -/
structure Checkpoint where
  length : Nat
  indentLength : Nat
  deriving DecidableEq, Repr

/-- A new stack without bindings. -/
def Store.newStack (σ : Store α) : Store α × Stack :=
  let (σ, id) := σ.add (.empty none)
  (σ, ⟨id, "\n"⟩)

/-- An indentation with the newline that it starts with. -/
def withNewline (indent : String) : String :=
  match indent.toList with
  | '\n' :: _ => indent
  | _ => "\n" ++ indent

/-- A new stack on top of a branch. -/
def Store.stackOn (σ : Store α) (b : Branch) (indent : String) : Store α × Stack :=
  let (σ, id) := σ.add (.empty (some b))
  (σ, ⟨id, withNewline indent⟩)

namespace Stack

def length (s : Stack) (σ : Store α) : Nat := σ.length s.level

/-- The number of positions that are only read. -/
def trunkLength (s : Stack) (σ : Store α) : Nat := σ.trunkLength s.level

def branch (s : Stack) (σ : Store α) : Branch := ⟨s.level, s.length σ⟩

/-- Binds a name, over any earlier binding of it. -/
def push (s : Stack) (name : String) (value : α) (σ : Store α) : Store α :=
  σ.modify s.level (.push name value)

/-- Takes the latest binding away. -/
def pop (s : Stack) (σ : Store α) : Except Error ((String × α) × Store α) :=
  match σ.levels[s.level]?.bind (·.pop?) with
  | some (binding, l) => .ok (binding, σ.modify s.level fun _ => l)
  | none => fail .popAtBottom

def get? (s : Stack) (σ : Store α) (index : Nat) : Option α :=
  if index < s.length σ then σ.get? s.level index else none

def set (s : Stack) (index : Nat) (value : α) (σ : Store α) : Except Error (Store α) :=
  if index < s.trunkLength σ then fail (.setInTrunk index)
  else if index < s.length σ then .ok (σ.modify s.level (.set index value))
  else fail (.setPastTop index)

/-- The position and value of the binding that is visible under a name. -/
def find? (s : Stack) (σ : Store α) (name : String) : Option (Nat × α) := σ.find? name s.level

def checkpoint (s : Stack) (σ : Store α) : Checkpoint := ⟨s.length σ, s.indent.utf8ByteSize⟩

/-- Undoes every binding above a checkpoint and cuts the indentation to its length. -/
def reset (s : Stack) (c : Checkpoint) (σ : Store α) : Run (Store α × Stack) :=
  if s.length σ < c.length || s.indent.utf8ByteSize < c.indentLength then
    .error (.error (Cause.toError .resetAboveTop))
  else if c.length < s.trunkLength σ || c.indentLength == 0 then
    .error (.error (Cause.toError .resetBelowBottom))
  else
    match Text.splitAtByte? s.indent.toList c.indentLength with
    | none => .error .splitCharacter
    | some (indent, _) =>
      .ok (σ.modify s.level (.popMany (s.length σ - c.length)),
        { s with indent := String.ofList indent })

def indentBy (s : Stack) (c : Char) : Stack := { s with indent := s.indent.push c }

/-- Takes the last character of the indentation away, but not the newline. -/
def dedent (s : Stack) : Except Error Stack :=
  if s.indent.utf8ByteSize ≤ 1 then fail .dedentAtMargin
  else .ok { s with indent := String.ofList s.indent.toList.dropLast }

/-- Gives the stack up: its bindings are gone also for the branches taken from it. -/
def drop (s : Stack) (σ : Store α) : Store α := σ.modify s.level .clear

end Stack

end MarkupTemplate.Scope

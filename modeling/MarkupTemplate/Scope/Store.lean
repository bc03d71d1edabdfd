import Std.Data.HashMap

/-!
# Stores of bindings

A store holds levels of bindings. A level may grow on a branch, which is the lower part of another
level as it was when the branch was taken: its positions come first and are only read. Each level
keeps an index of the latest position of every name, and each binding the position that it shadows.
-/

namespace MarkupTemplate.Scope

variable {α : Type}

/-- The first `length` positions of a level. -/
structure Branch where
  level : Nat
  length : Nat
  deriving DecidableEq, Repr

/-- A binding, with the position of the binding of the same name that it shadows on its level. -/
structure Binding (α : Type) where
  name : String
  value : α
  shadowed : Option Nat

/-- The bindings of a level on top of its trunk. -/
structure Level (α : Type) where
  trunk : Option Branch
  bindings : Array (Binding α)
  latest : Std.HashMap String Nat

namespace Level

def empty (trunk : Option Branch) : Level α := ⟨trunk, #[], ∅⟩

/-- The number of positions that belong to the trunk. -/
def trunkLength (l : Level α) : Nat := (l.trunk.map (·.length)).getD 0

def length (l : Level α) : Nat := l.trunkLength + l.bindings.size

/-- Binds a name at the next position. -/
def push (name : String) (value : α) (l : Level α) : Level α :=
  { l with
    bindings := l.bindings.push ⟨name, value, l.latest[name]?⟩
    latest := l.latest.insert name l.length }

/-- Takes the last binding away and makes the one that it shadowed the latest again. -/
def pop? (l : Level α) : Option ((String × α) × Level α) :=
  l.bindings.back?.map fun b =>
    ((b.name, b.value),
      { l with
        bindings := l.bindings.pop
        latest := match b.shadowed with
          | some i => l.latest.insert b.name i
          | none => l.latest.erase b.name })

def popMany : Nat → Level α → Level α
  | 0, l => l
  | n + 1, l => match l.pop? with
    | some (_, l') => popMany n l'
    | none => l

/-- Replaces the value at a position above the trunk. -/
def set (index : Nat) (value : α) (l : Level α) : Level α :=
  { l with bindings := l.bindings.modify (index - l.trunkLength) ({ · with value := value }) }

def clear (l : Level α) : Level α := empty l.trunk

/-- The first position below `limit` on the chain of shadowed positions that starts at `i`. -/
def below (l : Level α) (limit i : Nat) : Option (Nat × α) :=
  match l.bindings[i - l.trunkLength]? with
  | none => none
  | some b =>
    if i < limit then some (i, b.value)
    else match b.shadowed with
      | none => none
      | some j => if j < i then l.below limit j else none
termination_by i

end Level

/-- All levels, those of dropped stacks included. -/
structure Store (α : Type) where
  levels : Array (Level α)

namespace Store

def empty : Store α := ⟨#[]⟩

/-- Adds a level and gives its number. -/
def add (l : Level α) (σ : Store α) : Store α × Nat :=
  let id := σ.levels.size
  (⟨σ.levels.push l⟩, id)

def modify (id : Nat) (f : Level α → Level α) (σ : Store α) : Store α := ⟨σ.levels.modify id f⟩

def length (σ : Store α) (id : Nat) : Nat := (σ.levels[id]?.map (·.length)).getD 0

/-- The number of positions of a level that belong to its trunk. -/
def trunkLength (σ : Store α) (id : Nat) : Nat := (σ.levels[id]?.map (·.trunkLength)).getD 0

/-- The value at a position of a level. A position of the trunk is read on the level below, as that
is now. -/
def get? (σ : Store α) (id index : Nat) : Option α :=
  match σ.levels[id]? with
  | none => none
  | some l =>
    if index < l.trunkLength then
      match l.trunk with
      | none => none
      | some b => if b.level < id then σ.get? b.level index else none
    else l.bindings[index - l.trunkLength]?.map (·.value)
termination_by id

/-- The latest binding of a name at a position below `limit`. -/
def findBelow (σ : Store α) (name : String) (id limit : Nat) : Option (Nat × α) :=
  match σ.levels[id]? with
  | none => none
  | some l =>
    match l.latest[name]?.bind (l.below limit) with
    | some found => some found
    | none =>
      match l.trunk with
      | none => none
      | some b => if b.level < id then σ.findBelow name b.level (min limit b.length) else none
termination_by id

def find? (σ : Store α) (name : String) (id : Nat) : Option (Nat × α) :=
  σ.findBelow name id (σ.length id)

/-- The latest binding of a name that a branch sees. -/
def findOn? (σ : Store α) (name : String) (b : Branch) : Option (Nat × α) :=
  σ.findBelow name b.level b.length

end Store

/-- The structure of a branch. It never has bindings of its own. -/
def Branch.inspect (b : Branch) : String :=
  "StackBranch \x7b trunk_len: " ++ toString b.length ++ ", names: [] \x7d"

end MarkupTemplate.Scope

/-!
# Deferred values

A value that is computed when it is first asked for and kept from then on. A computation that fails
is not kept, so that the next request tries again.
-/

namespace MarkupTemplate

/-- A value that may have been computed already. -/
structure Deferred (α : Type) where
  value? : Option α := none

namespace Deferred

variable {ε α σ : Type}

def pending : Deferred α := {}

def isComputed (d : Deferred α) : Bool := d.value?.isSome

/-- The value, computed by `compute` in the state `s` if it is not there, and the state after. -/
def get (compute : σ → Except ε α × σ) (d : Deferred α) (s : σ) : Except ε α × Deferred α × σ :=
  match d.value? with
  | some v => (.ok v, d, s)
  | none =>
    match compute s with
    | (.ok v, s') => (.ok v, ⟨some v⟩, s')
    | (.error e, s') => (.error e, d, s')

def inspect (inspectValue : α → String) (d : Deferred α) : String :=
  match d.value? with
  | some v => "LazyValue(" ++ inspectValue v ++ ")"
  | none => "LazyValue(<pending>)"

end Deferred

end MarkupTemplate

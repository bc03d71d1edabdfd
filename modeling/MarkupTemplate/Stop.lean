import MarkupTemplate.Error

/-!
# Ends without a result

A computation on a script can fail with an error that is reported, or give no answer at all.
-/

namespace MarkupTemplate

/-- How a computation ends without a result. -/
inductive Stop where
  | error (e : Error)
  /-- Calls are nested deeper than the engine allows. -/
  | callDepth
  /-- An indentation is cut in the middle of a character. -/
  | splitCharacter
  deriving DecidableEq, Repr

/-- A result, an error that is reported, or no answer. -/
abbrev Run (α : Type) := Except Stop α

/-- A computation that can only fail with an error. -/
def Run.ofExcept {α : Type} : Except Error α → Run α
  | .ok x => .ok x
  | .error e => .error (.error e)

/-- Fails with a cause at a place in the source. -/
def Run.failAt {α : Type} (source : String) (span : Span) (c : Cause) : Run α :=
  .error (.error (c.toError.placed source span))

instance : MonadLift (Except Error) (Except Stop) := ⟨Run.ofExcept⟩

end MarkupTemplate

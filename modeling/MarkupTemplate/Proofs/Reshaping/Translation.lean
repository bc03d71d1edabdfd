import MarkupTemplate.Proofs.Reshaping.Inlining
import MarkupTemplate.Proofs.Reshaping.Paired

/-!
# Translating both sides of a change

Both sides make the same nodes wherever they start in the same state, up to bindings that nothing
refers to. Calls may be nested less deeply on the side after the change than on the side before.
-/

namespace MarkupTemplate

namespace Translate

variable {env : Env} {exempt : Side → Stop → Prop} {hidden names : List String}
  {s s' : PairedState} {call : Side → Caller Lexical Capture} {depth : Side → Nat}

/-- Both sides are translated with the same. -/
def Env.worlds (env : Env) : Worlds Side where
  source := env.source
  formatter := env.formatter
  modules _ := env.modules
  context _ := env.context

@[simp] theorem Env.worlds_env (w : Side) : env.worlds.env w = env := rfl

namespace PairedState

theorem state_push_lift (s : PairedState) (w : Side) (name : String) (v : Value Empty) :
    Scoping.push name v.lift (s.state w) = (s.push name v.lift).state w := by
  rw [← s.state_push w name v.lift, Value.mapClosures_lift]

variable [Host] [Host.Nominal]

/-! ### Blocks without blocks inside -/

section Bindings

variable {P : Pair → Prop} (h : reading.Binds P s names s')

include h

theorem bindContext_accord (taken : List Ident) :
    Accord exempt state (reading.Binds P s (names ++ taken.map (varSymbol ·.name)))
      fun w => bindContext (env.worlds.env w) (s'.state w) taken := by
  induction taken generalizing s' names with
  | nil => exact .ok (f := state) (by simpa using h)
  | cons name rest ih =>
    simp only [bindContext, Env.worlds_env]
    cases Dict.get? name.name env.context with
    | none =>
      let undefined := Cause.undefined (varSymbol name.name)
      exact Accord.error (Stop.error (undefined.toError.placed env.source name.span))
    | some v =>
      have later := ih (h.push reading (varSymbol name.name) (Value.holds_lift v))
      rw [List.append_assoc] at later
      simp only [state_push_lift]
      exact later

theorem bindItems_accord (path : String) (items : List Ident) :
    Accord exempt state (reading.Binds P s (names ++ items.map (·.name)))
      fun w => bindItems (env.worlds.env w) path (s'.state w) items := by
  induction items generalizing s' names with
  | nil => exact .ok (f := state) (by simpa using h)
  | cons item rest ih =>
    simp only [bindItems, Env.worlds_env, lift_eq_ofExcept]
    cases locate env.source item.span (env.modules.symbol item.name path) with
    | error e => exact .error (Stop.error e)
    | ok v =>
      have later := ih (h.push reading item.name (Value.holds_lift v))
      rw [List.append_assoc] at later
      simp only [ofExcept_ok, ok_bind, state_push_lift]
      exact later

end Bindings

end PairedState

open PairedState

/-! ### Limits of calls -/

variable [Host]

variable [Host.Nominal]

/-- Both sides of blocks make the same nodes, with some callers. -/
def RunAlike (env : Env) (exempt : Side → Stop → Prop) (call : Side → Caller Lexical Capture) :
    Prop :=
  ∀ {hidden : List String} {bs : Side → List Block}, Reshapes env.modules exempt hidden bs →
    ∀ (depth : Side → Nat) (s : PairedState), s.Fits env.modules exempt hidden →
    Accord exempt reading.output (fun _ => True)
      fun w => blocks (env.worlds.env w) (call w) (depth w) (s.state w) (bs w)

/-- Closures that are alike expand alike if their bodies run alike. -/
theorem RunAlike.answers [Host.HandsOn] (runs : RunAlike env exempt call) :
    reading.Answers exempt (Pair.Alike env.modules exempt)
      fun w => invoke (env.worlds.env w) (call w) := by
  intro s c k alike hold
  cases alike with
  | @mk signature readDepth body depth slots hidden closed hides avoids reshapes =>
    let t : PairedState := ⟨slots, Scope.withNewline k.indent⟩
    have captured : t.Fits env.modules exempt hidden :=
      ⟨closed, hides, Scope.head?_withNewline k.indent⟩
    refine reading.invoke_accord signature (fun w => ⟨readDepth w, rfl⟩) hold (t := t)
      (fun _ => rfl) (reading.defaultAgrees (t := t) (fun _ => rfl) (captured.tells avoids))
      fun t' bound => ?_
    exact runs reshapes (fun w => depth w + 1) t' (captured.binds bound)

end Translate

end MarkupTemplate

import MarkupTemplate.Proofs.Placement.Making
import MarkupTemplate.Proofs.Placement.Values
import MarkupTemplate.Proofs.Resolved.Reads

/-!
# Errors of evaluation

Looking a name up and importing never find an indentation malformed. Nor do evaluating an expression
and writing a text whose values hold nodes that are in place, unless the host program does.
-/

namespace MarkupTemplate

variable {κ : Type}

open Resolve (partExprs argExprs)

/-- An expression fails as functions of the host program do, and for a type or a symbol. -/
theorem Expr.eval_fine [Host] [Shows κ] {fine : ErrorCategory → Prop} [Host.FunctionsFailIn fine]
    (upright : ∀ c, c ≠ .malformedIndent → fine c) (source : String)
    (look : String → Option (Value κ)) (e : Expr) : FailsIn fine (e.eval source look) := by
  have shown : ∀ symbol ∈ ([] : List String), (look symbol).isSome := nofun
  exact Expr.eval_fails (upright _ nofun) source shown e (.inl (upright _ nofun))

namespace Translate

variable {σ μ : Type} [Scoping σ κ μ] (env : Env) (s : σ)

theorem called_upright (name : Ident) : Upright (called env s name) := by
  have undefined : Upright (called.undefined env name : Except Error (Tag ⊕ κ)) :=
    .locate (.fail nofun) _ _
  have notCallable : ∀ v : Value κ, Upright (called.notCallable env name v) := fun v =>
    .locate (.fail nofun) _ _
  unfold called
  split
  · split
    · exact .ok _
    · exact .ok _
    · exact .ok _
    · exact notCallable _
  · split
    · exact .ok _
    · exact undefined
  · split
    · exact .ok _
    · exact notCallable _
  · exact undefined

variable {s} [Host] [Defined κ] {fine : ErrorCategory → Prop} {allowed : Layout → Prop}
  (upright : ∀ c, c ≠ .malformedIndent → fine c)

include upright

theorem formatValue_fine [Host.TagsFailIn fine] {v : Value κ} (clean : v.Clean allowed)
    (span : Span) : FailsIn fine (formatValue env span v) := by
  unfold formatValue
  split
  · exact Node.renderList_fails (upright _ nofun) _ (Value.clean_nodes.mp clean).1
  · exact formatted_fails (upright _ nofun) env _ _

variable [Host.FunctionsFailIn fine]

theorem eval_fine (e : Expr) : FailsIn fine (eval env s e) :=
  e.eval_fine upright env.source (value? s)

theorem evalArgs_fine (args : List Arg) : FailsIn fine (evalArgs env s args) :=
  evalArgs_fails fun e _ => eval_fine env upright e

theorem AllVisible.writeParts_fine [Host.KeepsSettled] [Host.TagsFailIn fine]
    (visible : AllVisible (Value.Clean allowed) s) {parts : List Part}
    (written : Expr.AllWrite (fun v => (v.lift : Value κ).Clean allowed) (partExprs parts)) :
    FailsIn fine (writeParts env s parts) := by
  refine writeParts_fails (fun e _ => eval_fine env upright e) fun e member v value => ?_
  have clean := visible.eval_inherits Value.hereditary_clean (written.of_mem member) value
  exact formatValue_fine env upright clean e.span

end Translate

/-! ### Modules -/

namespace Modules

variable (m : Modules)

theorem symbolsOf_upright (path : String) : Upright (m.symbolsOf path) := by
  unfold symbolsOf
  split
  · exact .ok _
  · exact .fail nofun

theorem symbol_upright (symbol path : String) : Upright (m.symbol symbol path) := by
  unfold Modules.symbol
  refine .bind (m.symbolsOf_upright path) fun symbols _ => ?_
  split
  · exact .ok _
  · exact .fail nofun

theorem publicSymbols_upright (path : String) : Upright (m.publicSymbols path) := by
  unfold publicSymbols
  exact .bind (m.symbolsOf_upright path) fun symbols _ => .ok _

end Modules

end MarkupTemplate

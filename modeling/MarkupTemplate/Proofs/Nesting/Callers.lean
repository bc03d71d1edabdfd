import MarkupTemplate.Engine
import MarkupTemplate.Proofs.Result

/-!
# Translations with different callers

Translations differ only where the calls in them do. What holds of all calls for some callers, and is
kept when runs are put in sequence, holds of the translations with these callers.
-/

namespace MarkupTemplate

variable {ι α β : Type}

/-- A property of runs, one for each index, that holds of a sequence if it holds of its parts. -/
structure Composes (P : (α : Type) → (ι → Run α) → Prop) : Prop where
  const {α : Type} (r : Run α) : P α fun _ => r
  bind {α β : Type} {r : ι → Run α} {k : ι → α → Run β} (h : P α r)
    (next : ∀ a, P β fun i => k i a) : P β fun i => r i >>= k i

namespace Translate

variable {σ κ μ : Type} [Scoping σ κ μ] {P : (α : Type) → (ι → Run α) → Prop}
  {env : Env}

section Scopes

variable (composes : Composes P) {run : ι → σ → Run (Output σ κ)} (h : ∀ s, P _ fun i => run i s)

include composes h

theorem confined_composes (s : σ) : P _ fun i => confined s (run i) := by
  unfold confined
  exact composes.bind (h s) fun o => composes.const _

theorem forEach_composes (index : Nat) (s : σ) (values : List (Value κ)) :
    P _ fun i => forEach index (run i) s values := by
  induction values generalizing s with
  | nil => exact composes.const _
  | cons v vs ih =>
    unfold forEach
    refine composes.bind (composes.const _) fun s₁ => ?_
    refine composes.bind (confined_composes composes h s₁) fun o => ?_
    exact composes.bind (ih o.1) fun rest => composes.const _

end Scopes

theorem indented_composes (composes : Composes P) (s : σ) (layout : Layout)
    {run : ι → σ → Option String → Run (Output σ κ)} (h : ∀ s place, P _ fun i => run i s place) :
    P _ fun i => indented s layout (run i) := by
  unfold indented
  cases layout.outline with
  | false => exact h s none
  | true =>
    cases layout.indent.toList.find? (!Text.isIndentChar ·) with
    | some c => exact composes.const _
    | none => exact composes.bind (h _ _) fun o => composes.const _

theorem finishCall_composes (composes : Composes P) {call : ι → Caller σ κ}
    (calls : ∀ s c k, P _ fun i => call i s c k) (s : σ) (name : Ident) (target : Tag ⊕ κ)
    (args : List (Value κ)) (named : List (String × Value κ)) (body : List (Node κ))
    (indent : Option String) (place : String) :
    P _ fun i => finishCall env (call i) s name target args named body indent place := by
  unfold finishCall
  cases target with
  | inl tag => exact composes.const _
  | inr c => exact composes.bind (calls s c _) fun o => composes.const _

variable [Host] [Defined κ]

mutual

theorem block_composes (composes : Composes P) {call : ι → Caller σ κ}
    (calls : ∀ s c k, P _ fun i => call i s c k) (depth : Nat) (s : σ) :
    ∀ b : Block, P _ fun i => block env (call i) depth s b
  | .text _ _ | .embed _ _ | .define _ _ | .assign _ _ | .context _ | .importFrom _ none _
  | .importFrom _ (some _) _ => by
    unfold block
    exact composes.const _
  | .call name args body layout => by
    unfold block
    refine composes.bind (composes.const _) fun target => ?_
    refine composes.bind (composes.const _) fun values => ?_
    refine indented_composes composes s layout fun s place => ?_
    refine composes.bind
      (confined_composes composes (fun s => blocks_composes composes calls depth s body) s)
      fun o => ?_
    exact finishCall_composes composes calls _ _ _ _ _ _ _ _
  | .branch condition thenBlocks elseBlocks => by
    unfold block
    refine composes.bind (composes.const _) fun v => ?_
    cases v.isTruthy with
    | true =>
      exact confined_composes composes (fun s => blocks_composes composes calls depth s thenBlocks) s
    | false =>
      exact confined_composes composes (fun s => blocks_composes composes calls depth s elseBlocks) s
  | .loop name items body => by
    unfold block
    refine composes.bind (composes.const _) fun v => ?_
    cases v with
    | list values =>
      refine composes.bind (forEach_composes composes
        (fun s => blocks_composes composes calls depth s body) _ _ _) fun o => composes.const _
    | _ => exact composes.const _

theorem blocks_composes (composes : Composes P) {call : ι → Caller σ κ}
    (calls : ∀ s c k, P _ fun i => call i s c k) (depth : Nat) (s : σ) :
    ∀ bs : List Block, P _ fun i => blocks env (call i) depth s bs
  | [] => by
    unfold blocks
    exact composes.const _
  | b :: bs => by
    unfold blocks
    refine composes.bind (block_composes composes calls depth s b) fun o => ?_
    exact composes.bind (blocks_composes composes calls depth o.1 bs) fun rest => composes.const _

end

theorem invoke_composes (composes : Composes P) (call : ι → Caller σ κ)
    (calls : ∀ s c k, P _ fun i => call i s c k) (s : σ) (c : κ) (k : Call κ) :
    P _ fun i => invoke env (call i) s c k := by
  unfold invoke
  refine composes.bind (composes.const _) fun slots => ?_
  refine composes.bind (composes.const _) fun s₁ => ?_
  refine composes.bind (composes.const _) fun s₂ => ?_
  refine composes.bind (composes.const _) fun s₃ => ?_
  exact composes.bind (blocks_composes composes calls _ _ _) fun o => composes.const _

theorem scriptWith_composes (composes : Composes P) (call : ι → Caller σ κ)
    (calls : ∀ s c k, P _ fun i => call i s c k) (s : σ) (script : List Block) :
    P _ fun i => scriptWith env (call i) s script := by
  unfold scriptWith
  refine composes.bind (composes.const _) fun symbols => ?_
  exact composes.bind (blocks_composes composes calls _ _ _) fun o => composes.const _

end Translate

/-! ### Limits on nested calls -/

/-- Two runs that are the same, unless the first one stops in some way. -/
def SameUnless (stop : Stop) (r r' : Run α) : Prop := r = .error stop ∨ r' = r

namespace SameUnless

variable {stop : Stop}

theorem composes (stop : Stop) :
    Composes fun α (r : Bool → Run α) => SameUnless stop (r false) (r true) where
  const r := .inr rfl
  bind {α β r k} h next := by
    rcases h with stopped | same
    · left
      simp only [stopped, error_bind]
    · simp only [same]
      cases r false with
      | error e => exact .inr rfl
      | ok a => exact next a

theorem eq {r r' : Run α} (h : SameUnless stop r r') (goes : r ≠ .error stop) : r' = r := by
  rcases h with stopped | same
  · exact absurd stopped goes
  · exact same

end SameUnless

namespace Translate

variable {σ κ μ : Type} [Host] [Defined κ] [Scoping σ κ μ] {env : Env}

/-- The first caller at index `false`, the second one at `true`. -/
abbrev pair (call call' : Caller σ κ) : Bool → Caller σ κ := fun i => bif i then call' else call

theorem invoke_same {stop : Stop} {call call' : Caller σ κ}
    (same : ∀ s c k, SameUnless stop (call s c k) (call' s c k)) (s : σ) (c : κ) (k : Call κ) :
    SameUnless stop (invoke env call s c k) (invoke env call' s c k) :=
  invoke_composes (SameUnless.composes stop) (pair call call') same s c k

/-- A higher limit changes nothing but that a call stops later. -/
theorem expand_same {limit limit' : Nat} (le : limit ≤ limit') (s : σ) (c : κ) (k : Call κ) :
    SameUnless .callDepth (expand env limit s c k) (expand env limit' s c k) := by
  induction limit generalizing limit' s c k with
  | zero => exact .inl rfl
  | succ limit ih =>
    obtain ⟨more, rfl⟩ := Nat.exists_eq_add_of_lt le
    exact invoke_same (ih (Nat.le_add_right limit more)) s c k

theorem script_same {limit limit' : Nat} (le : limit ≤ limit') (s : σ) (blocks : List Block) :
    SameUnless .callDepth (script env limit s blocks : Run (Document κ))
      (script env limit' s blocks) :=
  scriptWith_composes (SameUnless.composes .callDepth) (pair (expand env limit) (expand env limit'))
    (expand_same le) s blocks

end Translate

end MarkupTemplate

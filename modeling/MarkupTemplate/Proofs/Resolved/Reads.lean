import MarkupTemplate.Proofs.Resolved.Failures
import MarkupTemplate.Script.Resolve

/-!
# Reading visible symbols

Blocks that read symbols only where they are visible. Evaluating what such a block reads fails
plainly, if at all.
-/

namespace MarkupTemplate

open Resolve (partExprs argExprs defaultExprs)

/-! ### Expressions -/

mutual

/-- The expression reads visible symbols. -/
def Expr.ReadsIn (visible : List String) : Expr → Prop
  | .literal .. => True
  | .var name _ => varSymbol name.name ∈ visible
  | .tagRef name => tagSymbol name.name ∈ visible
  | .list items | .concat items => Expr.AllReadIn visible items
  | .not e => e.ReadsIn visible
  | .filter receiver name args =>
    receiver.ReadsIn visible ∧ varSymbol name.name ∈ visible ∧ Expr.AllReadIn visible args

def Expr.AllReadIn (visible : List String) : List Expr → Prop
  | [] => True
  | e :: es => e.ReadsIn visible ∧ Expr.AllReadIn visible es

end

theorem Expr.AllReadIn.of_mem {visible : List String} {es : List Expr}
    (h : Expr.AllReadIn visible es) {e : Expr} (member : e ∈ es) : e.ReadsIn visible := by
  induction es with
  | nil => cases member
  | cons first rest ih =>
    obtain ⟨here, later⟩ := h
    rcases List.mem_cons.mp member with rfl | member
    · exact here
    · exact ih later member

section Eval

variable {κ : Type} {allowed : ErrorCategory → Prop} {visible : List String}
  {look : String → Option (Value κ)}

theorem valueOf_fails (source : String) (shown : ∀ symbol ∈ visible, (look symbol).isSome)
    {symbol : String} (span : Span) (reads : allowed .undefinedSymbol ∨ symbol ∈ visible) :
    FailsIn allowed (valueOf source look symbol span) := by
  unfold valueOf
  split
  · exact .ok _
  · next missing =>
    rcases reads with undefined | read
    · exact .locate (.fail undefined) source span
    · have found := shown symbol read
      rw [missing] at found
      cases found

variable [Host] [Shows κ]

mutual

/-- An expression fails for a type, or for want of a symbol unless it reads visible symbols. -/
theorem Expr.eval_fails [Host.FunctionsFailIn allowed] (type : allowed .type) (source : String)
    (shown : ∀ symbol ∈ visible, (look symbol).isSome) :
    ∀ e : Expr, allowed .undefinedSymbol ∨ e.ReadsIn visible → FailsIn allowed (e.eval source look)
  | .literal value _, _ => .ok value.lift
  | .var name path, reads => by
    unfold eval
    exact .bind (valueOf_fails source shown _ reads) fun v _ => v.follow_fails type source path
  | .tagRef name, reads => by
    unfold eval
    refine .bind (valueOf_fails source shown _ reads) fun v _ => ?_
    split
    · exact .ok v
    · exact .locate (.fail type) source _
  | .list items, reads => .map _ (Expr.evalAll_fails type source shown items reads)
  | .not e, reads => by
    unfold eval
    exact .bind (Expr.eval_fails type source shown e reads) fun v _ => .ok _
  | .concat items, reads => .map _ (Expr.evalText_fails type source shown items reads)
  | .filter receiver name args, reads => by
    unfold eval
    refine .bind (valueOf_fails source shown _ (reads.imp_right (·.2.1))) fun f _ => ?_
    split
    · refine .bind (Expr.eval_fails type source shown receiver (reads.imp_right (·.1))) fun v _ => ?_
      refine .bind (Expr.evalAll_fails type source shown args (reads.imp_right (·.2.2)))
        fun vs _ => ?_
      exact .locate (Function.call_fails type _ _) source _
    · exact .locate (.fail type) source _

theorem Expr.evalAll_fails [Host.FunctionsFailIn allowed] (type : allowed .type) (source : String)
    (shown : ∀ symbol ∈ visible, (look symbol).isSome) :
    ∀ es : List Expr, allowed .undefinedSymbol ∨ Expr.AllReadIn visible es →
      FailsIn allowed (Expr.evalAll source look es)
  | [], _ => .ok []
  | e :: es, reads => by
    unfold evalAll
    refine .bind (Expr.eval_fails type source shown e (reads.imp_right (·.1))) fun v _ => ?_
    exact .bind (Expr.evalAll_fails type source shown es (reads.imp_right (·.2))) fun vs _ => .ok _

theorem Expr.evalText_fails [Host.FunctionsFailIn allowed] (type : allowed .type) (source : String)
    (shown : ∀ symbol ∈ visible, (look symbol).isSome) :
    ∀ es : List Expr, allowed .undefinedSymbol ∨ Expr.AllReadIn visible es →
      FailsIn allowed (Expr.evalText source look es)
  | [], _ => .ok ""
  | e :: es, reads => by
    unfold evalText
    refine .bind (Expr.eval_fails type source shown e (reads.imp_right (·.1))) fun v _ => ?_
    refine .bind (.locate (v.text_fails type) source _) fun s _ => ?_
    exact .bind (Expr.evalText_fails type source shown es (reads.imp_right (·.2))) fun rest _ => .ok _

end

theorem Expr.eval_plain [Host.FunctionsFailIn (·.isScope = false)] (source : String)
    (shown : ∀ symbol ∈ visible, (look symbol).isSome) {e : Expr} (reads : e.ReadsIn visible) :
    Plain (e.eval source look) :=
  Expr.eval_fails (by rfl) source shown e (.inr reads)

end Eval

/-! ### Blocks -/

/-- The symbols that a block leaves bound. -/
def Block.bound (m : Modules) : Block → List String
  | .define signature _ => [tagSymbol signature.name.name]
  | .assign name _ => [varSymbol name.name]
  | .context names => names.map (varSymbol ·.name)
  | .importFrom path none _ => ((m.publicSymbols path).toOption.getD []).map (·.1)
  | .importFrom _ (some items) _ => items.map (·.name)
  | _ => []

/-- The symbols that a definition binds for its body. -/
def Signature.bound (s : Signature) : List String :=
  s.params.map (varSymbol ·.name.name) ++ s.bodyParam.toList.map (varSymbol ·.name)

mutual

/-- The names that a block takes from the caller. -/
def Block.contextNames : Block → List Ident
  | .context names => names
  | .call _ _ body _ | .define _ body | .loop _ _ body => Block.allContextNames body
  | .branch _ thenBlocks elseBlocks =>
    Block.allContextNames thenBlocks ++ Block.allContextNames elseBlocks
  | _ => []

def Block.allContextNames : List Block → List Ident
  | [] => []
  | b :: bs => b.contextNames ++ Block.allContextNames bs

end

mutual

/-- The block reads symbols where they are visible, imports what there is, and takes from the caller
what is provided. -/
def Block.ReadsIn (env : Translate.Env) (visible : List String) : Block → Prop
  | .text parts _ => Expr.AllReadIn visible (partExprs parts)
  | .call name args body _ =>
    (tagSymbol name.name ∈ visible ∨ varSymbol name.name ∈ visible) ∧
      Expr.AllReadIn visible (argExprs args) ∧ Block.AllReadIn env visible body
  | .embed e _ => e.ReadsIn visible
  | .define signature body =>
    Expr.AllReadIn visible (defaultExprs signature.params) ∧
      Block.AllReadIn env (visible ++ signature.bound) body
  | .assign _ e => e.ReadsIn visible
  | .context names => ∀ name ∈ names, (Dict.get? name.name env.context).isSome
  | .importFrom path none _ => ∃ symbols, env.modules.publicSymbols path = .ok symbols
  | .importFrom path (some items) _ =>
    ∀ item ∈ items, ∃ v, env.modules.symbol item.name path = .ok v
  | .branch condition thenBlocks elseBlocks =>
    condition.ReadsIn visible ∧ Block.AllReadIn env visible thenBlocks ∧
      Block.AllReadIn env visible elseBlocks
  | .loop name items body =>
    items.ReadsIn visible ∧ Block.AllReadIn env (visible ++ [varSymbol name.name]) body

/-- The blocks do so, each with what those before it leave bound. -/
def Block.AllReadIn (env : Translate.Env) (visible : List String) : List Block → Prop
  | [] => True
  | b :: bs => b.ReadsIn env visible ∧ Block.AllReadIn env (visible ++ b.bound env.modules) bs

end

/-! ### Evaluating what a block reads -/

namespace Translate

variable {σ κ μ : Type} [Scoping σ κ μ] {env : Env} {s : σ} {visible : List String}

/-- Every symbol of a list is visible in a state. -/
def Covers (visible : List String) (s : σ) : Prop :=
  ∀ symbol ∈ visible, (Scoping.find? symbol s).isSome

section Fails

variable [Host] [Defined κ] {allowed : ErrorCategory → Prop}

theorem writeParts_fails {parts : List Part}
    (evals : ∀ e ∈ partExprs parts, FailsIn allowed (eval env s e))
    (formats : ∀ e ∈ partExprs parts, ∀ v, eval env s e = .ok v →
      FailsIn allowed (formatValue env e.span v)) : FailsIn allowed (writeParts env s parts) := by
  induction parts with
  | nil => exact .ok ""
  | cons part rest ih =>
    unfold writeParts
    cases part with
    | raw text => exact .map _ (ih evals formats)
    | expr e =>
      obtain ⟨first, later⟩ := List.forall_mem_cons.mp evals
      obtain ⟨here, others⟩ := List.forall_mem_cons.mp formats
      refine .bind first fun v value => ?_
      exact .bind (here v value) fun text _ => .map _ (ih later others)

theorem evalArgs_fails {args : List Arg}
    (evals : ∀ e ∈ argExprs args, FailsIn allowed (eval env s e)) :
    FailsIn allowed (evalArgs env s args) := by
  induction args with
  | nil => exact .ok ([], [])
  | cons arg rest ih =>
    unfold evalArgs
    cases arg <;> obtain ⟨first, later⟩ := List.forall_mem_cons.mp evals
    · exact .bind first fun v _ => .bind (ih later) fun values _ => .ok _
    · exact .bind first fun v _ => .bind (ih later) fun values _ => .ok _

end Fails

namespace Covers

section Evaluation

variable [Host] [Defined κ] [Host.FunctionsFailIn (·.isScope = false)]

theorem eval_plain (h : Covers visible s) {e : Expr} (reads : e.ReadsIn visible) :
    Plain (eval env s e) := by
  refine Expr.eval_plain env.source (fun symbol member => ?_) reads
  rw [value?, Option.isSome_map]
  exact h symbol member

theorem writeParts_plain [Host.TagsFailIn (·.isScope = false)] (h : Covers visible s) {parts : List Part}
    (reads : Expr.AllReadIn visible (partExprs parts)) : Plain (writeParts env s parts) :=
  writeParts_fails (fun _ member => h.eval_plain (reads.of_mem member))
    fun _ _ v _ => formatValue_plain env _ v

theorem evalArgs_plain (h : Covers visible s) {args : List Arg}
    (reads : Expr.AllReadIn visible (argExprs args)) : Plain (evalArgs env s args) :=
  evalArgs_fails fun _ member => h.eval_plain (reads.of_mem member)

end Evaluation

/-- A name of a call that is visible stands for something, if its tag symbol is bound to nothing but
tags and closures. -/
theorem called_plain (h : Covers visible s) {name : Ident}
    (read : tagSymbol name.name ∈ visible ∨ varSymbol name.name ∈ visible)
    (callable : ∀ i v, Scoping.find? (tagSymbol name.name) s = some (i, v) → v.kind = .callable) :
    Plain (called env s name) := by
  have holds : ∀ v : Value κ, v.kind = .callable → called.callable? v ≠ none := by
    intro v kind
    cases v <;> simp [Value.kind, called.callable?] at kind ⊢
  unfold called
  split
  · next i defined j held found _ =>
    split
    · exact .ok _
    · exact .ok _
    · exact .ok _
    · exact .locate (Plain.fail rfl) _ _
  · next i defined found _ =>
    split
    · exact .ok _
    · next missing => exact absurd missing (holds defined (callable i defined found))
  · split
    · exact .ok _
    · exact .locate (Plain.fail rfl) _ _
  · next noTag noVar =>
    rcases read with tag | var
    · have shown := h _ tag
      rw [noTag] at shown
      cases shown
    · have shown := h _ var
      rw [noVar] at shown
      cases shown

end Covers

end Translate

end MarkupTemplate

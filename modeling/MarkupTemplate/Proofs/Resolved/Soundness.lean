import MarkupTemplate.Proofs.Lexical.Calls
import MarkupTemplate.Proofs.Resolved.Names
import MarkupTemplate.Proofs.Resolved.Registered
import MarkupTemplate.Proofs.Scoping.Refinement

/-!
# Resolved scripts find what they read

A lexical run of blocks that read visible symbols only stays in states whose bindings are those that
resolving saw, and in which every closure has a body of such blocks over what it captured.
-/

namespace MarkupTemplate

open Resolve (argExprs defaultExprs)

/-- A capture whose body and defaults read what it sees, and that sees such captures only. -/
inductive Capture.Closed (env : Translate.Env) : Capture → Prop where
  | mk {d : Definition} {bindings : List (String × Value Capture)}
    (held : ∀ b ∈ bindings, ∀ c ∈ b.2.closures, Closed env c)
    (callable : CallableTags bindings)
    (defaults : Expr.AllReadIn (bindings.map (·.1)) (defaultExprs d.signature.params))
    (body : Block.AllReadIn env (bindings.map (·.1) ++ d.signature.bound) d.body) :
    Closed env (.mk d bindings)

namespace Translate

variable {env : Env} {visible : List String} {s s' : Lexical}

/-- The bindings of a state are those that resolving saw, tags are callable, and closures find what
they read. -/
structure Lexical.Closed (env : Env) (visible : List String) (s : Lexical) : Prop extends
    s.Holds (Capture.Closed env) where
  names : s.bindings.map (·.1) = visible
  callable : CallableTags s.bindings

namespace Lexical.Closed

theorem covers (h : s.Closed env visible) : Covers visible s := by
  intro symbol member
  exact isSome_lastBinding?.mpr (h.names ▸ member)

theorem found_callable (h : s.Closed env visible) {name : String} {i : Nat} {v : Value Capture}
    (found : Scoping.find? (tagSymbol name) s = some (i, v)) : v.kind = .callable :=
  h.callable _ (List.mem_of_getElem? (mem_of_lastBinding? found)) name rfl

theorem withIndent (h : s.Closed env visible) {indent : String} (nonempty : indent ≠ "") :
    Lexical.Closed env visible { s with indent } :=
  ⟨h.toHolds.withIndent nonempty, h.names, h.callable⟩

theorem push (h : s.Closed env visible) {name : String} {v : Value Capture}
    (holds : v.Holds (Capture.Closed env)) (callable : CallableTags [(name, v)]) :
    Lexical.Closed env (visible ++ [name]) (Scoping.push name v s) := by
  refine ⟨h.toHolds.push name holds, ?_, h.callable.append callable⟩
  change (s.bindings ++ [(name, v)]).map (·.1) = visible ++ [name]
  rw [List.map_append, h.names]
  rfl

theorem pushVar (h : s.Closed env visible) (name : String) {v : Value Capture}
    (holds : v.Holds (Capture.Closed env)) :
    Lexical.Closed env (visible ++ [varSymbol name]) (Scoping.push (varSymbol name) v s) :=
  h.push holds (.var name v)

theorem pushLift (h : s.Closed env visible) {name : String} {v : Value Empty}
    (callable : CallableTags [(name, v)]) :
    Lexical.Closed env (visible ++ [name]) (Scoping.push name v.lift s) := by
  refine h.push (Value.holds_lift v) ?_
  intro entry member other same
  obtain rfl := List.mem_singleton.mp member
  rw [Value.lift, Value.kind_mapClosures]
  exact callable _ List.mem_cons_self other same

theorem pushAll (h : s.Closed env visible) {symbols : List (String × Value Empty)}
    (callable : CallableTags symbols) :
    Lexical.Closed env (visible ++ symbols.map (·.1)) (pushAll s symbols) := by
  induction symbols generalizing s visible with
  | nil => simpa [Translate.pushAll] using h
  | cons entry rest ih =>
    obtain ⟨first, others⟩ := List.forall_mem_cons.mp callable
    have pushed := ih (h.pushLift (List.forall_mem_singleton.mpr first)) others
    rwa [List.append_assoc] at pushed

theorem define (h : s.Closed env visible) (depth : Nat) {signature : Signature}
    {body : List Block} (defaults : Expr.AllReadIn visible (defaultExprs signature.params))
    (reads : Block.AllReadIn env (visible ++ signature.bound) body) :
    Lexical.Closed env (visible ++ [tagSymbol signature.name.name])
      (define depth s signature body) := by
  have closed : Capture.Closed env (.mk ⟨signature, body, depth⟩ s.bindings) :=
    .mk h.held h.callable (h.names ▸ defaults) (h.names ▸ reads)
  exact h.push (Value.holds_closure.mpr closed) (.of_kind _ rfl)

end Lexical.Closed

/-! ### Blocks -/

/-- A run may stop as it likes but for an error of a category that resolving rules out. -/
def PlainStop (stop : Stop) : Prop := ∀ e, stop = .error e → e.Plain

theorem PlainStop.error (e : Error) (h : e.Plain) : PlainStop (.error e) := by
  intro e' same
  cases same
  exact h

theorem bindContext_ends (h : s.Closed env visible) {names : List Ident}
    (provided : ∀ name ∈ names, (Dict.get? name.name env.context).isSome) :
    Ends PlainStop (Lexical.Closed env (visible ++ names.map (varSymbol ·.name)))
      (bindContext env s names) := by
  induction names generalizing s visible with
  | nil => simpa [bindContext, Ends] using h
  | cons name rest ih =>
    obtain ⟨here, others⟩ := List.forall_mem_cons.mp provided
    obtain ⟨v, found⟩ := Option.isSome_iff_exists.mp here
    have later := ih (h.pushLift (.var name.name v)) others
    rw [List.append_assoc] at later
    unfold bindContext
    rw [found]
    exact later

theorem bindItems_ends (registered : env.modules.Registered) (h : s.Closed env visible)
    {path : String} {items : List Ident}
    (imported : ∀ item ∈ items, ∃ v, env.modules.symbol item.name path = .ok v) :
    Ends PlainStop (Lexical.Closed env (visible ++ items.map (·.name)))
      (bindItems env path s items) := by
  induction items generalizing s visible with
  | nil => simpa [bindItems, Ends] using h
  | cons item rest ih =>
    obtain ⟨⟨v, found⟩, others⟩ := List.forall_mem_cons.mp imported
    have later := ih (h.pushLift (registered.symbol found)) others
    rw [List.append_assoc] at later
    unfold bindItems
    rw [found]
    exact later

namespace Lexical.Closed

theorem adds {names : List Ident} (h : s.Closed env visible)
    (added : Adds (Capture.Closed env) s (names.map (varSymbol ·.name)) s') :
    s'.Closed env (visible ++ names.map (varSymbol ·.name)) := by
  obtain ⟨more, bindings, same, -⟩ := added.bindings
  refine ⟨h.toHolds.adds added, ?_, ?_⟩
  · rw [bindings, List.map_append, h.names, same]
  · rw [bindings]
    refine h.callable.append fun b member other tag => ?_
    have name : b.1 ∈ names.map (varSymbol ·.name) := same ▸ List.mem_map_of_mem member
    obtain ⟨ident, -, var⟩ := List.mem_map.mp name
    exact absurd (var.trans tag) (varSymbol_ne_tagSymbol ident.name other)

theorem append_nil (h : s.Closed env visible) : s.Closed env (visible ++ []) := by
  rw [List.append_nil]
  exact h

theorem called_ends (h : s.Closed env visible) {name : Ident}
    (read : tagSymbol name.name ∈ visible ∨ varSymbol name.name ∈ visible) :
    Ends PlainStop (fun target => ∀ c, target = .inr c → Capture.Closed env c)
      (liftM (called env s name) : Run _) := by
  refine ends_of_plain PlainStop.error
    (h.covers.called_plain read fun _ _ => h.found_callable) fun target found c same => ?_
  rw [same] at found
  exact h.sees.called_holds found

variable [Host] [Host.HandsOn] [Host.FunctionsFailIn (·.isScope = false)]

theorem eval_ends (h : s.Closed env visible) {e : Expr} (reads : e.ReadsIn visible) :
    Ends PlainStop (Value.Holds (Capture.Closed env)) (liftM (eval env s e) : Run _) := by
  refine ends_of_plain PlainStop.error (h.covers.eval_plain reads) fun v evaluated => ?_
  exact h.sees.eval_holds evaluated

theorem evalArgs_ends (h : s.Closed env visible) {args : List Arg}
    (reads : Expr.AllReadIn visible (argExprs args)) :
    Ends PlainStop (fun o => ArgsHold (Capture.Closed env) o.1 o.2)
      (liftM (evalArgs env s args) : Run _) := by
  refine ends_of_plain PlainStop.error (h.covers.evalArgs_plain reads) fun o evaluated => ?_
  exact h.sees.evalArgs_hold evaluated

end Lexical.Closed

variable [Host]

/-- Calls of closed captures give the state back. -/
def CallsReturn (env : Env) (call : Caller Lexical Capture) : Prop :=
  ∀ s c k, Capture.Closed env c → ArgsHold (Capture.Closed env) k.positional k.named →
    Returns PlainStop s (call s c k)

mutual

theorem block_ends [Host.HandsOn] [Host.FunctionsFailIn (·.isScope = false)]
    [Host.TagsFailIn (·.isScope = false)] (registered : env.modules.Registered)
    {call : Caller Lexical Capture} (calls : CallsReturn env call) :
    ∀ (b : Block) (depth : Nat) (visible : List String) (s : Lexical),
      s.Closed env visible → b.ReadsIn env visible →
      Ends PlainStop (fun o => o.1.Closed env (visible ++ b.bound env.modules))
        (block env call depth s b)
  | .text parts layout, depth, visible, s, h, reads => by
    unfold block
    refine Returns.keeps (indented_returns PlainStop.error h.indent layout ?_) h.append_nil
    intro indent place nonempty
    have covers := (h.withIndent nonempty).covers
    exact text_returns PlainStop.error place
      (ends_of_plain PlainStop.error (covers.writeParts_plain reads) fun _ _ => trivial)
  | .call name args body layout, depth, visible, s, h, ⟨read, takes, within⟩ => by
    unfold block
    refine Ends.bind (h.called_ends read) fun target closed => ?_
    refine Ends.bind (h.evalArgs_ends takes) fun ⟨vs, named⟩ held => ?_
    refine Returns.keeps (indented_returns PlainStop.error h.indent layout ?_) h.append_nil
    intro indent place nonempty
    have inside := blocks_end registered calls body depth visible _ (h.withIndent nonempty) within
    refine Ends.bind (confined_returns inside) fun o same => ?_
    simp only [same]
    exact finishCall_returns PlainStop.error fun c same => calls _ c _ (closed c same) held
  | .embed e layout, depth, visible, s, h, reads => by
    unfold block
    refine Ends.bind (h.eval_ends reads) fun v _ => ?_
    have flattens : Plain (locate env.source e.span v.flatten) :=
      .locate (v.flatten_fails (by rfl)) env.source e.span
    refine Ends.bind (p := fun _ => True)
      (ends_of_plain PlainStop.error flattens fun _ _ => trivial) fun ns _ => ?_
    refine Returns.keeps (indented_returns PlainStop.error h.indent layout ?_) h.append_nil
    intro indent place _
    exact embed_returns PlainStop.error ns place
  | .define signature body, depth, visible, s, h, ⟨defaults, reads⟩ =>
    h.define depth defaults reads
  | .assign name e, depth, visible, s, h, reads => by
    unfold block
    exact Ends.bind (h.eval_ends reads) fun v holds => h.pushVar name.name holds
  | .context names, depth, visible, s, h, provided => by
    unfold block
    exact Ends.bind (bindContext_ends h provided) fun s' h' => h'
  | .importFrom path none span, depth, visible, s, h, ⟨symbols, found⟩ => by
    unfold block
    have bound : (Block.importFrom path none span).bound env.modules = symbols.map (·.1) := by
      simp only [Block.bound, found, Except.toOption, Option.getD_some]
    rw [found, bound]
    exact h.pushAll (registered.publicSymbols found)
  | .importFrom path (some items) span, depth, visible, s, h, imported => by
    unfold block
    exact Ends.bind (bindItems_ends registered h imported) fun s' h' => h'
  | .branch condition thenBlocks elseBlocks, depth, visible, s, h,
      ⟨reads, thenReads, elseReads⟩ => by
    unfold block
    refine Ends.bind (h.eval_ends reads) fun v _ => ?_
    split
    · have inside := blocks_end registered calls thenBlocks depth visible s h thenReads
      exact Returns.keeps (confined_returns inside) h.append_nil
    · have inside := blocks_end registered calls elseBlocks depth visible s h elseReads
      exact Returns.keeps (confined_returns inside) h.append_nil
  | .loop name items body, depth, visible, s, h, ⟨reads, within⟩ => by
    unfold block
    refine Ends.bind (h.eval_ends reads) fun v holds => ?_
    split
    · next values =>
      have iterations : ∀ w ∈ values, Ends PlainStop (fun o => o.1.Closed env
          (visible ++ [varSymbol name.name] ++ body.flatMap (Block.bound env.modules)))
          (blocks env call depth (Scoping.push (varSymbol name.name) w s) body) := by
        intro w member
        have held := Value.holds_list.mp holds w member
        exact blocks_end registered calls body depth _ _ (h.pushVar name.name held) within
      exact Ends.bind (forEach_ends (varSymbol name.name) .none values iterations)
        fun o _ => h.append_nil
    · exact PlainStop.error _ ((Cause.toError_plain rfl).placed env.source items.span)

theorem blocks_end [Host.HandsOn] [Host.FunctionsFailIn (·.isScope = false)]
    [Host.TagsFailIn (·.isScope = false)] (registered : env.modules.Registered)
    {call : Caller Lexical Capture} (calls : CallsReturn env call) :
    ∀ (bs : List Block) (depth : Nat) (visible : List String) (s : Lexical),
      s.Closed env visible → Block.AllReadIn env visible bs →
      Ends PlainStop (fun o => o.1.Closed env (visible ++ bs.flatMap (Block.bound env.modules)))
        (blocks env call depth s bs)
  | [], depth, visible, s, h, _ => h.append_nil
  | b :: bs, depth, visible, s, h, ⟨first, rest⟩ => by
    unfold blocks
    refine Ends.bind (block_ends registered calls b depth visible s h first) fun ⟨s₁, ns⟩ h₁ => ?_
    refine Ends.bind (blocks_end registered calls bs depth _ s₁ h₁ rest) fun ⟨s₂, more⟩ h₂ => ?_
    rw [List.append_assoc] at h₂
    exact h₂

end

/-! ### Calls -/

variable [Host.HandsOn] [Host.FunctionsFailIn (·.isScope = false)]
  [Host.TagsFailIn (·.isScope = false)]

end Translate

/-! ### Templates -/

theorem Modules.Registered.initialSymbols {m : Modules} (h : m.Registered)
    {symbols : Dict (Value Empty)} (ok : m.initialSymbols = .ok symbols) : CallableTags symbols :=
  h.publicSymbols ok

namespace Template

section Hosted

variable [Host] [Host.HandsOn] [Host.FunctionsFailIn (·.isScope = false)]
  [Host.TagsFailIn (·.isScope = false)]

end Hosted

end Template

end MarkupTemplate

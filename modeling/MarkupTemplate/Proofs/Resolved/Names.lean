import MarkupTemplate.Proofs.Resolved.Reads
import MarkupTemplate.Proofs.Scoping.Agree

/-!
# Resolved blocks

Resolving blocks keeps the names that are bound on a stack. If it succeeds, the blocks that come out
read symbols only where they are visible.
-/

namespace MarkupTemplate

open Scope
open Resolve (partExprs argExprs defaultExprs)

namespace Resolve

variable {s s' : State} {visible : List String}

/-- The depths that are bound in a state, in order. -/
structure State.Binds (s : State) (bindings : List (String × Nat)) : Prop where
  store : s.store.WellFormed
  level : s.stack.level < s.store.levels.size
  full : s.store.Full (s.stack.branch s.store)
  bindings : s.store.bindings (s.stack.branch s.store) = bindings

namespace State.Binds

variable {bindings : List (String × Nat)}

theorem withReads (h : s.Binds bindings) (reads : Option Nat) :
    State.Binds { s with reads } bindings :=
  ⟨h.store, h.level, h.full, h.bindings⟩

theorem push (h : s.Binds bindings) (symbol : String) (depth : Nat) :
    (s.push symbol depth).Binds (bindings ++ [(symbol, depth)]) := by
  refine ⟨Stack.wellFormed_push h.store symbol depth, ?_,
    Stack.full_push h.store h.level symbol depth h.full, ?_⟩
  · exact Nat.lt_of_lt_of_eq h.level (Store.size_modify _ _ _).symm
  · have pushed := Stack.bindings_push h.store h.level symbol depth
    rwa [h.bindings] at pushed

theorem pushAll (h : s.Binds bindings) (symbols : List String) (depth : Nat) :
    (s.pushAll symbols depth).Binds (bindings ++ symbols.map (·, depth)) := by
  induction symbols generalizing s bindings with
  | nil => simpa [State.pushAll] using h
  | cons symbol rest ih =>
    have later := ih (h.push symbol depth)
    rwa [List.append_assoc] at later

theorem length (h : s.Binds bindings) : s.checkpoint.length = bindings.length := by
  rw [← h.bindings, Store.length_bindings h.full]
  rfl

theorem depth?_eq (h : s.Binds bindings) (symbol : String) :
    s.depth? symbol = (lastBinding? symbol bindings).map (·.2) := by
  rw [← h.bindings, ← Store.findOn?_eq_lastBinding? h.store h.full]
  rfl

/-- Going back to a checkpoint leaves what was bound there. -/
theorem reset {more : List (String × Nat)} {c : Checkpoint} (h : s.Binds (bindings ++ more))
    (length : c.length = bindings.length) (ok : s.reset c = .ok s') : s'.Binds bindings := by
  obtain ⟨⟨store, stack⟩, undone, ok⟩ := bind_eq_ok.mp ok
  obtain rfl := Except.ok.inj ok
  obtain ⟨wf, level⟩ := Stack.wellFormed_reset h.store undone
  obtain ⟨full, left⟩ := Stack.bindings_reset h.store h.level h.full undone
  obtain ⟨-, -, -, popped⟩ := Stack.reset_cases undone
  refine ⟨wf, ?_, full, ?_⟩
  · rw [level, popped, Store.size_modify]
    exact h.level
  · change store.bindings (stack.branch store) = bindings
    rw [left, h.bindings, length, List.take_left]

end State.Binds

/-- The names that are bound in a state, in order. -/
structure State.Named (s : State) (visible : List String) : Prop where
  store : s.store.WellFormed
  level : s.stack.level < s.store.levels.size
  full : s.store.Full (s.stack.branch s.store)
  names : (s.store.bindings (s.stack.branch s.store)).map (·.1) = visible

theorem State.Binds.named {bindings : List (String × Nat)} (h : s.Binds bindings)
    (names : bindings.map (·.1) = visible) : s.Named visible :=
  ⟨h.store, h.level, h.full, h.bindings ▸ names⟩

namespace State.Named

theorem binds (h : s.Named visible) :
    ∃ bindings, s.Binds bindings ∧ bindings.map (·.1) = visible :=
  ⟨_, ⟨h.store, h.level, h.full, rfl⟩, h.names⟩

theorem read (h : s.Named visible) (depth : Nat) : (s.read depth).Named visible :=
  ⟨h.store, h.level, h.full, h.names⟩

theorem withReads (h : s.Named visible) (reads : Option Nat) :
    State.Named { s with reads } visible :=
  ⟨h.store, h.level, h.full, h.names⟩

theorem push (h : s.Named visible) (symbol : String) (depth : Nat) :
    (s.push symbol depth).Named (visible ++ [symbol]) := by
  obtain ⟨bindings, bound, rfl⟩ := h.binds
  exact (bound.push symbol depth).named List.map_append

theorem pushAll (h : s.Named visible) (symbols : List String) (depth : Nat) :
    (s.pushAll symbols depth).Named (visible ++ symbols) := by
  obtain ⟨bindings, bound, rfl⟩ := h.binds
  refine (bound.pushAll symbols depth).named ?_
  simp [Function.comp_def]

theorem length (h : s.Named visible) : s.checkpoint.length = visible.length := by
  obtain ⟨bindings, bound, rfl⟩ := h.binds
  rw [bound.length, List.length_map]

theorem mem (h : s.Named visible) {symbol : String} {depth : Nat}
    (found : s.depth? symbol = some depth) : symbol ∈ visible := by
  obtain ⟨bindings, bound, rfl⟩ := h.binds
  rw [bound.depth?_eq] at found
  obtain ⟨⟨i, d⟩, last, rfl⟩ := Option.map_eq_some_iff.mp found
  exact List.mem_map_of_mem (List.mem_of_getElem? (mem_of_lastBinding? last))

/-- Going back to a checkpoint leaves the names that were bound there. -/
theorem reset {more : List String} {c : Checkpoint} (h : s.Named (visible ++ more))
    (length : c.length = visible.length) (ok : s.reset c = .ok s') : s'.Named visible := by
  obtain ⟨bindings, bound, names⟩ := h.binds
  obtain ⟨kept, gone, rfl, rfl, -⟩ := List.map_eq_append_iff.mp names
  exact (bound.reset (length.trans (List.length_map _)) ok).named rfl

end State.Named

/-! ### Expressions -/

variable {env : Env}

theorem symbol_reads (h : s.Named visible) {name : String} {span : Span}
    (ok : symbol env s name span = .ok s') : name ∈ visible ∧ s'.Named visible := by
  unfold symbol at ok
  split at ok
  · next found =>
    obtain rfl := Except.ok.inj ok
    exact ⟨h.mem found, h.read _⟩
  · cases ok

theorem calledName_reads (h : s.Named visible) {name : Ident}
    (ok : calledName env s name = .ok s') :
    (tagSymbol name.name ∈ visible ∨ varSymbol name.name ∈ visible) ∧ s'.Named visible := by
  unfold calledName at ok
  split at ok
  · cases ok
  · next found _ =>
    obtain rfl := Except.ok.inj ok
    exact ⟨.inl (h.mem found), h.read _⟩
  · next found =>
    obtain rfl := Except.ok.inj ok
    exact ⟨.inr (h.mem found), h.read _⟩
  · next found _ =>
    obtain rfl := Except.ok.inj ok
    exact ⟨.inl (h.mem found), (h.read _).read _⟩

mutual

theorem expr_reads : ∀ (e : Expr) (s s' : State), s.Named visible → expr env s e = .ok s' →
    e.ReadsIn visible ∧ s'.Named visible
  | .literal .., s, s', h, ok => by
    obtain rfl := Except.ok.inj ok
    exact ⟨trivial, h⟩
  | .var name _, s, s', h, ok => symbol_reads h ok
  | .tagRef name, s, s', h, ok => symbol_reads h ok
  | .list items, s, s', h, ok => exprs_read items s s' h ok
  | .concat items, s, s', h, ok => exprs_read items s s' h ok
  | .not e, s, s', h, ok => expr_reads e s s' h ok
  | .filter receiver name args, s, s', h, ok => by
    obtain ⟨s₁, received, ok⟩ := bind_eq_ok.mp ok
    obtain ⟨s₂, named, ok⟩ := bind_eq_ok.mp ok
    obtain ⟨receives, h₁⟩ := expr_reads receiver s s₁ h received
    obtain ⟨visible, h₂⟩ := symbol_reads h₁ named
    obtain ⟨takes, h₃⟩ := exprs_read args s₂ s' h₂ ok
    exact ⟨⟨receives, visible, takes⟩, h₃⟩

theorem exprs_read : ∀ (es : List Expr) (s s' : State), s.Named visible →
    exprs env s es = .ok s' → Expr.AllReadIn visible es ∧ s'.Named visible
  | [], s, s', h, ok => by
    obtain rfl := Except.ok.inj ok
    exact ⟨trivial, h⟩
  | e :: es, s, s', h, ok => by
    obtain ⟨s₁, first, ok⟩ := bind_eq_ok.mp ok
    obtain ⟨reads, h₁⟩ := expr_reads e s s₁ h first
    obtain ⟨rest, h₂⟩ := exprs_read es s₁ s' h₁ ok
    exact ⟨⟨reads, rest⟩, h₂⟩

end

theorem importItems_names (h : s.Named visible) {path : String} {items : List Ident}
    (ok : importItems env path s items = .ok s') :
    (∀ item ∈ items, ∃ v, env.modules.symbol item.name path = .ok v) ∧
      s'.Named (visible ++ items.map (·.name)) := by
  induction items generalizing s visible with
  | nil =>
    obtain rfl := Except.ok.inj ok
    exact ⟨nofun, by simpa using h⟩
  | cons item rest ih =>
    obtain ⟨v, found, ok⟩ := bind_eq_ok.mp ok
    obtain ⟨others, named⟩ := ih (h.push item.name outsideDepth) ok
    have found := locate_eq_ok.mp (ofExcept_eq_ok.mp found)
    rw [List.append_assoc] at named
    exact ⟨List.forall_mem_cons.mpr ⟨⟨v, found⟩, others⟩, named⟩

/-! ### Blocks -/

/-- The caller provides names. -/
abbrev Provided (out : Translate.Env) (names : List Ident) : Prop :=
  ∀ name ∈ names, (Dict.get? name.name out.context).isSome

mutual

theorem block_reads (source : String) (out : Translate.Env) : ∀ (b : Block) (depth : Nat)
    (visible : List String) (s s' : State) (b' : Block), s.Named visible →
    block ⟨source, out.modules⟩ depth s b = .ok (s', b') → Provided out b'.contextNames →
    b'.ReadsIn out visible ∧ s'.Named (visible ++ b'.bound out.modules)
  | .text parts layout, depth, visible, s, s', b', h, ok, provided => by
    obtain ⟨s₁, read, ok⟩ := bind_eq_ok.mp ok
    obtain ⟨rfl, rfl⟩ := Prod.mk.inj (Except.ok.inj ok)
    obtain ⟨reads, h₁⟩ := exprs_read (partExprs parts) s s₁ h read
    exact ⟨reads, (List.append_nil visible).symm ▸ h₁⟩
  | .call name args body layout, depth, visible, s, s', b', h, ok, provided => by
    obtain ⟨s₁, named, ok⟩ := bind_eq_ok.mp ok
    obtain ⟨s₂, taken, ok⟩ := bind_eq_ok.mp ok
    obtain ⟨⟨s₃, body'⟩, within, ok⟩ := bind_eq_ok.mp ok
    obtain ⟨s₄, undone, ok⟩ := bind_eq_ok.mp ok
    obtain ⟨rfl, rfl⟩ := Prod.mk.inj (Except.ok.inj ok)
    obtain ⟨called, h₁⟩ := calledName_reads h named
    obtain ⟨takes, h₂⟩ := exprs_read (argExprs args) s₁ s₂ h₁ taken
    obtain ⟨reads, h₃⟩ := blocks_read source out body depth visible s₂ s₃ body' h₂ within provided
    exact ⟨⟨called, takes, reads⟩, (List.append_nil visible).symm ▸ h₃.reset h₂.length undone⟩
  | .embed e layout, depth, visible, s, s', b', h, ok, provided => by
    obtain ⟨s₁, read, ok⟩ := bind_eq_ok.mp ok
    obtain ⟨rfl, rfl⟩ := Prod.mk.inj (Except.ok.inj ok)
    obtain ⟨reads, h₁⟩ := expr_reads e s s₁ h read
    exact ⟨reads, (List.append_nil visible).symm ▸ h₁⟩
  | .define signature body, depth, visible, s, s', b', h, ok, provided => by
    obtain ⟨s₁, defaults, ok⟩ := bind_eq_ok.mp ok
    obtain ⟨⟨inner, body'⟩, within, ok⟩ := bind_eq_ok.mp ok
    obtain ⟨outer, undone, ok⟩ := bind_eq_ok.mp ok
    obtain ⟨rfl, rfl⟩ := Prod.mk.inj (Except.ok.inj ok)
    obtain ⟨reads, h₁⟩ := exprs_read (defaultExprs signature.params) s s₁ h defaults
    have inside := ((h₁.withReads none).pushAll
      (signature.params.map (varSymbol ·.name.name)) (depth + 1)).pushAll
        (signature.bodyParam.toList.map (varSymbol ·.name)) (depth + 1)
    rw [List.append_assoc] at inside
    obtain ⟨bodyReads, h₂⟩ := blocks_read source out body (depth + 1)
      (visible ++ signature.bound) _ inner body' inside within provided
    rw [List.append_assoc] at h₂
    have h₃ := (h₂.reset h₁.length undone).withReads s₁.reads
    refine ⟨⟨reads, bodyReads⟩, State.Named.push ?_ _ depth⟩
    split
    · split
      · exact h₃.read _
      · exact h₃
    · exact h₃
  | .assign name e, depth, visible, s, s', b', h, ok, provided => by
    obtain ⟨s₁, read, ok⟩ := bind_eq_ok.mp ok
    obtain ⟨rfl, rfl⟩ := Prod.mk.inj (Except.ok.inj ok)
    obtain ⟨reads, h₁⟩ := expr_reads e s s₁ h read
    exact ⟨reads, h₁.push _ depth⟩
  | .context names, depth, visible, s, s', b', h, ok, provided => by
    obtain ⟨rfl, rfl⟩ := Prod.mk.inj (Except.ok.inj ok)
    exact ⟨provided, h.pushAll _ outsideDepth⟩
  | .importFrom path none span, depth, visible, s, s', b', h, ok, provided => by
    obtain ⟨symbols, found, ok⟩ := bind_eq_ok.mp ok
    obtain ⟨rfl, rfl⟩ := Prod.mk.inj (Except.ok.inj ok)
    have found := locate_eq_ok.mp (ofExcept_eq_ok.mp found)
    have bound : (Block.importFrom path none span).bound out.modules = symbols.map (·.1) := by
      simp only [Block.bound, found, Except.toOption, Option.getD_some]
    exact ⟨⟨symbols, found⟩, bound ▸ h.pushAll _ outsideDepth⟩
  | .importFrom path (some items) span, depth, visible, s, s', b', h, ok, provided => by
    obtain ⟨s₁, imported, ok⟩ := bind_eq_ok.mp ok
    obtain ⟨rfl, rfl⟩ := Prod.mk.inj (Except.ok.inj ok)
    exact importItems_names h imported
  | .branch condition thenBlocks elseBlocks, depth, visible, s, s', b', h, ok, provided => by
    obtain ⟨s₁, read, ok⟩ := bind_eq_ok.mp ok
    obtain ⟨⟨s₂, thenBlocks'⟩, thenRun, ok⟩ := bind_eq_ok.mp ok
    obtain ⟨s₃, thenUndone, ok⟩ := bind_eq_ok.mp ok
    obtain ⟨⟨s₄, elseBlocks'⟩, elseRun, ok⟩ := bind_eq_ok.mp ok
    obtain ⟨s₅, elseUndone, ok⟩ := bind_eq_ok.mp ok
    obtain ⟨rfl, rfl⟩ := Prod.mk.inj (Except.ok.inj ok)
    obtain ⟨thenProvided, elseProvided⟩ := List.forall_mem_append.mp provided
    obtain ⟨reads, h₁⟩ := expr_reads condition s s₁ h read
    obtain ⟨thenReads, h₂⟩ :=
      blocks_read source out thenBlocks depth visible s₁ s₂ thenBlocks' h₁ thenRun thenProvided
    have h₃ := h₂.reset h₁.length thenUndone
    obtain ⟨elseReads, h₄⟩ :=
      blocks_read source out elseBlocks depth visible s₃ s₄ elseBlocks' h₃ elseRun elseProvided
    exact ⟨⟨reads, thenReads, elseReads⟩,
      (List.append_nil visible).symm ▸ h₄.reset h₃.length elseUndone⟩
  | .loop name items body, depth, visible, s, s', b', h, ok, provided => by
    obtain ⟨s₁, read, ok⟩ := bind_eq_ok.mp ok
    obtain ⟨⟨s₂, body'⟩, within, ok⟩ := bind_eq_ok.mp ok
    obtain ⟨s₃, undone, ok⟩ := bind_eq_ok.mp ok
    obtain ⟨rfl, rfl⟩ := Prod.mk.inj (Except.ok.inj ok)
    obtain ⟨reads, h₁⟩ := expr_reads items s s₁ h read
    obtain ⟨bodyReads, h₂⟩ := blocks_read source out body depth (visible ++ [varSymbol name.name])
      _ s₂ body' (h₁.push _ depth) within provided
    rw [List.append_assoc] at h₂
    exact ⟨⟨reads, bodyReads⟩, (List.append_nil visible).symm ▸ h₂.reset h₁.length undone⟩

theorem blocks_read (source : String) (out : Translate.Env) : ∀ (bs : List Block) (depth : Nat)
    (visible : List String) (s s' : State) (bs' : List Block), s.Named visible →
    blocks ⟨source, out.modules⟩ depth s bs = .ok (s', bs') →
    Provided out (Block.allContextNames bs') →
    Block.AllReadIn out visible bs' ∧
      s'.Named (visible ++ bs'.flatMap (Block.bound out.modules))
  | [], depth, visible, s, s', bs', h, ok, provided => by
    obtain ⟨rfl, rfl⟩ := Prod.mk.inj (Except.ok.inj ok)
    exact ⟨trivial, by simpa using h⟩
  | b :: bs, depth, visible, s, s', bs', h, ok, provided => by
    obtain ⟨⟨s₁, b'⟩, first, ok⟩ := bind_eq_ok.mp ok
    obtain ⟨⟨s₂, rest'⟩, rest, ok⟩ := bind_eq_ok.mp ok
    obtain ⟨rfl, rfl⟩ := Prod.mk.inj (Except.ok.inj ok)
    obtain ⟨here, later⟩ := List.forall_mem_append.mp provided
    obtain ⟨reads, h₁⟩ := block_reads source out b depth visible s s₁ b' h first here
    obtain ⟨restReads, h₂⟩ := blocks_read source out bs depth _ s₁ s₂ rest' h₁ rest later
    rw [List.append_assoc] at h₂
    exact ⟨⟨reads, restReads⟩, h₂⟩

end

end Resolve

end MarkupTemplate

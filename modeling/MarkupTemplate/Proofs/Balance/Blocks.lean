import Mathlib
import MarkupTemplate.Proofs.Balance.Frame
import MarkupTemplate.Proofs.Scope.System

/-!
# Balance of blocks

By induction on how deep calls may be nested and on the blocks: whatever a block does, it goes on with
the stack that it was started on, at the same indentation. `block_balanced` shows that blocks that bind
only add bindings on top, that all others leave the stack as it was, and that nothing else which was
bound before is touched.
-/

namespace MarkupTemplate

/-- The block binds names for those after it. -/
def Block.binds : Block → Bool
  | .define .. | .assign .. | .context .. | .importFrom .. => true
  | .text .. | .call .. | .embed .. | .branch .. | .loop .. => false

namespace Translate

open Scope

variable {κ : Type} {env : Env} {s s₁ : State κ}

/-- What a block leaves of a state. -/
def State.Leaves (b : Block) (s s' : State κ) : Prop := s.Grows s' ∧ (b.binds = false → s.Balanced s')

theorem State.Leaves.of_grows {b : Block} (binds : b.binds = true) (h : s.Grows s₁) :
    State.Leaves b s s₁ :=
  ⟨h, fun other => by rw [binds] at other; cases other⟩

theorem State.Leaves.of_balanced {b : Block} (h : s.Balanced s₁) : State.Leaves b s s₁ :=
  ⟨h.toGrows, fun _ => h⟩

/-- Expanding a closure leaves every stack as it was. -/
def CallsBalance (call : Caller (State κ) κ) : Prop :=
  ∀ s c k, s.Rooted → Gives s.Balanced (call s c k)

theorem finishCall_balanced {call : Caller (State κ) κ} (calls : CallsBalance call)
    (h : s.Balanced s₁) (rooted : s.Rooted) (name : Ident) (target : Tag ⊕ κ)
    (args : List (Value κ)) (named : List (String × Value κ)) (body : List (Node κ))
    (indent : Option String) (place : String) :
    Gives s.Balanced (finishCall env call s₁ name target args named body indent place) := by
  unfold finishCall
  cases target with
  | inl tag => exact .after _ fun element => h
  | inr c =>
    refine Ends.bind (calls s₁ c _ (h.rooted rooted)) fun ⟨s₂, nodes⟩ balanced => ?_
    exact .after _ fun nodes => h.trans balanced

variable [Closing κ]

/-! ### Blocks that bind -/

theorem State.Grows.define (h : s.Grows s₁) (depth : Nat) (signature : Signature)
    (body : List Block) : s.Grows (Translate.define depth s₁ signature body) :=
  (h.of_same rfl rfl : s.Grows (s₁.close ⟨signature, body, depth⟩).2).push _ _

theorem State.Grows.pushAll (h : s.Grows s₁) (symbols : List (String × Value Empty)) :
    s.Grows (Translate.pushAll s₁ symbols) := by
  induction symbols generalizing s₁ with
  | nil => exact h
  | cons entry rest ih => exact ih (h.push entry.1 entry.2.lift)

theorem State.Grows.bindContext (h : s.Grows s₁) (names : List Ident) :
    Ends (fun _ => True) s.Grows (bindContext env s₁ names) := by
  induction names generalizing s₁ with
  | nil => exact h
  | cons name rest ih =>
    unfold Translate.bindContext
    split
    · next v _ => exact ih (h.push _ v.lift)
    · trivial

theorem State.Grows.bindItems (h : s.Grows s₁) (path : String) (items : List Ident) :
    Ends (fun _ => True) s.Grows (bindItems env path s₁ items) := by
  induction items generalizing s₁ with
  | nil => exact h
  | cons item rest ih =>
    unfold Translate.bindItems
    exact .after _ fun v => ih (h.push item.name v.lift)

theorem State.Grows.bindBody (h : s.Grows s₁) (k : Call κ) (param : Option Ident) :
    Ends (fun _ => True) s.Grows (bindBody s₁ k param) := by
  unfold Translate.bindBody
  split
  · exact h
  · exact .after _ fun body => h.push _ (.nodes body)

/-! ### Blocks that make nodes -/

theorem embed_balanced (nodes : List (Node κ)) (place : Option String) :
    Gives s.Balanced (embed s nodes place) :=
  .after _ fun _ => .refl s

variable [Host]

theorem text_balanced (parts : List Part) (place : Option String) :
    Gives s.Balanced (text env s parts place) := by
  unfold text
  refine .after _ fun written => ?_
  cases place with
  | none => exact .refl s
  | some indent => exact .after _ fun group => .refl s

/-! ### Blocks -/

mutual

theorem block_leaves {call : Caller (State κ) κ} (calls : CallsBalance call) :
    ∀ (b : Block) (depth : Nat) (s : State κ), s.Rooted →
      Gives (State.Leaves b s) (block env call depth s b)
  | .text parts layout, depth, s, rooted => by
    unfold block
    refine Ends.imp ?_ fun o => State.Leaves.of_balanced
    exact indented_balanced fun indent place => text_balanced parts place
  | .call name args body layout, depth, s, rooted => by
    unfold block
    refine .after _ fun target => .after _ fun (args, named) => ?_
    refine Ends.imp ?_ fun o => State.Leaves.of_balanced
    refine indented_balanced fun indent place => ?_
    have rooted' := rooted.atIndent indent
    let s' := s.atIndent indent
    have inner : Gives s'.Balanced (confined s' fun s => blocks env call depth s body) :=
      confined_balanced rooted' (blocks_grow calls body depth s' rooted')
    exact Ends.bind inner fun ⟨s₁, nodes⟩ balanced =>
      finishCall_balanced calls balanced rooted' name target args named nodes place _
  | .embed e layout, depth, s, rooted => by
    unfold block
    refine .after _ fun v => .after _ fun nodes => ?_
    refine Ends.imp ?_ fun o => State.Leaves.of_balanced
    exact indented_balanced fun indent place => embed_balanced nodes place
  | .define signature body, depth, s, rooted =>
    .of_grows rfl ((State.Grows.refl s).define depth signature body)
  | .assign name e, depth, s, rooted => by
    unfold block
    exact .after _ fun v => .of_grows rfl ((State.Grows.refl s).push _ v)
  | .context names, depth, s, rooted => by
    unfold block
    exact Ends.bind ((State.Grows.refl s).bindContext names) fun s₁ grows => .of_grows rfl grows
  | .importFrom path none span, depth, s, rooted => by
    unfold block
    exact .after _ fun symbols => .of_grows rfl ((State.Grows.refl s).pushAll symbols)
  | .importFrom path (some items) _, depth, s, rooted => by
    unfold block
    exact Ends.bind ((State.Grows.refl s).bindItems path items) fun s₁ grows => .of_grows rfl grows
  | .branch condition thenBlocks elseBlocks, depth, s, rooted => by
    unfold block
    refine .after _ fun v => Ends.imp ?_ fun o => State.Leaves.of_balanced
    split
    · exact confined_balanced rooted (blocks_grow calls thenBlocks depth s rooted)
    · exact confined_balanced rooted (blocks_grow calls elseBlocks depth s rooted)
  | .loop name items body, depth, s, rooted => by
    unfold block
    refine .after _ fun v => Ends.imp ?_ fun o => State.Leaves.of_balanced
    split
    · next values =>
      have bound := (State.Grows.refl s).push (varSymbol name.name) (.none : Value κ)
      have ran := forEach_grows (Nat.le_refl _) rooted (blocks_grow calls body depth) values bound
      refine Ends.bind ran fun ⟨s₁, nodes⟩ grows => ?_
      exact Ends.bind_of_ok (.any _) fun s₂ undone _ => grows.reset rooted undone
    · trivial

theorem blocks_grow {call : Caller (State κ) κ} (calls : CallsBalance call) :
    ∀ (bs : List Block) (depth : Nat) (s : State κ), s.Rooted →
      Gives s.Grows (blocks env call depth s bs)
  | [], depth, s, rooted => .refl s
  | b :: bs, depth, s, rooted => by
    unfold blocks
    refine Ends.bind (block_leaves calls b depth s rooted) fun ⟨s₁, nodes⟩ ⟨grows, _⟩ => ?_
    refine Ends.bind (blocks_grow calls bs depth s₁ (grows.rooted rooted)) fun ⟨s₂, rest⟩ later => ?_
    exact grows.trans later

end

/-! ### Calls -/

theorem State.Grows.slotValue (h : s.Grows s₁) (c : κ) (span : Span) (index : Nat) (p : Param)
    (slot : Option (Value κ)) :
    Ends (fun _ => True) (fun o => s.Grows o.2) (slotValue env c span s₁ index p slot) := by
  unfold Translate.slotValue
  split
  · exact h
  · next e _ =>
    change Ends _ _ (liftM (s₁.default c index fun look => e.eval env.source look))
    rw [State.default_eq]
    refine .lift (fun _ _ => trivial) fun o done => ?_
    obtain ⟨v, -, rfl⟩ := map_eq_ok.mp done
    exact h.of_same rfl rfl
  · trivial

theorem State.Grows.bindParams (h : s.Grows s₁) (c : κ) (span : Span) (index : Nat)
    (slots : List (Param × Option (Value κ))) :
    Ends (fun _ => True) s.Grows (bindParams env c span s₁ index slots) := by
  induction slots generalizing s₁ index with
  | nil => exact h
  | cons entry rest ih =>
    obtain ⟨p, slot⟩ := entry
    unfold Translate.bindParams
    refine Ends.bind (h.slotValue c span index p slot) fun ⟨v, s₂⟩ grows => ?_
    exact ih (grows.push _ v) (index + 1)

/-- Expanding a closure works on a stack of its own, and on those that its body starts. -/
theorem expand_balances (env : Env) (limit : Nat) :
    CallsBalance (expand env limit : Caller (State κ) κ) := by
  induction limit with
  | zero => exact fun _ _ _ _ => trivial
  | succ limit calls =>
    intro s c k rooted
    change Gives s.Balanced (invoke env (expand env limit) s c k)
    unfold invoke
    refine .after _ fun slots => ?_
    change Ends _ _ (Translate.bindParams env c k.span (s.enter c k.indent) 0 slots >>= _)
    refine Ends.bind ((State.Grows.refl _).bindParams c k.span 0 slots) fun s₁ bound => ?_
    refine Ends.bind (bound.bindBody k _) fun s₂ bodied => ?_
    have inside := bodied.rooted (s.rooted_enter c k.indent)
    refine Ends.bind (blocks_grow calls _ _ s₂ inside) fun ⟨s₃, nodes⟩ ran => ?_
    exact (bodied.trans ran).leave rooted

/-- A block that is translated in any state goes on with the stack and the indentation that it found.
What was bound stays bound, on every stack, and only the block's own stack and new ones are worked on.
If the block does not bind, its stack has the same bindings at all positions as before. -/
theorem block_balanced (limit depth : Nat) (b : Block) (s s' : State κ) (nodes : List (Node κ))
    (rooted : s.stack.level < s.store.levels.size)
    (done : block env (expand env limit) depth s b = .ok (s', nodes)) :
    s'.stack = s.stack ∧
    s.stack.length s.store ≤ s'.stack.length s'.store ∧
    (∀ id < s.store.levels.size, ∀ i entry, s.store.bindingAt? id i = some entry →
      s'.store.bindingAt? id i = some entry) ∧
    (∀ id < s.store.levels.size, id ≠ s.stack.level →
      s'.store.levels[id]? = s.store.levels[id]?) ∧
    (b.binds = false → s'.stack.length s'.store = s.stack.length s.store ∧
      ∀ i, s'.store.bindingAt? s.stack.level i = s.store.bindingAt? s.stack.level i) := by
  have leaves : State.Leaves b s s' :=
    (block_leaves (expand_balances env limit) b depth s rooted).of_ok done
  obtain ⟨⟨stack, grows⟩, balanced⟩ := leaves
  refine ⟨stack, ?_, fun id inside i entry bound => ?_, grows.others, fun other => ?_⟩
  · rw [stack]
    exact grows.length_le
  · rcases grows.bindingAt?_cases inside i with same | ⟨unbound, -⟩
    · rw [same, bound]
    · rw [unbound] at bound
      cases bound
  · have length := (balanced other).length
    refine ⟨length, fun i => ?_⟩
    rw [stack] at length
    have full : s'.store.length s.stack.level = s.store.length s.stack.level := length
    rcases grows.bindingAt?_cases rooted i with same | ⟨-, above, below⟩
    · exact same
    · omega

/-- A loop whose body defines a function of the loop variable and calls it, both on indented lines. -/
def callingLoop : Block :=
  .loop ⟨"i", {}⟩ (.list [.literal (.integer 1) {}, .literal (.integer 2) {}])
    [.define ⟨⟨"f", {}⟩, [], none, none⟩ [.text [.expr (.var ⟨"i", {}⟩ [])] ⟨true, "\t"⟩],
      .call ⟨"f", {}⟩ [] [] ⟨true, "  "⟩]

omit [Host] in
theorem block_balanced_callingLoop :
    letI := Host.bare
    let env : Env := ⟨"", .ofRegistry [], .plain, []⟩
    let s : State Closure := (State.start.push "$x" (.integer 7)).atIndent "\n "
    s.stack.level < s.store.levels.size ∧
      ∃ s' nodes, block env (expand env 1) 1 s callingLoop = .ok (s', nodes) ∧ nodes.length = 2 ∧
        s'.stack = ⟨0, "\n "⟩ ∧ s'.stack.length s'.store = 1 ∧
        s'.store.bindingAt? 0 0 = some ("$x", .integer 7) := by
  let := Host.bare
  intro env s
  have rooted : s.stack.level < s.store.levels.size := by decide
  -- Scopes are hash maps, which `cbv` evaluates with equations from all over Mathlib.
  have ran : (block env (expand env 1) 1 s callingLoop).toOption.map (·.2.length) = some 2 := by cbv
  obtain ⟨⟨s', nodes⟩, done, two⟩ := Option.map_eq_some_iff.mp ran
  have done := System.toOption_eq_some done
  obtain ⟨stack, -, kept, -, same⟩ := block_balanced 1 1 callingLoop s s' nodes rooted done
  exact ⟨rooted, s', nodes, done, two, stack, (same rfl).1, kept 0 rooted 0 _ (by cbv)⟩

end Translate

end MarkupTemplate

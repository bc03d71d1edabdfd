import MarkupTemplate.Proofs.Scope.Map
import MarkupTemplate.Proofs.Scoping.Projection

/-!
# Forgetting the copies and the book

Two projections drop the copies that closures carry: one keeps the book of an audited translation, the
other drops that too and leaves the state that translations run on.
-/

namespace MarkupTemplate

open Scope

namespace Translate

/-! ### States with other closures -/

namespace State

variable {κ μ : Type} (f : κ → μ)

/-- Replaces the closures of all values of a state. -/
def map (s : State κ) : State μ where
  store := s.store.map (Value.mapClosures f)
  stack := s.stack
  closures := s.closures
  cells id index := ⟨(s.cells id index).value?.map (Value.mapClosures f)⟩

theorem start_map : (start : State κ).map f = start := by
  simp [start, map, Store.newStack, Store.empty, Store.add, Store.map, Level.map, Level.empty,
    Deferred.pending]

theorem push_map (name : String) (v : Value κ) (s : State κ) :
    (s.map f).push name (v.mapClosures f) = (s.push name v).map f := by
  simp only [push, map, Stack.push_map]

theorem set_map (index : Nat) (v : Value κ) (s : State κ) :
    (s.map f).set index (v.mapClosures f) = map f <$> s.set index v := by
  simp only [set, map, Stack.set_map, bind_map_left]
  cases s.stack.set index v s.store <;> rfl

theorem mark_map (s : State κ) : (s.map f).mark = s.mark := by
  simp only [mark, map, Stack.checkpoint_map]

theorem reset_map (m : Mark) (s : State κ) : (s.map f).reset m = map f <$> s.reset m := by
  simp only [reset, map, Stack.reset_map, bind_map_left]
  cases s.stack.reset m.checkpoint s.store <;> rfl

theorem dedent_map (s : State κ) : (s.map f).dedent = map f <$> s.dedent := by
  simp only [dedent, map]
  cases s.stack.dedent <;> rfl

theorem leave_map (m : Mark) (s : State κ) : (s.map f).leave m = (s.leave m).map f := by
  simp only [leave, map, Stack.drop_map]

theorem branch_map (s : State κ) : (s.map f).branch = s.branch := by
  simp only [branch, Stack.branch, map, Stack.length_map]

theorem look_map (s : State κ) (b : Branch) (name : String) :
    (s.map f).look b name = (s.look b name).map (Value.mapClosures f) := by
  simp only [look, Store.findOn?, map, Store.findBelow_map, Option.map_map]
  rfl

theorem keep_map (s : State κ) (id index : Nat) (v : Value κ) :
    (s.map f).keep id index ⟨some (v.mapClosures f)⟩ = (s.keep id index ⟨some v⟩).map f := by
  refine congrArg (State.mk _ _ _) (funext fun i => funext fun j => ?_)
  by_cases same : i = id ∧ j = index <;> simp [keep, map, same]

variable [Closing κ] [Closing μ] (same : ∀ c, Closing.closure (f c) = Closing.closure c)

include same in
theorem enter_map (c : κ) (indent : String) (s : State κ) :
    (s.map f).enter (f c) indent = (s.enter c indent).map f := by
  simp only [enter, map, Stack.stackOn_map, same]
  rfl

include same in
theorem default_map (c : κ) (index : Nat)
    (compute : (String → Option (Value κ)) → Except Error (Value κ))
    (compute' : (String → Option (Value μ)) → Except Error (Value μ))
    (natural : ∀ look look', (∀ name, look' name = (look name).map (Value.mapClosures f)) →
      compute' look' = Value.mapClosures f <$> compute look) (s : State κ) :
    (s.map f).default (f c) index compute' =
      Prod.map (Value.mapClosures f) (map f) <$> s.default c index compute := by
  rw [State.default_eq, State.default_eq, same,
    natural _ _ (s.look_map f (Closing.closure c).branch)]
  change (fun v => _) <$> ((s.cells _ index).value?.map _).elim _ _ = _
  cases (s.cells (Closing.closure c).id index).value? with
  | none =>
    cases compute (s.look (Closing.closure c).branch) with
    | error e => rfl
    | ok v => simp [keep_map]
  | some v => simp [keep_map]

end State

/-! ### The state that translations run on -/

section Running

variable {source : String} {s s' : Audited Twin} {c : Twin}

theorem State.set_replaced {index : Nat} (own : s.state.stack.trunkLength s.store ≤ index)
    (last : index + 1 = s.length) (v : Value Twin) :
    (s.state.map Twin.closure).set index (v.mapClosures Twin.closure) =
      .ok ((Sound.replaced index v s).state.map Twin.closure) := by
  have ok := Sound.set_eq_ok own last v
  obtain ⟨state, set, ok⟩ := bind_eq_ok.mp ok
  rw [State.set_map, set, ← Except.ok.inj ok]
  rfl

theorem State.dedent_withIndent (size : 1 < s.state.stack.indent.utf8ByteSize) :
    (s.state.map Twin.closure).dedent = .ok ((s.withIndent
      (String.ofList s.state.stack.indent.toList.dropLast)).state.map Twin.closure) := by
  have short : ¬ s.state.stack.indent.utf8ByteSize ≤ 1 := by omega
  rw [State.dedent_map, State.dedent, Stack.dedent, if_neg short]
  rfl

theorem State.close_map (d : Definition) (s : State Twin) :
    (s.map Twin.closure).close d = ((s.close d).1.closure, (s.close d).2.map Twin.closure) := by
  refine Prod.ext ?_ rfl
  change (⟨d, s.closures, (s.map Twin.closure).branch⟩ : Closure) = (s.close d).1.closure
  rw [branch_map]
  exact (Twin.closure_ofClosure ..).symm

variable [Host]

/-- A closure is seen as it is with its copy. -/
theorem Twin.unseen_closure : Host.Unseen Twin.closure := Host.unseen_of_shown fun _ => rfl

theorem State.find?_map (h : Sound source s) (name : String) :
    (s.state.map Twin.closure).stack.find? (s.state.map Twin.closure).store name =
      (lastBinding? name s.view).map (Prod.map id (Value.mapClosures Twin.closure)) := by
  simp only [State.map, Stack.find?_map, ← h.find?_eq]

theorem State.reset_restored (h' : Sound source s') (grows : Translate.Grows source s s') :
    (s'.state.map Twin.closure).reset (s.state.map Twin.closure).mark =
      .ok ((Sound.restored s.length s').state.map Twin.closure) := by
  have ok := Sound.reset_eq_ok h' grows
  obtain ⟨state, reset, ok⟩ := bind_eq_ok.mp ok
  have reset : s'.state.reset s.state.mark = .ok state := reset
  rw [State.reset_map, State.mark_map, reset, ← Except.ok.inj ok]
  rfl

theorem State.default_kept (captured : Captured source s c) {index : Nat} {p : Param} {e : Expr}
    (param : c.closure.signature.params[index]? = some p) (hasDefault : p.default = some e) :
    Run.ofExcept ((s.state.map Twin.closure).default c.closure index
        fun look => e.eval source look) =
      (fun v => (v.mapClosures Twin.closure,
        (Sound.kept c.id index ⟨some v⟩ s).state.map Twin.closure)) <$>
          Run.ofExcept (e.eval source (s.state.look c.branch)) := by
  rw [State.default_map Twin.closure (fun _ => rfl) c index (fun look => e.eval source look) _
    fun look look' natural => Expr.eval_mapClosures Twin.unseen_closure source natural e,
    Sound.state_default_eq captured param hasDefault]
  cases e.eval source (s.state.look c.branch) <;> rfl

/-- The state without the copies and the book. -/
def running (source : String) : Projection source (State Closure) where
  closure := Twin.closure
  state s := s.state.map Twin.closure
  definition _ := rfl
  count _ := rfl
  find? h name := State.find?_map h name
  length {s} _ := s.state.stack.length_map _ s.store
  push _ name v := State.push_map Twin.closure name v _
  set _ own last v := State.set_replaced own last v
  indent _ := rfl
  indentBy _ _ := rfl
  dedent size := State.dedent_withIndent size
  reset _ h' grows := State.reset_restored h' grows
  close _ d := State.close_map d _
  enter _ _ indent :=
    congrArg Except.ok (State.enter_map Twin.closure (fun _ => rfl) _ indent _)
  leave {s s'} _ _ _ _ _ := by
    change State.leave (State.mark _) _ = _
    rw [State.mark_map, State.leave_map]
    rfl
  default h captured param hasDefault := State.default_kept captured param hasDefault

/-! ### The state with its book -/

end Running

end Translate

end MarkupTemplate

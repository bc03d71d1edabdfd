import MarkupTemplate.Proofs.Scope.Holds
import MarkupTemplate.Proofs.Scoping.Agree
import MarkupTemplate.Proofs.Simulation.Throughout

/-!
# The levels of closures

The branch of every closure that a translation comes across, anywhere in a value, is of a level of the
store, whatever the host program does with closures: it cannot make any. So are the branches of the
closures in defaults.
-/

namespace MarkupTemplate

open Scope

/-- The branch of a closure is of one of the first `n` levels. -/
def Closure.Below (n : Nat) (c : Closure) : Prop := c.branch.level < n

theorem Value.Throughout.below {v : Value Closure} {n n' : Nat} (h : v.Throughout (Closure.Below n))
    (le : n ≤ n') : v.Throughout (Closure.Below n') := h.mono fun _ low => Nat.lt_of_lt_of_le low le

theorem Node.Throughout.below {ns : List (Node Closure)} {n n' : Nat}
    (h : Node.Throughout (Closure.Below n) ns) (le : n ≤ n') : Node.Throughout (Closure.Below n') ns :=
  h.mono fun _ low => Nat.lt_of_lt_of_le low le

namespace Translate.State

abbrev size {κ : Type} (s : State κ) : Nat := s.store.levels.size

/-- The values that may be bound in a state. -/
abbrev Bounded (s : State Closure) (v : Value Closure) : Prop := v.Throughout (Closure.Below s.size)

/-- The store is well-formed, and its levels are all that the stack and closures refer to. -/
structure InRange (s : State Closure) : Prop where
  store : s.store.WellFormed
  level : s.stack.level < s.size
  bound : s.store.Holds s.Bounded
  kept : ∀ id index v, (s.cells id index).value? = some v → s.Bounded v

/-- The second state has come out of the first one on the same stack. -/
structure Extends {κ : Type} (s s' : State κ) : Prop where
  level : s'.stack.level = s.stack.level
  size : s.size ≤ s'.size

variable {s s' s'' : State Closure} {v : Value Closure}

namespace Extends

theorem refl (s : State Closure) : s.Extends s := ⟨rfl, Nat.le_refl _⟩

theorem trans (h : s.Extends s') (h' : s'.Extends s'') : s.Extends s'' :=
  ⟨h'.level.trans h.level, Nat.le_trans h.size h'.size⟩

end Extends

theorem size_enter (s : State Closure) (c : Closure) (indent : String) :
    (s.enter c indent).size = s.size + 1 := Store.size_add s.store _

theorem size_le_enter (s : State Closure) (c : Closure) (indent : String) :
    s.size ≤ (s.enter c indent).size :=
  Nat.le_of_lt (Nat.lt_of_succ_le (Nat.le_of_eq (s.size_enter c indent).symm))

namespace InRange

theorem start : (start : State Closure).InRange where
  store := Store.wellFormed_empty.newStack
  level := Nat.one_pos
  bound := Store.Holds.empty.add (.empty none)
  kept := nofun

/-- The store is replaced by one of the same size, and the stack by one on some level of it. -/
theorem withStore (h : s.InRange) {σ : Store (Value Closure)} (wf : σ.WellFormed)
    (size : σ.levels.size = s.size) (holds : σ.Holds s.Bounded) {stack : Stack}
    (level : stack.level < s.size) : ({ s with store := σ, stack } : State Closure).InRange := by
  refine ⟨wf, ?_, ?_, fun id index v here => ?_⟩
  · exact Nat.lt_of_lt_of_eq level size.symm
  · change σ.Holds (Value.Throughout (Closure.Below σ.levels.size))
    rwa [size]
  · change v.Throughout (Closure.Below σ.levels.size)
    rw [size]
    exact h.kept id index v here

theorem push (h : s.InRange) (name : String) (holds : s.Bounded v) :
    (s.push name v).InRange ∧ s.Extends (s.push name v) :=
  ⟨h.withStore (Stack.wellFormed_push h.store name v) (Store.size_modify ..)
    (h.bound.modify fun _ level => level.push name holds) h.level,
    rfl, Nat.le_of_eq (Store.size_modify ..).symm⟩

theorem set (h : s.InRange) {index : Nat} (holds : s.Bounded v) (ok : s.set index v = .ok s') :
    s'.InRange ∧ s.Extends s' ∧ s'.stack.length s'.store = s.stack.length s.store ∧
      s'.cells = s.cells := by
  obtain ⟨store, set, ok⟩ := bind_eq_ok.mp ok
  obtain rfl := Except.ok.inj ok
  have wf := Stack.wellFormed_set h.store set
  unfold Stack.set at set
  split at set
  · cases set
  · split at set
    · obtain rfl := Except.ok.inj set
      exact ⟨h.withStore wf (Store.size_modify ..)
        (h.bound.modify fun _ level => level.set index holds) h.level,
        ⟨rfl, Nat.le_of_eq (Store.size_modify ..).symm⟩, Stack.length_set h.level index v, rfl⟩
    · cases set

theorem dedent (h : s.InRange) (ok : s.dedent = .ok s') :
    s'.InRange ∧ s.Extends s' ∧ s'.cells = s.cells := by
  obtain ⟨stack, dedent, ok⟩ := bind_eq_ok.mp ok
  obtain rfl := Except.ok.inj ok
  have level : stack.level = s.stack.level := by
    unfold Stack.dedent at dedent
    split at dedent
    · cases dedent
    · obtain rfl := Except.ok.inj dedent
      rfl
  exact ⟨h.withStore h.store rfl h.bound (level ▸ h.level), ⟨level, Nat.le_refl _⟩, rfl⟩

theorem reset (h : s'.InRange) (ok : s'.reset s.mark = .ok s'') :
    s''.InRange ∧ s'.Extends s'' ∧ s''.stack.length s''.store = s.stack.length s.store ∧
      s''.cells = s'.cells := by
  obtain ⟨⟨store, stack⟩, reset, ok⟩ := bind_eq_ok.mp ok
  obtain rfl := Except.ok.inj ok
  obtain ⟨wf, level⟩ := Stack.wellFormed_reset h.store reset
  obtain ⟨own, below, -, rfl⟩ := Stack.reset_cases reset
  refine ⟨h.withStore wf (Store.size_modify ..) (h.bound.modify fun _ level => level.popMany _)
    (level ▸ h.level), ⟨level, Nat.le_of_eq (Store.size_modify ..).symm⟩, ?_, rfl⟩
  change Store.length _ stack.level = _
  rw [level]
  exact Stack.length_popMany h.level own below

theorem close (h : s.InRange) (d : Definition) : (s.close d).2.InRange ∧ s.Extends (s.close d).2 ∧
    (s.close d).2.Bounded (.closure (s.close d).1) :=
  ⟨⟨h.store, h.level, h.bound, h.kept⟩, ⟨rfl, Nat.le_refl _⟩, Value.throughout_closure.mpr h.level⟩

theorem enter (h : s.InRange) {c : Closure} (held : s.Bounded (.closure c)) (indent : String) :
    (s.enter c indent).InRange := by
  have deeper := s.size_le_enter c indent
  have below : c.Below s.size := Value.throughout_closure.mp held
  refine ⟨h.store.stackOn below indent, ?_, ?_, ?_⟩
  · exact Nat.lt_of_lt_of_eq (Nat.lt_succ_self _) (s.size_enter c indent).symm
  · exact Store.Holds.add (fun l member b inside => (h.bound l member b inside).below deeper)
      (.empty _)
  · exact fun id index v here => (h.kept id index v here).below deeper

theorem leave (h : s.InRange) (h' : s'.InRange) (size : s.size ≤ s'.size) :
    (s'.leave s.mark).InRange ∧ s.Extends (s'.leave s.mark) ∧ s'.size = (s'.leave s.mark).size :=
  have same : (s'.leave s.mark).size = s'.size := Store.size_modify ..
  ⟨h'.withStore (Stack.wellFormed_drop h'.store) (Store.size_modify ..)
    (h'.bound.modify fun l _ => .empty l.trunk) (Nat.lt_of_lt_of_le h.level size),
    ⟨rfl, Nat.le_trans size (Nat.le_of_eq same.symm)⟩, same.symm⟩

theorem keep (h : s.InRange) (id index : Nat) (holds : s.Bounded v) :
    (s.keep id index ⟨some v⟩).InRange := by
  refine ⟨h.store, h.level, h.bound, fun i j w here => ?_⟩
  simp only [State.keep] at here
  split at here
  · obtain rfl := Option.some.inj here
    exact holds
  · exact h.kept i j w here

theorem look (h : s.InRange) {b : Branch} {name : String} (found : s.look b name = some v) :
    s.Bounded v := by
  obtain ⟨⟨i, v⟩, here, rfl⟩ := Option.map_eq_some_iff.mp found
  exact h.bound.findBelow here

/-- What was defined last is what is called by its name. -/
theorem called_define (h : s.InRange) {env : Env} {depth : Nat} {signature : Signature}
    {body : List Block} {name : Ident} (named : name.name = signature.name.name) :
    called env (define depth s signature body) name =
      .ok (.inr (s.close { signature, body, depth }).1) := by
  let c := (s.close { signature, body, depth }).1
  have tag : Scoping.find? (tagSymbol name.name) (define depth s signature body) =
      some (s.stack.length s.store, .closure c) := by
    rw [named]
    exact Stack.find?_push h.level _ _
  refine called_of_latest tag fun j v var => Nat.le_of_lt_succ ?_
  exact Nat.lt_of_lt_of_eq (Store.lt_of_find? (Stack.wellFormed_push h.store _ _) var)
    (Stack.length_push h.level _ _)

end InRange

/-! ### Defaults -/

/-- A default is what is kept, or else what is computed, which is then kept. -/
theorem default_eq {κ : Type} [Closing κ] (c : κ) (index : Nat)
    (compute : (String → Option (Value κ)) → Except Error (Value κ)) (s : State κ) :
    s.default c index compute =
      (fun v => (v, s.keep (Closing.closure c).id index ⟨some v⟩)) <$>
        (s.cells (Closing.closure c).id index).value?.elim
          (compute (s.look (Closing.closure c).branch)) .ok := by
  simp only [State.default, Deferred.get]
  rcases s.cells (Closing.closure c).id index with ⟨_ | v⟩
  · simp only [Option.elim]
    cases compute (s.look (Closing.closure c).branch) <;> rfl
  · rfl

section Defaults

variable [Host] {source : String} {c : Closure} {index : Nat} {e : Expr}

/-- The default of a parameter of a closure: the value that is kept, or else what it evaluates to. -/
def defaultOf (source : String) (s : State Closure) (c : Closure) (index : Nat) (e : Expr) :
    Except Error (Value Closure) :=
  (s.cells c.id index).value?.elim (e.eval source (s.look c.branch)) .ok

theorem default_eq_defaultOf : s.default c index (fun look => e.eval source look) =
    (fun v => (v, s.keep c.id index ⟨some v⟩)) <$> s.defaultOf source c index e :=
  default_eq ..

namespace InRange

theorem eval (h : s.InRange) {b : Branch} (ok : e.eval source (s.look b) = .ok v) : s.Bounded v :=
  have kind : Kind s.Bounded _ := .throughout _
  e.eval_inherits kind.inherits (fun _ _ found => h.look found) v (e.writes_of_forall kind.lift) ok

theorem defaultOf (h : s.InRange) (ok : s.defaultOf source c index e = .ok v) : s.Bounded v := by
  unfold State.defaultOf at ok
  cases kept : (s.cells c.id index).value? with
  | some w =>
    rw [kept] at ok
    obtain rfl := Except.ok.inj ok
    exact h.kept c.id index w kept
  | none =>
    rw [kept] at ok
    exact h.eval ok

end InRange

end Defaults

end Translate.State

end MarkupTemplate

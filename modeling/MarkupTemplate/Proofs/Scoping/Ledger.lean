import MarkupTemplate.Proofs.Scope.Sheets
import MarkupTemplate.Proofs.Scoping.Steps
import MarkupTemplate.Proofs.Simulation.Calls
import MarkupTemplate.Proofs.Simulation.Levels

/-!
# Scoping on sheets

Going back to a mark puts the sheet of the current level back as it was. So this never fails, and it
does not matter what happened to the sheet in between. Every state in range is read as one with sheets,
also if something else stands for the blocks of its closures.
-/

namespace MarkupTemplate

open Scope

namespace Translate

/-- A state whose levels are sheets. -/
@[ext] structure Ledger where
  sheets : Nat → Sheet (Value Closure)
  /-- The number of the next level. -/
  size : Nat
  stack : Stack
  closures : Nat
  cells : Nat → Nat → Option (Value Closure)

namespace Ledger

/-- The sheet of the current level. -/
def top (s : Ledger) : Sheet (Value Closure) := s.sheets s.stack.level

def withTop (s : Ledger) (sheet : Sheet (Value Closure)) : Ledger :=
  { s with sheets := Function.update s.sheets s.stack.level sheet }

def push (name : String) (v : Value Closure) (s : Ledger) : Ledger := s.withTop (s.top.push name v)

def set (index : Nat) (v : Value Closure) (s : Ledger) : Except Error Ledger :=
  if index < s.top.trunkLength then fail (.setInTrunk index)
  else if index < s.top.length then .ok (s.withTop (s.top.set index v))
  else fail (.setPastTop index)

def dedent (s : Ledger) : Except Error Ledger := do
  let stack ← s.stack.dedent
  .ok { s with stack }

/-- The second state on the stack of the first one, with the bindings that it had. -/
def back (s s' : Ledger) : Ledger := { s' with stack := s.stack }.withTop s.top

/-- The value of a symbol that a branch sees. -/
def look (s : Ledger) (b : Branch) (symbol : String) : Option (Value Closure) :=
  (Sheet.scan s.sheets symbol b.level b.length).map (·.2)

/-- Keeps the default of a parameter of a closure. -/
def keep (id index : Nat) (v : Value Closure) (s : Ledger) : Ledger :=
  { s with cells := fun i j => if i = id ∧ j = index then some v else s.cells i j }

instance : Scoping Ledger Closure Ledger where
  find? name s := Sheet.scan s.sheets name s.stack.level s.top.length
  length s := s.top.length
  push := push
  set := set
  indent s := s.stack.indent
  indentBy c s := { s with stack := s.stack.indentBy c }
  dedent := dedent
  mark := id
  reset s s' := .ok (s.back s')
  close d s := ({ d with id := s.closures, branch := ⟨s.stack.level, s.top.length⟩ },
    { s with closures := s.closures + 1 })
  enter c indent s := .ok
    { s with
      sheets := Function.update s.sheets s.size ⟨some c.branch, []⟩
      size := s.size + 1
      stack := ⟨s.size, withNewline indent⟩ }
  leave s s' := { s'.withTop s'.top.clear with stack := s.stack }
  default c index compute s :=
    (fun v => (v, s.keep c.id index v)) <$>
      Run.ofExcept ((s.cells c.id index).elim (compute (s.look c.branch)) .ok)

/-! ### Going back -/

variable (s s' s'' : Ledger) (name : String) (u v : Value Closure)

@[simp] theorem top_withTop (sheet : Sheet (Value Closure)) : (s.withTop sheet).top = sheet :=
  Function.update_self ..

@[simp] theorem withTop_withTop (sheet sheet' : Sheet (Value Closure)) :
    (s.withTop sheet).withTop sheet' = s.withTop sheet' :=
  congrArg (fun sheets => { s with sheets }) (Function.update_idem ..)

theorem set_push : (s.push name u).set s.top.length v = .ok (s.push name v) := by
  have trunk : ¬ s.top.length < (s.top.push name u).trunkLength :=
    Nat.not_lt.mpr (Nat.le_add_right ..)
  have inside : s.top.length < (s.top.push name u).length :=
    Nat.add_lt_add_left (by simp [Sheet.push]) _
  simp only [set, push, top_withTop, if_neg trunk, if_pos inside, withTop_withTop, Sheet.set_push]

end Ledger

/-! ### States in range as states with sheets -/

/-- The closure with what stands for its definition. -/
def Recasting.closure (r : Recasting) (c : Closure) : Closure :=
  { r.definition c.toDefinition with id := c.id, branch := c.branch }

variable (r : Recasting) {s s' s'' : State Closure}

namespace State

/-- The levels of a state as sheets, with what stands for the definitions of closures. -/
def ledger (s : State Closure) : Ledger where
  sheets := s.store.sheets (Value.mapClosures r.closure)
  size := s.size
  stack := s.stack
  closures := s.closures
  cells i j := (s.cells i j).value?.map (Value.mapClosures r.closure)

theorem length_ledger : (s.ledger r).top.length = s.stack.length s.store := Store.length_sheets ..

theorem trunkLength_ledger : (s.ledger r).top.trunkLength = s.stack.trunkLength s.store :=
  Store.trunkLength_sheets ..

/-- The state is in range, and its indentation is that of a line. -/
structure Standing (s : State Closure) : Prop where
  inRange : s.InRange
  indent : s.stack.indent ≠ ""

theorem ledger_modify {l : Level (Value Closure)} (own : s.store.levels[s.stack.level]? = some l)
    (g : Level (Value Closure) → Level (Value Closure)) :
    ({ s with store := s.store.modify s.stack.level g } : State Closure).ledger r =
      (s.ledger r).withTop ((g l).sheet (Value.mapClosures r.closure)) := by
  have size : (s.store.modify s.stack.level g).levels.size = s.size := Store.size_modify ..
  rw [ledger, Store.sheets_modify _ own, State.size, size]
  rfl

theorem top_ledger {l : Level (Value Closure)} (own : s.store.levels[s.stack.level]? = some l) :
    (s.ledger r).top = l.sheet (Value.mapClosures r.closure) := Store.sheets_level _ own

theorem enter_ledger (s : State Closure) (c : Closure) (indent : String) :
    Scoping.enter (r.closure c) indent (s.ledger r) = .ok ((s.enter c indent).ledger r) := by
  have sheets := Store.sheets_add (σ := s.store) (Value.mapClosures r.closure)
    (.empty (some c.branch))
  exact congrArg Except.ok (Ledger.ext sheets.symm (s.size_enter c indent).symm rfl rfl rfl)

namespace Standing

variable (h : s.Standing)

include h

theorem level : ∃ l, s.store.levels[s.stack.level]? = some l :=
  ⟨_, Array.getElem?_eq_getElem h.inRange.level⟩

theorem push_ledger (name : String) (v : Value Closure) :
    (s.ledger r).push name (v.mapClosures r.closure) = (s.push name v).ledger r := by
  obtain ⟨l, own⟩ := h.level
  refine Eq.trans ?_ (ledger_modify r own (.push name v)).symm
  rw [Ledger.push, top_ledger r own, Level.sheet_push]

theorem set_ledger (index : Nat) (v : Value Closure) :
    (s.ledger r).set index (v.mapClosures r.closure) = ledger r <$> s.set index v := by
  obtain ⟨l, own⟩ := h.level
  rw [Ledger.set, trunkLength_ledger, length_ledger, State.set, Stack.set]
  split
  · rfl
  · split
    · rw [top_ledger r own, ← Level.sheet_set, ← ledger_modify r own]
      rfl
    · rfl

theorem look_ledger (b : Branch) (name : String) :
    (s.ledger r).look b name = (s.look b name).map (Value.mapClosures r.closure) := by
  rw [Ledger.look, ledger, Store.findBelow_sheets _ h.inRange.store, State.look, Option.map_map,
    Option.map_map]
  rfl

theorem reset_ledger (h' : s'.Standing) (grows : s.Grows s') :
    ∃ s'', s'.reset s.mark = .ok s'' ∧ s.Balanced s'' ∧
      (s.ledger r).back (s'.ledger r) = s''.ledger r := by
  obtain ⟨l, own⟩ := h.level
  obtain ⟨l', own', starts⟩ := grows.store.level l own
  have length : s.stack.length s.store = l.length := Store.length_of_level own
  rw [← grows.stack] at own'
  have length' : s'.stack.length s'.store = l'.length := Store.length_of_level own'
  have trunk : s'.stack.trunkLength s'.store = l.trunkLength := by
    rw [← starts.trunkLength]
    simp [Stack.trunkLength, Store.trunkLength, own']
  have more : s.stack.length s.store ≤ s'.stack.length s'.store := by
    rw [grows.stack]
    exact grows.store.length_le
  have undone := Stack.reset_eq_ok (c := s.mark.checkpoint) h'.indent
    (congrArg (·.indent.utf8ByteSize) grows.stack.symm)
    (by rw [trunk]; exact Nat.le_trans (Nat.le_add_right ..) (Nat.le_of_eq length.symm)) more
  let popMany := Level.popMany (α := Value Closure)
    (s'.stack.length s'.store - s.stack.length s.store)
  have done : s'.reset s.mark =
      .ok { s' with store := s'.store.modify s'.stack.level popMany } := by
    rw [State.reset, undone]
    rfl
  refine ⟨_, done, grows.reset h.inRange.level done, ?_⟩
  obtain ⟨popped, least⟩ := starts.popMany
  have same : popMany l' = l'.popMany (l'.length - l.length) := by
    rw [← length, ← length']
  rw [ledger_modify r own', same, popped.sheet_eq _ least, ← top_ledger r own]
  exact congrArg (fun stack => Ledger.withTop { s'.ledger r with stack } (s.ledger r).top)
    grows.stack.symm

theorem leave_ledger (s₀ : State Closure) :
    Scoping.leave (s₀.ledger r) (s.ledger r) = (s.leave s₀.mark).ledger r := by
  obtain ⟨l, own⟩ := h.level
  have dropped := ledger_modify r own .clear
  rw [Level.sheet_clear, ← top_ledger r own] at dropped
  exact congrArg (fun s : Ledger => { s with stack := s₀.stack }) dropped.symm

/-- Defaults are kept and computed in the same way. -/
theorem default_ledger [Host] {source : String} {c : Closure} {index : Nat} {e : Expr} :
    Scoping.default (r.closure c) index (fun look => e.eval source look) (s.ledger r) =
      Prod.map (Value.mapClosures r.closure) (ledger r) <$>
        (Scoping.default c index (fun look => e.eval source look) s : Run (Value Closure × _)) := by
  have unseen : Host.Unseen r.closure := Host.unseen_of_shown fun _ => rfl
  have value : ((s.ledger r).cells c.id index).elim (e.eval source ((s.ledger r).look c.branch)) .ok =
      Value.mapClosures r.closure <$> s.defaultOf source c index e := by
    unfold defaultOf
    change ((s.cells c.id index).value?.map _).elim _ _ = _
    cases (s.cells c.id index).value? with
    | some v => rfl
    | none => exact Expr.eval_mapClosures unseen source (h.look_ledger r c.branch) e
  have kept (v : Value Closure) : (s.ledger r).keep c.id index (v.mapClosures r.closure) =
      (s.keep c.id index ⟨some v⟩).ledger r := by
    refine Ledger.ext rfl rfl rfl rfl (funext fun i => funext fun j => ?_)
    simp only [Ledger.keep, ledger, State.keep]
    split <;> rfl
  change (fun v => (v, (s.ledger r).keep c.id index v)) <$> Run.ofExcept
    (((s.ledger r).cells c.id index).elim (e.eval source ((s.ledger r).look c.branch)) .ok) =
      _ <$> Run.ofExcept (s.default c index fun look => e.eval source look)
  rw [value, default_eq_defaultOf]
  cases s.defaultOf source c index e with
  | error e => rfl
  | ok v => exact congrArg (fun s => Except.ok (v.mapClosures r.closure, s)) (kept v)

end Standing

end State

theorem dedentBy_ledger (n : Nat) (s : State Closure) :
    dedentBy n (s.ledger r) = State.ledger r <$> dedentBy n s := by
  induction n generalizing s with
  | zero => rfl
  | succ n ih =>
    simp only [dedentBy]
    change (liftM (do
      let stack ← s.stack.dedent
      .ok { s.ledger r with stack } : Except Error Ledger) >>= dedentBy n : Run Ledger) =
        State.ledger r <$> (liftM (do
      let stack ← s.stack.dedent
      .ok { s with stack } : Except Error (State Closure)) >>= dedentBy n : Run (State Closure))
    cases s.stack.dedent with
    | error e => rfl
    | ok stack => exact ih { s with stack }

namespace State.Standing

theorem start : (start : State Closure).Standing := ⟨.start, by decide⟩

/-- The indentation of a block is taken away again. -/
theorem dedentBy_back (h : s.Standing) (h' : s'.Standing) {added : List Char}
    (grows : (added.foldl (fun s c => Scoping.indentBy c s) s).Grows s') :
    ∃ s'', dedentBy added.length s' = .ok s'' ∧ s''.Standing ∧ s.Grows s'' ∧ s''.size = s'.size := by
  obtain ⟨added, rfl⟩ : ∃ text : String, text.toList = added := ⟨_, String.toList_ofList⟩
  rw [s.indentBy_all] at grows
  have same : s' = s'.atIndent (s.stack.indent ++ added) := by
    have indent : s'.stack.indent = s.stack.indent ++ added := congrArg Stack.indent grows.stack
    rw [← indent]
    rfl
  have undone := s'.dedentBy_all h.indent added
  rw [← same] at undone
  have inRange : (s'.atIndent s.stack.indent).InRange :=
    h'.inRange.withStore h'.inRange.store rfl h'.inRange.bound h'.inRange.level
  refine ⟨_, undone, ⟨inRange, h.indent⟩, ⟨?_, grows.store⟩, rfl⟩
  rw [State.atIndent, grows.stack]
  rfl

end State.Standing

open State

/-- The simulation of states in range by states with sheets, where something stands for the blocks
of closures. -/
def Recasting.simulation [Host] (source : String) (stands : r.Stands Ledger) :
    Simulation source (State Closure) Ledger where
  closure := r.closure
  state := ledger r
  recast := r
  Sound := Standing
  Grows := State.Grows
  Enters s s' := ∃ c indent, s' = s.enter c indent
  Holds := Bounded
  Made s := Node.Throughout (Closure.Below s.size)
  stands := stands
  definition _ := rfl
  count _ := rfl
  kind _ := .throughout _
  refl _ := .refl _
  trans := .trans
  holds_grows grows held := held.below grows.store.size
  made_grows grows made := made.below grows.store.size
  visible h _ _ _ found := h.inRange.bound.findBelow found
  find? {s} h name := by
    change Sheet.scan (s.ledger r).sheets name s.stack.level (s.ledger r).top.length = _
    rw [length_ledger]
    exact Store.findBelow_sheets _ h.inRange.store name _ _
  length _ := length_ledger r
  push := Standing.push_ledger r
  sound_push h name _ held :=
    ⟨⟨(h.inRange.push name held).1, h.indent⟩, (State.Grows.refl _).push name _⟩
  length_push h name v := Stack.length_push h.inRange.level name v
  set {s s'} h grows length v held := by
    change Follows _ _ (liftM (s'.set (Scoping.length s) v))
      (liftM ((s'.ledger r).set (Scoping.length s) (v.mapClosures r.closure)))
    rw [h.set_ledger]
    refine .lift rfl fun s'' done => ?_
    obtain ⟨inRange, extends', length', -⟩ := h.inRange.set (held.below grows.store.size) done
    have grows' := grows.set (Nat.le_refl _) done
    have stack : s''.stack = s'.stack := grows'.stack.trans grows.stack.symm
    exact ⟨⟨inRange, stack ▸ h.indent⟩, grows', length'.trans length,
      fun _ made => made.below extends'.size⟩
  indent _ := rfl
  indentBy _ _ := rfl
  sound_indentBy h _ := ⟨h.inRange.withStore h.inRange.store rfl h.inRange.bound h.inRange.level,
    String.push_ne_empty⟩
  holds_indentBy _ _ := id
  made_indentBy _ _ := id
  dedent {s s'} h h' added grows := by
    obtain ⟨s'', done, standing, grows', size⟩ := h.dedentBy_back h' grows
    rw [dedentBy_ledger, done]
    exact .ok ⟨standing, grows', fun _ made => made.below (Nat.le_of_eq size.symm)⟩
  reset {s s'} h h' grows := by
    obtain ⟨s'', done, balanced, same⟩ := h.reset_ledger r h' grows
    obtain ⟨inRange, grows', -⟩ := h'.inRange.reset done
    change Follows _ _ (s'.reset s.mark) (.ok ((s.ledger r).back (s'.ledger r)))
    rw [done, same]
    exact .ok ⟨⟨inRange, balanced.stack ▸ h.indent⟩, balanced.toGrows, balanced.length,
      fun _ made => made.below grows'.size⟩
  close {s} _ d := by
    have length : (s.ledger r).top.length = s.stack.length s.store := length_ledger r
    change (({ r.definition d with id := s.closures, branch := ⟨s.stack.level, _⟩ } : Closure), _) = _
    rw [length]
    rfl
  sound_close h d := by
    obtain ⟨inRange, -, held⟩ := h.inRange.close d
    exact ⟨⟨inRange, h.indent⟩, (State.Grows.refl _).of_same rfl rfl, held⟩
  enter {s c} h held indent := by
    rw [enter_ledger]
    exact Follows.ok (f := ledger r)
      ⟨⟨h.inRange.enter held indent, withNewline_ne indent⟩, c, indent, rfl⟩
  holds_enters {s s' v} _ enters held := by
    obtain ⟨c, indent, rfl⟩ := enters
    exact held.below (size_le_enter s c indent)
  made_enters {s s' ns} _ enters made := by
    obtain ⟨c, indent, rfl⟩ := enters
    exact made.below (size_le_enter s c indent)
  leave {s s' s''} h enters h'' grows := by
    obtain ⟨c, indent, rfl⟩ := enters
    obtain ⟨inRange, -, size⟩ := h.inRange.leave h''.inRange
      (Nat.le_trans (size_le_enter s c indent) grows.store.size)
    exact ⟨h''.leave_ledger r s, ⟨inRange, h.indent⟩, (grows.leave h.inRange.level).toGrows,
      fun _ made => made.below (Nat.le_of_eq size)⟩
  default {s c index p e} h _ _ _ := by
    refine ⟨fun o done => ?_, h.default_ledger r⟩
    have done : s.default c index (fun look => e.eval source look) = .ok o := ofExcept_eq_ok.mp done
    rw [default_eq_defaultOf] at done
    obtain ⟨v, value, rfl⟩ := map_eq_ok.mp done
    have held := h.inRange.defaultOf value
    exact ⟨⟨h.inRange.keep c.id index held, h.indent⟩, (State.Grows.refl s).of_same rfl rfl, held⟩

end Translate

end MarkupTemplate

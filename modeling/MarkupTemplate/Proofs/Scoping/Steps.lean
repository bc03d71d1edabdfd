import MarkupTemplate.Proofs.Scoping.Indent
import MarkupTemplate.Proofs.Scoping.Sound
import MarkupTemplate.Proofs.Simulation.Levels

/-!
# Steps of sound states

What the operations of a translation do to a sound state: replacing the last value, going back to a
mark, making a closure, going into its scope and back, and evaluating a default.
-/

namespace MarkupTemplate

open Scope

namespace Translate

namespace Audited

variable {κ : Type}

def withStore (σ : Store (Value κ)) (s : Audited κ) : Audited κ :=
  { s with state := { s.state with store := σ } }

def withIndent (indent : String) (s : Audited κ) : Audited κ :=
  { s with state := { s.state with stack := { s.state.stack with indent } } }

theorem withIndent_self (s : Audited κ) : s.withIndent s.state.stack.indent = s := rfl

end Audited

open Audited

variable [Host] {source : String} {s s' s'' : Audited Twin} {b : Branch} {c : Twin} {name : String}
  {v : Value Twin}

/-- States that agree on a branch have the same view of it. -/
theorem Keeps.bindings_eq (keeps : Keeps source b s s') (h : Sound source s)
    (h' : Sound source s') : s'.store.bindings b = s.store.bindings b :=
  keeps.agree.store.bindings_eq h.store h'.store

theorem Grows.branch_eq (grows : Grows source s s') (length : s'.length = s.length) :
    s'.branch = s.branch :=
  (congrArg (Branch.mk _) length).trans
    (congrArg (Branch.mk · s.length) (congrArg Stack.level grows.stack))

theorem Grows.view_eq (grows : Grows source s s') (h : Sound source s) (h' : Sound source s')
    (length : s'.length = s.length) : s'.view = s.view := by
  rw [view, grows.branch_eq length]
  exact grows.keeps.bindings_eq h h'

namespace Sound

/-! ### Indentation -/

theorem keeps_withIndent (h : Sound source s) (within : b.Within s.branch) (indent : String) :
    Keeps source b s (s.withIndent indent) := by
  have keeps := h.refl within
  exact .of_agree h.store h.store ⟨keeps.agree.store, keeps.agree.written⟩ (fun _ _ same => same)
    fun _ _ => rfl

theorem withIndent (h : Sound source s) {indent : String} (nonempty : indent ≠ "") :
    Sound source (s.withIndent indent) where
  store := h.store
  level := h.level
  full := h.full
  top := h.top
  bound _ _ _ _ hl hb :=
    h.bound_of_keeps (h.keeps_withIndent (.refl _) indent) hl hb (h.within_branch hl hb)
  written := h.written
  made := h.made
  fresh := h.fresh
  indent := nonempty

/-! ### Replacing the last value -/

/-- The state after the value at a position has been replaced. -/
def replaced (index : Nat) (v : Value Twin) (s : Audited Twin) : Audited Twin :=
  (s.record index).withStore (s.store.modify s.level (.set index v))

section Replacing

variable {index : Nat} (h : Sound source s) (own : s.state.stack.trunkLength s.store ≤ index)
  (last : index + 1 = s.length)

include own last in
omit [Host] in
theorem set_eq_ok (v : Value Twin) : s.set index v = .ok (replaced index v s) := by
  have inside : index < s.state.stack.length s.store := by
    change index < s.length
    omega
  have ok := Stack.set_eq_ok v own inside
  have state : s.state.set index v = .ok (replaced index v s).state := by
    rw [State.set, ok]
    rfl
  rw [Audited.set, state]
  rfl

include h own in
theorem keeps_replaced (v : Value Twin) :
    Keeps source ⟨s.level, index⟩ s (replaced index v s) := by
  refine .of_agree h.store ?_ ⟨Stack.agree_set h.level index v own, fun _ _ above => ?_⟩
    (fun _ _ same => same) fun _ _ => rfl
  · exact h.store.modify s.level fun l hl => ⟨(h.store.indexed _ l hl).set index v, rfl⟩
  · exact written_record_of_above (Nat.le_refl _) above

include h last in
theorem branch_replaced (v : Value Twin) :
    (replaced index v s).branch = ⟨s.level, index + 1⟩ :=
  congrArg (Branch.mk _) ((Stack.length_set h.level index v).trans last.symm)

include h own last in
theorem bindingAt?_replaced (v : Value Twin) :
    ∃ name old, s.store.bindingAt? s.level index = some (name, old) ∧
      (replaced index v s).store.bindingAt? s.level index = some (name, v) := by
  obtain ⟨⟨name, old⟩, here⟩ : ∃ entry, s.store.bindingAt? s.level index = some entry :=
    Option.isSome_iff_exists.mp (h.full index (by change index < s.length; omega))
  exact ⟨name, old, here, Stack.bindingAt?_set h.level v own here⟩

include h own last in
theorem view_replaced (v : Value Twin) :
    (replaced index v s).view = s.view.modify index fun b => (b.1, v) := by
  obtain ⟨name, old, here, top⟩ := h.bindingAt?_replaced own last v
  have keeps := h.keeps_replaced own v
  have wf : (replaced index v s).store.WellFormed :=
    h.store.modify s.level fun l hl => ⟨(h.store.indexed _ l hl).set index v, rfl⟩
  have branch : s.branch = ⟨s.level, index + 1⟩ := congrArg (Branch.mk _) last.symm
  have full : s.store.Full ⟨s.level, index⟩ :=
    fun i low => h.full i (by change i < s.length; have : i < index := low; omega)
  have size : (s.store.bindings ⟨s.level, index⟩).length = index := Store.length_bindings full
  rw [view, view, h.branch_replaced last, branch, Store.bindings_succ, Store.bindings_succ, top,
    here, keeps.agree.store.bindings_eq h.store wf]
  simp [List.modify_eq_take_drop, size]

include h own last in
theorem replace (fits : v.Holds (Fits source s ⟨s.level, index⟩)) :
    Sound source (replaced index v s) := by
  have keeps := h.keeps_replaced own v
  have wf : (replaced index v s).store.WellFormed :=
    h.store.modify s.level fun l hl => ⟨(h.store.indexed _ l hl).set index v, rfl⟩
  refine h.of_modify keeps rfl rfl (fun _ => rfl) (fun l k b hl hb => ?_) wf (fun i inside => ?_)
    (h.written_record index) h.made h.fresh
  · have total : s.length = l.trunkLength + l.bindings.size := Store.length_of_level hl
    rw [Level.bindings_set] at hb
    split at hb
    · next here =>
      obtain ⟨old, found, rfl⟩ := Option.map_eq_some_iff.mp hb
      have inside := (Array.getElem?_eq_some_iff.mp found).1
      have position : l.trunkLength + k = index := by omega
      rw [position]
      exact .inr (fits.mono fun _ fits => keeps.fits (.refl _) fits)
    · have inside := (Array.getElem?_eq_some_iff.mp hb).1
      exact .inl ⟨hb, by omega⟩
  · have inside : i < index + 1 := by rw [h.branch_replaced last] at inside; exact inside
    rcases Nat.lt_or_eq_of_le (Nat.le_of_lt_succ inside) with less | rfl
    · refine (keeps.agree.store.full_iff h.store wf).mpr (fun j low => h.full j ?_) i less
      change j < s.length
      have : j < index := low
      omega
    · obtain ⟨name, old, -, top⟩ := h.bindingAt?_replaced own last v
      exact Option.isSome_of_eq_some top

end Replacing

/-! ### Going back to a mark -/

/-- The state after everything from a position on has been popped. -/
def restored (n : Nat) (s : Audited Twin) : Audited Twin :=
  s.withStore (s.store.modify s.level (.popMany (s.length - n)))

section Restoring

variable (h : Sound source s) (h' : Sound source s') (grows : Grows source s s')

include grows in
/-- A stack has the trunk that it had before. -/
theorem trunkLength_eq :
    s'.state.stack.trunkLength s'.store = s.state.stack.trunkLength s.store ∧
      s.state.stack.trunkLength s.store ≤ s.length := by
  obtain ⟨l, l', hl, hl', trunk, -⟩ := grows.keeps.agree.store.level
  have hl : s.store.levels[s.state.stack.level]? = some l := hl
  have hl' : s'.store.levels[s.state.stack.level]? = some l' := hl'
  have length : s.length = l.trunkLength + l.bindings.size := Store.length_of_level hl
  refine ⟨?_, ?_⟩
  · rw [grows.stack]
    simp [Stack.trunkLength, Store.trunkLength, hl, hl', Level.trunkLength, trunk]
  · rw [length]
    simp [Stack.trunkLength, Store.trunkLength, hl]

include h' grows in
theorem reset_eq_ok :
    (Scoping.reset (Scoping.mark s) s' : Run (Audited Twin)) = .ok (restored s.length s') := by
  obtain ⟨same, own⟩ := trunkLength_eq grows
  have reset : s'.state.stack.reset (s.state.stack.checkpoint s.store) s'.store =
      .ok (s'.store.modify s'.level (.popMany (s'.length - s.length)), s'.state.stack) :=
    Stack.reset_eq_ok h'.indent (congrArg (·.indent.utf8ByteSize) grows.stack.symm)
      (by rw [same]; exact own) grows.length
  have state : s'.state.reset s.state.mark = .ok (restored s.length s').state := by
    rw [State.reset, State.mark, reset]
    rfl
  change (do
    let state ← s'.state.reset s.state.mark
    .ok { s' with state }) = _
  rw [state]
  rfl

include h' grows in
theorem keeps_restored : Keeps source s.branch s' (restored s.length s') := by
  have level : s.level = s'.level := congrArg Stack.level grows.stack.symm
  refine .of_agree h'.store ?_ ⟨?_, fun _ _ _ => rfl⟩ (fun _ _ same => same) fun _ _ => rfl
  · exact h'.store.modify s'.level fun l hl =>
      ⟨(h'.store.indexed _ l hl).popMany _, l.trunk_popMany _⟩
  · have branch : s.branch = ⟨s'.level, s.length⟩ := congrArg (Branch.mk · s.length) level
    rw [branch]
    exact Stack.agree_popMany h'.level

include h' grows in
theorem length_restored : (restored s.length s').length = s.length := by
  obtain ⟨same, own⟩ := trunkLength_eq grows
  exact Stack.length_popMany h'.level (by rw [same]; exact own) grows.length

include h' grows in
theorem grows_restored : Grows source s (restored s.length s') :=
  ⟨grows.stack, Nat.le_of_eq (length_restored h' grows).symm,
    grows.keeps.trans (keeps_restored h' grows)⟩

include h h' grows in
theorem restore : Sound source (restored s.length s') := by
  have keeps := keeps_restored h' grows
  have wf : (restored s.length s').store.WellFormed :=
    h'.store.modify s'.level fun l hl =>
      ⟨(h'.store.indexed _ l hl).popMany _, l.trunk_popMany _⟩
  have level : s.level = s'.level := congrArg Stack.level grows.stack.symm
  have branch : s.branch = ⟨s'.level, s.length⟩ := congrArg (Branch.mk · s.length) level
  have both := grows_restored h' grows
  refine h'.of_modify (n := s.length) (branch ▸ keeps) rfl rfl (Level.trunk_popMany _)
    (fun l k b hl hb => ?_) wf ?_ h'.written h'.made h'.fresh
  · have total : s'.length = l.trunkLength + l.bindings.size := Store.length_of_level hl
    rw [Level.bindings_popMany] at hb
    split at hb
    · exact .inl ⟨hb, by omega⟩
    · cases hb
  · rw [both.branch_eq (length_restored h' grows)]
    exact (both.keeps.agree.store.full_iff h.store wf).mpr h.full

end Restoring

/-! ### Making a closure -/

omit [Host] in
theorem closure_close (s : Audited Twin) (d : Definition) :
    (s.close d).1.closure = { d with id := s.state.closures, branch := s.branch } :=
  Twin.closure_ofClosure ..

theorem bindings_close (h : Sound source s) (d : Definition) :
    (s.close d).1.bindings = Twin.copy s.view :=
  Twin.bindings_ofClosure h.length_view

theorem keeps_close (h : Sound source s) (d : Definition) :
    Keeps source s.branch s (s.close d).2 := by
  refine .of_agree h.store h.store ⟨.refl _ h.level, fun _ _ _ => rfl⟩ (fun id entry here => ?_)
    fun _ _ => rfl
  have inside := (List.getElem?_eq_some_iff.mp here).1
  exact (List.getElem?_append_left inside).trans here

theorem grows_close (h : Sound source s) (d : Definition) : Grows source s (s.close d).2 :=
  ⟨rfl, Nat.le_refl _, h.keeps_close d⟩

/-- A closure is captured when it is made. -/
theorem fits_close (h : Sound source s) (d : Definition) :
    Fits source (s.close d).2 s.branch (s.close d).1 := by
  have closure := closure_close s d
  have number : (s.close d).1.id = s.state.closures := congrArg Closure.id closure
  have branch : (s.close d).1.branch = s.branch := congrArg Closure.branch closure
  refine ⟨⟨branch ▸ h.level, ⟨s.now, ?_, ?_⟩, ?_, fun i v kept => ?_⟩, branch ▸ .refl _⟩
  · have last : (s.close d).1.id = s.made.length := number.trans h.made.symm
    rw [last]
    exact List.getElem?_concat_length
  · rw [branch]
    refine untouched_iff.mpr fun i inside => ?_
    obtain ⟨entry, here⟩ := Option.isSome_iff_exists.mp (h.full i inside)
    obtain ⟨holder, _, _, held, _⟩ := Store.exists_holder h.store here
    exact ⟨holder, held, h.written holder i⟩
  · rw [branch, bindings_close h]
    rfl
  · have pending : s.state.cells (s.close d).1.id i = .pending := h.fresh _ i (Nat.le_of_eq number.symm)
    cases pending.symm.trans kept

theorem close (h : Sound source s) (d : Definition) : Sound source (s.close d).2 where
  store := h.store
  level := h.level
  full := h.full
  top := h.top
  bound _ _ _ _ hl hb := h.bound_of_keeps (h.keeps_close d) hl hb (h.within_branch hl hb)
  written := h.written
  made := by
    change (s.made ++ [_]).length = s.state.closures + 1
    simp [h.made]
  fresh id index later := h.fresh id index (Nat.le_of_succ_le later)
  indent := h.indent

/-! ### Going into the scope of a closure -/

/-- The state on a new stack in the scope of a closure. -/
def entered (c : Twin) (indent : String) (s : Audited Twin) : Audited Twin :=
  { s with state := s.state.enter c indent }

section Entering

variable (h : Sound source s) (fits : Fits source s s.branch c) (indent : String)

include h fits in
theorem keeps_entered : Keeps source s.branch s (entered c indent s) :=
  .of_agree h.store (h.store.stackOn fits.1.level indent)
    ⟨Store.agree_add h.level _, fun _ _ _ => rfl⟩ (fun _ _ same => same) fun _ _ => rfl

omit [Host] in
theorem branch_entered : (entered c indent s).branch = ⟨s.store.levels.size, c.branch.length⟩ :=
  congrArg (Branch.mk _) (Stack.length_stackOn s.store c.branch indent)

include h fits in
theorem view_entered : (entered c indent s).view = s.store.bindings c.branch := by
  rw [view, branch_entered]
  exact Store.bindings_congr fun i inside =>
    Stack.bindingAt?_stackOn h.store fits.1.level indent inside

omit [Host] in
theorem levels_entered {id : Nat} (below : id < (entered c indent s).level) :
    (entered c indent s).store.levels[id]? = s.store.levels[id]? := by
  have below : id < s.store.levels.size := below
  exact (Stack.levels_stackOn s.store c.branch indent id).trans (if_neg (Nat.ne_of_lt below))

include h fits in
theorem enter : Sound source (entered c indent s) := by
  have keeps := h.keeps_entered fits indent
  have levels := Stack.levels_stackOn s.store c.branch indent
  have full := fits.1.full h.store
  refine ⟨h.store.stackOn fits.1.level indent, ?_, fun i inside => ?_, fun id l above hl => ?_,
    fun id l k b hl hb => ?_, h.written, h.made, h.fresh, withNewline_ne indent⟩
  · exact Nat.lt_of_lt_of_eq (Nat.lt_succ_self _) (Store.size_add s.store _).symm
  · rw [branch_entered] at inside ⊢
    exact (Stack.bindingAt?_stackOn h.store fits.1.level indent inside).symm ▸ full i inside
  · have above : s.store.levels.size < id := above
    have hl : (s.store.stackOn c.branch indent).1.levels[id]? = some l := hl
    rw [levels, if_neg (by omega), Array.getElem?_eq_none (by omega)] at hl
    cases hl
  · have hl : (s.store.stackOn c.branch indent).1.levels[id]? = some l := hl
    rw [levels] at hl
    split at hl
    · obtain rfl := Option.some.inj hl
      simp [Level.empty] at hb
    · exact h.bound_of_keeps keeps hl hb (h.within_branch hl hb)

end Entering

/-! ### Leaving the scope of a closure -/

/-- The state back on the stack that another state was on. -/
def left (s s' : Audited Twin) : Audited Twin := { s' with state := s'.state.leave s.state.mark }

section Leaving

variable (h : Sound source s) (h' : Sound source s') (above : s.level < s'.level)
  (same : ∀ id < s'.level, s'.store.levels[id]? = s.store.levels[id]?)
  (keeps : Keeps source s.branch s s')

omit [Host] in
theorem levels_left (id : Nat) : (left s s').store.levels[id]? =
    if s'.level = id then s'.store.levels[id]?.map .clear else s'.store.levels[id]? :=
  Store.levels_modify s'.store s'.level id .clear

include h' in
theorem keeps_dropped : Keeps source ⟨s'.level, 0⟩ s' (left s s') :=
  .of_agree h'.store (Stack.wellFormed_drop h'.store)
    ⟨Store.agree_modify h'.level (.inr ⟨rfl, fun _ _ => ⟨rfl, fun _ low => nomatch low⟩⟩),
      fun _ _ _ => rfl⟩ (fun _ _ same => same) fun _ _ => rfl

include h' above keeps in
theorem keeps_left : Keeps source s.branch s (left s s') :=
  keeps.trans ((keeps_dropped h').mono (.inl above) keeps.agree.inside)

include above same in
omit [Host] in
theorem length_left : (left s s').length = s.length := by
  have level : (left s s').store.levels[s.level]? = s.store.levels[s.level]? := by
    rw [levels_left, if_neg (by omega), same _ above]
  change Store.length _ s.level = Store.length _ s.level
  rw [Store.length, Store.length, level]

include h' above same keeps in
theorem grows_left : Grows source s (left s s') :=
  ⟨rfl, Nat.le_of_eq (length_left above same).symm, keeps_left h' above keeps⟩

include h h' above same keeps in
theorem leave : Sound source (left s s') := by
  have grows := grows_left h' above same keeps
  have wf : (left s s').store.WellFormed := Stack.wellFormed_drop h'.store
  refine ⟨wf, grows.keeps.agree.inside, ?_, fun id l high hl => ?_, fun id l k b hl hb => ?_,
    h'.written, h'.made, h'.fresh, h.indent⟩
  · rw [grows.branch_eq (length_left above same)]
    exact (grows.keeps.agree.store.full_iff h.store wf).mpr h.full
  · have high : s.level < id := high
    rw [levels_left] at hl
    split at hl
    · obtain ⟨_, _, rfl⟩ := Option.map_eq_some_iff.mp hl
      rfl
    · rcases Nat.lt_or_ge id s'.level with low | top
      · exact h.top id l high (same id low ▸ hl)
      · exact h'.top id l (by omega) hl
  · rw [levels_left] at hl
    split at hl
    · obtain ⟨_, _, rfl⟩ := Option.map_eq_some_iff.mp hl
      simp [Level.clear, Level.empty] at hb
    · have le := h'.le_level hl hb
      exact h'.bound_of_keeps (keeps_dropped h') hl hb (.inl (by simp only; omega))

end Leaving

/-! ### Evaluating a default -/

/-- The state after the default of a parameter has been kept. -/
def kept (id index : Nat) (cell : Deferred (Value Twin)) (s : Audited Twin) : Audited Twin :=
  { s with state := s.state.keep id index cell }

section Keeping

variable (h : Sound source s) (captured : Captured source s c) {index : Nat} {p : Param} {e : Expr}
  (param : c.closure.signature.params[index]? = some p) (hasDefault : p.default = some e)
  (value : e.eval source (s.state.look c.branch) = .ok v)

include captured param hasDefault value in
/-- Keeping what a default is now leaves every closure captured. -/
theorem captured_kept {c' : Twin} (h' : Captured source s c') :
    Captured source (kept c.id index ⟨some v⟩ s) c' := by
  refine ⟨h'.level, h'.made, h'.bindings, fun i w found => ?_⟩
  change (if c'.id = c.id ∧ i = index then _ else s.state.cells c'.id i) = _ at found
  split at found
  · next same =>
    -- The closure of a number is the one that was made with it.
    obtain ⟨time, made, -⟩ := captured.made
    obtain ⟨time', made', -⟩ := h'.made
    rw [same.1, made] at made'
    obtain ⟨rfl, -⟩ := Prod.mk.inj (Option.some.inj made')
    obtain rfl := Option.some.inj (Deferred.mk.inj found)
    exact ⟨p, e, same.2 ▸ param, hasDefault, value⟩
  · exact h'.default i w found

include h captured param hasDefault value in
theorem grows_kept : Grows source s (kept c.id index ⟨some v⟩ s) :=
  ⟨rfl, Nat.le_refl _, ⟨⟨.refl _ h.level, fun _ _ _ => rfl⟩, fun _ h' _ =>
    captured_kept captured param hasDefault value h'⟩⟩

include h captured param hasDefault value in
theorem keep : Sound source (kept c.id index ⟨some v⟩ s) where
  store := h.store
  level := h.level
  full := h.full
  top := h.top
  bound _ _ _ _ hl hb :=
    h.bound_of_keeps (grows_kept h captured param hasDefault value).keeps hl hb
      (h.within_branch hl hb)
  written := h.written
  made := h.made
  fresh id i later := by
    obtain ⟨_, made, -⟩ := captured.made
    have older : c.id < s.state.closures := h.made ▸ (List.getElem?_eq_some_iff.mp made).1
    have other : ¬ (id = c.id ∧ i = index) := fun same => Nat.not_le.mpr older (same.1 ▸ later)
    exact (if_neg other).trans (h.fresh id i later)
  indent := h.indent

include captured param hasDefault in
/-- A default gives what its expression evaluates to where the closure was made, also if the value is
the one that was kept. -/
theorem state_default_eq : s.state.default c index (fun look => e.eval source look) =
    (fun v => (v, s.state.keep c.id index ⟨some v⟩)) <$>
      e.eval source (s.state.look c.branch) := by
  have value : (s.state.cells c.id index).value?.elim (e.eval source (s.state.look c.branch)) .ok =
      e.eval source (s.state.look c.branch) := by
    rcases found : s.state.cells c.id index with ⟨_ | v⟩
    · rfl
    · obtain ⟨p', e', param', hasDefault', value⟩ := captured.default index v found
      obtain rfl := Option.some.inj (param.symm.trans param')
      obtain rfl := Option.some.inj (hasDefault.symm.trans hasDefault')
      exact value.symm
  exact (State.default_eq c index _ s.state).trans (congrArg _ value)

include captured param hasDefault in
theorem default_eq :
    (Scoping.default c index (fun look => e.eval source look) s : Run (Value Twin × Audited Twin)) =
      (fun v => (v, kept c.id index ⟨some v⟩ s)) <$>
        Run.ofExcept (e.eval source (s.state.look c.branch)) := by
  change (if s.intact c = true then (do
    let (v, state) ← Run.ofExcept (s.state.default c index fun look => e.eval source look)
    .ok (v, { s with state }) : Run (Value Twin × Audited Twin)) else _) = _
  rw [if_pos captured.intact, state_default_eq captured param hasDefault]
  cases e.eval source (s.state.look c.branch) <;> rfl

end Keeping

end Sound

end Translate

end MarkupTemplate

import MarkupTemplate.Proofs.Scoping.Twin

/-!
# Sound states

The invariant of translations on branches: the index of the store is right, no visible position is
vacant, levels above the current one hold nothing, closures to come have no defaults yet, and every
closure that is bound anywhere is captured and sees only what comes before the place where it is
bound. Each operation keeps this.
-/

namespace MarkupTemplate

open Scope

namespace Translate

open Audited

variable [Host] {source : String}

/-- The invariant of audited translations whose closures carry copies. -/
structure Sound (source : String) (s : Audited Twin) : Prop where
  store : s.store.WellFormed
  level : s.level < s.store.levels.size
  full : s.store.Full s.branch
  top : ∀ (id : Nat) (l : Level (Value Twin)), s.level < id → s.store.levels[id]? = some l →
    l.bindings = #[]
  bound : ∀ (id : Nat) (l : Level (Value Twin)) (k : Nat) (b : Binding (Value Twin)),
    s.store.levels[id]? = some l → l.bindings[k]? = some b →
    b.value.Holds (Fits source s ⟨id, l.trunkLength + k⟩)
  written : ∀ id i, s.written id i ≤ s.now
  made : s.made.length = s.state.closures
  fresh : ∀ id index, s.state.closures ≤ id → s.state.cells id index = .pending
  indent : s.state.stack.indent ≠ ""

/-- A state that has come out of another one on the same stack. -/
structure Grows (source : String) (s s' : Audited Twin) : Prop where
  stack : s'.state.stack = s.state.stack
  length : s.length ≤ s'.length
  keeps : Keeps source s.branch s s'

variable {s s' s'' : Audited Twin} {b : Branch} {name : String} {v : Value Twin}

theorem Grows.within (h : Grows source s s') : s.branch.Within s'.branch :=
  .inr ⟨congrArg Stack.level h.stack.symm, h.length⟩

theorem Grows.trans (h : Grows source s s') (h' : Grows source s' s'') : Grows source s s'' :=
  ⟨h'.stack.trans h.stack, Nat.le_trans h.length h'.length,
    h.keeps.trans (h'.keeps.mono h.within h.keeps.agree.inside)⟩

theorem Grows.fits (h : Grows source s s') {c : Twin} (fits : Fits source s s.branch c) :
    Fits source s' s'.branch c :=
  (h.keeps.fits (.refl _) fits).mono h.within

namespace Sound

theorem refl (h : Sound source s) (within : b.Within s.branch) : Keeps source b s s := by
  have inside : b.level < s.store.levels.size := by
    have := h.level
    rcases within with low | ⟨same, -⟩
    · exact Nat.lt_trans low h.level
    · exact same ▸ h.level
  exact ⟨.refl s inside, fun _ captured _ => captured⟩

theorem grows (h : Sound source s) : Grows source s s := ⟨rfl, Nat.le_refl _, h.refl (.refl _)⟩

/-! ### Reading -/

/-- The closures that a binding holds see what comes before it. -/
theorem value (h : Sound source s) {id i : Nat} (bound : s.store.bindingAt? id i = some (name, v)) :
    v.Holds (Fits source s ⟨id, i⟩) := by
  obtain ⟨holder, l, b, -, le, hl, high, hb, entry⟩ := Store.exists_holder h.store bound
  obtain ⟨-, rfl⟩ := Prod.mk.inj entry
  have fits := h.bound holder l _ b hl hb
  rw [Nat.add_sub_cancel' high] at fits
  refine fits.mono fun c fits => fits.mono ?_
  rcases Nat.lt_or_eq_of_le le with less | rfl
  · exact .inl less
  · exact .refl _

theorem found (h : Sound source s) (full : s.store.Full b) {i : Nat}
    (found : lastBinding? name (s.store.bindings b) = some (i, v)) :
    v.Holds (Fits source s b) := by
  have here := mem_of_lastBinding? found
  have inside : i < b.length := by
    rw [← Store.length_bindings full]
    exact (List.getElem?_eq_some_iff.mp here).1
  rw [Store.getElem?_bindings full inside] at here
  exact (h.value here).mono fun c fits => fits.mono (.inr ⟨rfl, Nat.le_of_lt inside⟩)

theorem find?_eq (h : Sound source s) (name : String) :
    s.state.stack.find? s.store name = lastBinding? name s.view :=
  Store.findOn?_eq_lastBinding? h.store h.full name

theorem look_eq (h : Sound source s) (full : s.store.Full b) (name : String) :
    s.state.look b name = (lastBinding? name (s.store.bindings b)).map (·.2) := by
  rw [State.look, Store.findOn?_eq_lastBinding? h.store full]

theorem length_view (h : Sound source s) : s.view.length = s.length := Store.length_bindings h.full

/-- A binding below a branch still holds captured closures after a step that keeps the branch. -/
theorem bound_of_keeps (h : Sound source s) (keeps : Keeps source b s s') {id k : Nat}
    {l : Level (Value Twin)} {binding : Binding (Value Twin)} (hl : s.store.levels[id]? = some l)
    (hb : l.bindings[k]? = some binding) (within : (⟨id, l.trunkLength + k⟩ : Branch).Within b) :
    binding.value.Holds (Fits source s' ⟨id, l.trunkLength + k⟩) :=
  (h.bound id l k binding hl hb).mono fun _ fits => keeps.fits within fits

/-- A level that holds something is the current one or below it. -/
theorem le_level (h : Sound source s) {id k : Nat} {l : Level (Value Twin)}
    {binding : Binding (Value Twin)} (hl : s.store.levels[id]? = some l)
    (hb : l.bindings[k]? = some binding) : id ≤ s.level := by
  by_cases above : s.level < id
  · rw [h.top id l above hl] at hb
    cases hb
  · omega

/-- Everything that is bound is below the top of the current stack. -/
theorem within_branch (h : Sound source s) {id k : Nat} {l : Level (Value Twin)}
    {binding : Binding (Value Twin)} (hl : s.store.levels[id]? = some l)
    (hb : l.bindings[k]? = some binding) :
    (⟨id, l.trunkLength + k⟩ : Branch).Within s.branch := by
  rcases Nat.lt_or_eq_of_le (h.le_level hl hb) with less | rfl
  · exact .inl less
  · have length : s.length = l.trunkLength + l.bindings.size := Store.length_of_level hl
    have inside := (Array.getElem?_eq_some_iff.mp hb).1
    exact .inr ⟨rfl, by change _ ≤ s.length; simp only; omega⟩

/-! ### Changing the current level -/

/-- A change of the current level from a position on leaves a sound state if what is bound from there
on holds closures that fit. -/
theorem of_modify (h : Sound source s) {n : Nat} {f : Level (Value Twin) → Level (Value Twin)}
    (keeps : Keeps source ⟨s.level, n⟩ s s') (store : s'.store = s.store.modify s.level f)
    (stack : s'.state.stack = s.state.stack) (trunk : ∀ l, (f l).trunk = l.trunk)
    (own : ∀ l k b, s.store.levels[s.level]? = some l → (f l).bindings[k]? = some b →
      (l.bindings[k]? = some b ∧ l.trunkLength + k < n) ∨
        b.value.Holds (Fits source s' ⟨s.level, l.trunkLength + k⟩))
    (wf : s'.store.WellFormed) (full : s'.store.Full s'.branch)
    (written : ∀ id i, s'.written id i ≤ s'.now) (made : s'.made.length = s'.state.closures)
    (fresh : ∀ id index, s'.state.closures ≤ id → s'.state.cells id index = .pending) :
    Sound source s' := by
  have level : s'.level = s.level := congrArg Stack.level stack
  refine ⟨wf, ?_, full, fun id l above hl => ?_, fun id l k b hl hb => ?_, written, made, fresh, ?_⟩
  · rw [level]
    exact keeps.agree.inside
  · rw [store, Store.levels_modify, if_neg (by omega)] at hl
    exact h.top id l (by omega) hl
  · rw [store, Store.levels_modify] at hl
    split at hl
    · next same =>
      subst same
      obtain ⟨l, here, rfl⟩ := Option.map_eq_some_iff.mp hl
      have length : (f l).trunkLength = l.trunkLength := by simp [Level.trunkLength, trunk]
      rw [length]
      rcases own l k b here hb with ⟨old, low⟩ | fits
      · exact h.bound_of_keeps keeps here old (.inr ⟨rfl, Nat.le_of_lt low⟩)
      · exact fits
    · next other =>
      have le := h.le_level hl hb
      exact h.bound_of_keeps keeps hl hb (.inl (by simp only; omega))
  · rw [stack]
    exact h.indent

theorem written_record (h : Sound source s) (index id i : Nat) :
    (s.record index).written id i ≤ s.now + 1 := by
  unfold Audited.record
  dsimp only
  split
  · exact Nat.le_refl _
  · exact Nat.le_succ_of_le (h.written id i)

omit [Host] in
theorem written_record_of_above {n index id i : Nat} (le : n ≤ index)
    (above : (⟨s.level, n⟩ : Branch).Above id i) :
    (s.record index).written id i = s.written id i := by
  refine if_neg fun here => ?_
  obtain ⟨rfl, rfl⟩ := here
  rcases above with low | ⟨-, low⟩
  · exact Nat.lt_irrefl _ low
  · exact Nat.not_lt.mpr le low

/-! ### Pushing -/

theorem keeps_push (h : Sound source s) (name : String) (v : Value Twin) :
    Keeps source s.branch s (s.push name v) :=
  .of_agree h.store (Stack.wellFormed_push h.store name v)
    ⟨Stack.agree_push h.level name v, fun _ _ above => written_record_of_above (Nat.le_refl _) above⟩
    (fun _ _ same => same) fun _ _ => rfl

theorem length_push (h : Sound source s) (name : String) (v : Value Twin) :
    (s.push name v).length = s.length + 1 := Stack.length_push h.level name v

theorem grows_push (h : Sound source s) (name : String) (v : Value Twin) :
    Grows source s (s.push name v) :=
  ⟨rfl, by rw [h.length_push]; exact Nat.le_succ _, h.keeps_push name v⟩

theorem view_push (h : Sound source s) (name : String) (v : Value Twin) :
    (s.push name v).view = s.view ++ [(name, v)] :=
  Stack.bindings_push h.store h.level name v

theorem push (h : Sound source s) (name : String) (fits : v.Holds (Fits source s s.branch)) :
    Sound source (s.push name v) := by
  have keeps := h.keeps_push name v
  have wf : (s.push name v).store.WellFormed := Stack.wellFormed_push h.store name v
  refine h.of_modify (f := .push name v) keeps rfl rfl (fun _ => rfl) (fun l k b hl hb => ?_) wf
    (Stack.full_push h.store h.level name v h.full) (h.written_record _) h.made h.fresh
  have length : s.length = l.trunkLength + l.bindings.size := Store.length_of_level hl
  simp only [Level.push, Array.getElem?_push] at hb
  split at hb
  · next last =>
    obtain rfl := Option.some.inj hb
    rw [last, ← length]
    exact .inr (fits.mono fun _ fits => keeps.fits (.refl _) fits)
  · have inside := (Array.getElem?_eq_some_iff.mp hb).1
    have below : l.trunkLength + k < s.length := by omega
    exact .inl ⟨hb, below⟩

end Sound

end Translate

end MarkupTemplate

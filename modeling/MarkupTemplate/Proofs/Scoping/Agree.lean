import MarkupTemplate.Proofs.Scoping.View

/-!
# Agreement below a branch

Two stores that agree below a branch give the same for every branch that ends there. Every operation
leaves the store as it was below the place where it works.
-/

namespace MarkupTemplate.Scope

variable {α : Type}

namespace Store

/-- Two stores agree below a branch: on lower levels, and on its level in the trunk and in the
positions of the branch. -/
structure Agree (σ σ' : Store α) (b : Branch) : Prop where
  lower : ∀ id < b.level, σ'.levels[id]? = σ.levels[id]?
  level : ∃ l l', σ.levels[b.level]? = some l ∧ σ'.levels[b.level]? = some l' ∧
    l'.trunk = l.trunk ∧ ∀ k, l.trunkLength + k < b.length →
      l'.bindings[k]?.map (fun b => (b.name, b.value)) =
        l.bindings[k]?.map (fun b => (b.name, b.value))

namespace Agree

variable {σ σ' σ'' : Store α} {b : Branch}

theorem refl (σ : Store α) {b : Branch} (inside : b.level < σ.levels.size) : σ.Agree σ b :=
  have hl := Array.getElem?_eq_getElem inside
  ⟨fun _ _ => rfl, _, _, hl, hl, rfl, fun _ _ => rfl⟩

theorem trans (h : σ.Agree σ' b) (h' : σ'.Agree σ'' b) : σ.Agree σ'' b := by
  obtain ⟨l, l', hl, hl', trunk, own⟩ := h.level
  obtain ⟨m, m', hm, hm', trunk', own'⟩ := h'.level
  obtain rfl := Option.some.inj (hl'.symm.trans hm)
  refine ⟨fun id low => (h'.lower id low).trans (h.lower id low), l, m', hl, hm',
    trunk'.trans trunk, fun k low => ?_⟩
  have same : l'.trunkLength = l.trunkLength := by simp [Level.trunkLength, trunk]
  rw [own' k (by omega), own k low]

theorem mono {b' : Branch} (h : σ.Agree σ' b) (within : b'.Within b)
    (inside : b'.level < σ.levels.size) : σ.Agree σ' b' := by
  rcases within with less | ⟨same, le⟩
  · have hl := Array.getElem?_eq_getElem inside
    exact ⟨fun id low => h.lower id (by omega), _, _, hl, (h.lower _ less).trans hl, rfl,
      fun _ _ => rfl⟩
  · obtain ⟨l, l', hl, hl', trunk, own⟩ := h.level
    rw [← same] at hl hl'
    exact ⟨fun id low => h.lower id (by omega), l, l', hl, hl', trunk,
      fun k low => own k (by omega)⟩

theorem holder?_eq (wf : σ.WellFormed) (wf' : σ'.WellFormed) (h : σ.Agree σ' b) {id i : Nat}
    (above : b.Above id i) : σ'.holder? id i = σ.holder? id i := by
  have lower : ∀ id < b.level, σ'.holder? id i = σ.holder? id i := by
    intro id
    induction id using Nat.strongRecOn with
    | ind id ih =>
      intro low
      have same := h.lower id low
      cases hl : σ.levels[id]? with
      | none => rw [holder?, holder?, same, hl]
      | some l =>
        by_cases trunk : i < l.trunkLength
        · cases t : l.trunk with
          | none => simp [Level.trunkLength, t] at trunk
          | some t' =>
            have below : i < t'.length := by simpa [Level.trunkLength, t] using trunk
            have older := wf.older id l t' hl t
            rw [holder?_trunk wf' (same.trans hl) t below, holder?_trunk wf hl t below]
            exact ih t'.level older (by omega)
        · rw [holder?_own (same.trans hl) (by omega), holder?_own hl (by omega)]
  rcases above with low | ⟨rfl, inside⟩
  · exact lower id low
  · obtain ⟨l, l', hl, hl', trunk, own⟩ := h.level
    have same : l'.trunkLength = l.trunkLength := by simp [Level.trunkLength, trunk]
    by_cases low : i < l.trunkLength
    · cases t : l.trunk with
      | none => simp [Level.trunkLength, t] at low
      | some t' =>
        have below : i < t'.length := by simpa [Level.trunkLength, t] using low
        rw [holder?_trunk wf' hl' (trunk.trans t) below, holder?_trunk wf hl t below]
        exact lower _ (wf.older _ l t' hl t)
    · rw [holder?_own hl' (by omega), holder?_own hl (by omega), same]
      have both : l'.bindings[i - l.trunkLength]? = none ↔ l.bindings[i - l.trunkLength]? = none := by
        rw [← Option.map_eq_none_iff, own _ (by omega), Option.map_eq_none_iff]
      simp only [Array.getElem?_eq_none_iff] at both
      by_cases inside : i - l.trunkLength < l.bindings.size
      · rw [if_pos (by omega), if_pos inside]
      · rw [if_neg (by omega), if_neg inside]

theorem bindingAt?_eq (wf : σ.WellFormed) (wf' : σ'.WellFormed) (h : σ.Agree σ' b) {id i : Nat}
    (above : b.Above id i) : σ'.bindingAt? id i = σ.bindingAt? id i := by
  rw [bindingAt?_eq_holder wf, bindingAt?_eq_holder wf', h.holder?_eq wf wf' above]
  cases held : σ.holder? id i with
  | none => rfl
  | some holder =>
    obtain ⟨le, m, hm, high, -⟩ := holder?_eq_some held
    simp only [Option.bind_some]
    rcases Nat.lt_or_ge holder b.level with low | top
    · rw [h.lower holder low]
    · obtain ⟨rfl, inside⟩ : holder = b.level ∧ i < b.length := by
        rcases above with _ | ⟨_, _⟩ <;> omega
      obtain ⟨l, l', hl, hl', trunk, own⟩ := h.level
      obtain rfl := Option.some.inj (hl.symm.trans hm)
      have same : l'.trunkLength = l.trunkLength := by simp [Level.trunkLength, trunk]
      rw [hl, hl', Option.bind_some, Option.bind_some, same]
      exact own _ (by omega)

theorem bindings_eq (wf : σ.WellFormed) (wf' : σ'.WellFormed) (h : σ.Agree σ' b) :
    σ'.bindings b = σ.bindings b := by
  exact bindings_congr fun i inside => h.bindingAt?_eq wf wf' (.inr ⟨rfl, inside⟩)

theorem findOn?_eq (wf : σ.WellFormed) (wf' : σ'.WellFormed) (h : σ.Agree σ' b) (name : String) :
    σ'.findOn? name b = σ.findOn? name b := by
  rw [findOn?, findOn?, findBelow_eq_scan wf, findBelow_eq_scan wf']
  exact scan_congr fun i inside => h.bindingAt?_eq wf wf' (.inr ⟨rfl, inside⟩)

theorem full_iff (wf : σ.WellFormed) (wf' : σ'.WellFormed) (h : σ.Agree σ' b) :
    σ'.Full b ↔ σ.Full b := by
  have same : ∀ i < b.length, σ'.bindingAt? b.level i = σ.bindingAt? b.level i :=
    fun i inside => h.bindingAt?_eq wf wf' (.inr ⟨rfl, inside⟩)
  exact ⟨fun full i inside => same i inside ▸ full i inside,
    fun full i inside => (same i inside).symm ▸ full i inside⟩

end Agree

/-! ### Operations -/

theorem agree_modify {σ : Store α} {b : Branch} {id : Nat} {f : Level α → Level α}
    (inside : b.level < σ.levels.size)
    (above : b.level < id ∨ b.level = id ∧ ∀ l, σ.levels[id]? = some l → (f l).trunk = l.trunk ∧
      ∀ k, l.trunkLength + k < b.length → (f l).bindings[k]?.map (fun b => (b.name, b.value)) =
        l.bindings[k]?.map (fun b => (b.name, b.value))) :
    σ.Agree (σ.modify id f) b := by
  have hl := Array.getElem?_eq_getElem inside
  refine ⟨fun k low => ?_, ?_⟩
  · rw [levels_modify, if_neg (by omega)]
  · rcases above with above | ⟨same, kept⟩
    · exact ⟨_, _, hl, by rw [levels_modify, if_neg (by omega), hl], rfl, fun _ _ => rfl⟩
    · subst same
      obtain ⟨trunk, own⟩ := kept _ hl
      exact ⟨_, _, hl, by rw [levels_modify, if_pos rfl, hl, Option.map_some], trunk, own⟩

theorem agree_add {σ : Store α} {b : Branch} (inside : b.level < σ.levels.size) (l : Level α) :
    σ.Agree (σ.add l).1 b := by
  have hl := Array.getElem?_eq_getElem inside
  refine ⟨fun k low => by rw [levels_add, if_neg (by omega)], _, _, hl, ?_, rfl, fun _ _ => rfl⟩
  rw [levels_add, if_neg (by omega), hl]

theorem length_modify {σ : Store α} {id : Nat} {l : Level α} (hl : σ.levels[id]? = some l)
    (f : Level α → Level α) : (σ.modify id f).length id = (f l).length := by
  simp [Store.length, levels_modify, hl]

theorem length_of_level {σ : Store α} {id : Nat} {l : Level α} (hl : σ.levels[id]? = some l) :
    σ.length id = l.trunkLength + l.bindings.size := by
  simp [Store.length, hl, Level.length]

end Store

namespace Stack

variable {σ : Store α} {s : Stack}

theorem exists_level (inside : s.level < σ.levels.size) :
    ∃ l, σ.levels[s.level]? = some l ∧ s.length σ = l.trunkLength + l.bindings.size ∧
      s.trunkLength σ = l.trunkLength := by
  have hl := Array.getElem?_eq_getElem inside
  exact ⟨_, hl, Store.length_of_level hl, by simp [Stack.trunkLength, Store.trunkLength, hl]⟩

/-! ### Pushing -/

theorem length_push (inside : s.level < σ.levels.size) (name : String) (v : α) :
    s.length (s.push name v σ) = s.length σ + 1 := by
  obtain ⟨l, hl, length, -⟩ := exists_level inside
  rw [length, Stack.length, push, Store.length_modify hl]
  simp [Level.length, Level.push, Level.trunkLength, Nat.add_assoc]

theorem agree_push (inside : s.level < σ.levels.size) (name : String) (v : α) :
    σ.Agree (s.push name v σ) (s.branch σ) := by
  refine Store.agree_modify inside (.inr ⟨rfl, fun l hl => ⟨rfl, fun k low => ?_⟩⟩)
  have length : s.length σ = l.trunkLength + l.bindings.size := Store.length_of_level hl
  have below : k < l.bindings.size := by simp only [branch, length] at low; omega
  simp only [Level.push, Array.getElem?_push, Nat.ne_of_lt below, if_false]

theorem bindingAt?_push (inside : s.level < σ.levels.size) (name : String) (v : α) :
    (s.push name v σ).bindingAt? s.level (s.length σ) = some (name, v) := by
  obtain ⟨l, hl, length, -⟩ := exists_level inside
  have hl' : (s.push name v σ).levels[s.level]? = some (l.push name v) := by
    rw [push, Store.levels_modify, if_pos rfl, hl, Option.map_some]
  have same : (l.push name v).trunkLength = l.trunkLength := rfl
  rw [Store.bindingAt?_own hl' (by rw [length, same]; exact Nat.le_add_right _ _), same, length,
    Nat.add_sub_cancel_left]
  simp [Level.push]

/-- What was bound last is found. -/
theorem find?_push (inside : s.level < σ.levels.size) (name : String) (v : α) :
    s.find? (s.push name v σ) name = some (s.length σ, v) := by
  obtain ⟨l, hl, length, -⟩ := exists_level inside
  have hl' : (s.push name v σ).levels[s.level]? = some (l.push name v) := by
    rw [push, Store.levels_modify, if_pos rfl, hl, Option.map_some]
  have length' : (s.push name v σ).length s.level = l.length + 1 :=
    (length_push inside name v).trans (congrArg (· + 1) length)
  have found : (l.push name v).below (l.length + 1) l.length = some (l.length, v) := by
    unfold Level.below
    simp [Level.push, Level.length, Level.trunkLength]
  rw [find?, Store.find?, Store.findBelow, hl', length', length]
  simp only [Level.push, Std.HashMap.getElem?_insert_self] at found ⊢
  simp only [Option.bind_some, found]
  rfl

theorem bindings_push (wf : σ.WellFormed) (inside : s.level < σ.levels.size) (name : String)
    (v : α) : (s.push name v σ).bindings (s.branch (s.push name v σ)) =
      σ.bindings (s.branch σ) ++ [(name, v)] := by
  have wf' := wellFormed_push (s := s) wf name v
  have branch : s.branch (s.push name v σ) = ⟨s.level, s.length σ + 1⟩ :=
    congrArg (Branch.mk s.level) (length_push inside name v)
  have lower := (agree_push inside name v).bindings_eq wf wf'
  rw [branch, Store.bindings_succ, bindingAt?_push inside]
  exact congrArg (· ++ [(name, v)]) lower

theorem full_push (wf : σ.WellFormed) (inside : s.level < σ.levels.size) (name : String) (v : α)
    (full : σ.Full (s.branch σ)) : (s.push name v σ).Full (s.branch (s.push name v σ)) := by
  have wf' := wellFormed_push (s := s) wf name v
  intro i below
  have below : i < s.length σ + 1 := length_push inside name v ▸ below
  rcases Nat.lt_or_eq_of_le (Nat.le_of_lt_succ below) with less | rfl
  · exact ((agree_push inside name v).full_iff wf wf').mpr full i less
  · exact Option.isSome_of_eq_some (bindingAt?_push inside name v)

/-! ### Replacing the last value -/

theorem set_eq_ok {index : Nat} (v : α) (own : s.trunkLength σ ≤ index)
    (below : index < s.length σ) :
    s.set index v σ = .ok (σ.modify s.level (.set index v)) := by
  rw [set, if_neg (Nat.not_lt.mpr own), if_pos below]

theorem length_set (inside : s.level < σ.levels.size) (index : Nat) (v : α) :
    s.length (σ.modify s.level (.set index v)) = s.length σ := by
  obtain ⟨l, hl, length, -⟩ := exists_level inside
  rw [length, Stack.length, Store.length_modify hl]
  simp [Level.length, Level.set, Level.trunkLength]

theorem agree_set (inside : s.level < σ.levels.size) (index : Nat) (v : α)
    (own : s.trunkLength σ ≤ index) :
    σ.Agree (σ.modify s.level (.set index v)) ⟨s.level, index⟩ := by
  refine Store.agree_modify inside (.inr ⟨rfl, fun l hl => ⟨rfl, fun k low => ?_⟩⟩)
  obtain ⟨l', hl', -, trunk⟩ := exists_level inside
  obtain rfl := Option.some.inj (hl.symm.trans hl')
  have other : index - l.trunkLength ≠ k := by simp only at low; omega
  rw [Level.bindings_set, if_neg other]

theorem bindingAt?_set (inside : s.level < σ.levels.size) {index : Nat} (v : α)
    (own : s.trunkLength σ ≤ index) {name : String} {old : α}
    (h : σ.bindingAt? s.level index = some (name, old)) :
    (σ.modify s.level (.set index v)).bindingAt? s.level index = some (name, v) := by
  obtain ⟨l, hl, -, trunk⟩ := exists_level inside
  have hl' : (σ.modify s.level (.set index v)).levels[s.level]? = some (l.set index v) := by
    rw [Store.levels_modify, if_pos rfl, hl, Option.map_some]
  have same : (l.set index v).trunkLength = l.trunkLength := rfl
  rw [Store.bindingAt?_own hl (by omega)] at h
  obtain ⟨b, hb, entry⟩ := Option.map_eq_some_iff.mp h
  obtain ⟨rfl, -⟩ := Prod.mk.inj entry
  rw [Store.bindingAt?_own hl' (by omega), same, Level.bindings_set, if_pos rfl, hb]
  rfl

/-! ### Popping -/

theorem length_popMany (inside : s.level < σ.levels.size) {n : Nat}
    (own : s.trunkLength σ ≤ n) (below : n ≤ s.length σ) :
    s.length (σ.modify s.level (.popMany (s.length σ - n))) = n := by
  obtain ⟨l, hl, length, trunk⟩ := exists_level inside
  have same : (l.popMany (s.length σ - n)).trunkLength = l.trunkLength := by
    simp [Level.trunkLength, Level.trunk_popMany]
  rw [Stack.length, Store.length_modify hl, Level.length, Level.size_popMany, same]
  omega

theorem agree_popMany (inside : s.level < σ.levels.size) {n : Nat} :
    σ.Agree (σ.modify s.level (.popMany (s.length σ - n))) ⟨s.level, n⟩ := by
  refine Store.agree_modify inside
    (.inr ⟨rfl, fun l hl => ⟨Level.trunk_popMany _ l, fun k low => ?_⟩⟩)
  obtain ⟨l', hl', length, -⟩ := exists_level inside
  obtain rfl := Option.some.inj (hl.symm.trans hl')
  rw [Level.bindings_popMany]
  split
  · rfl
  · rw [Array.getElem?_eq_none (by simp only at low; omega)]

theorem reset_cases {σ' : Store α} {s' : Stack} {c : Checkpoint} (h : s.reset c σ = .ok (σ', s')) :
    s.trunkLength σ ≤ c.length ∧ c.length ≤ s.length σ ∧ s'.level = s.level ∧
      σ' = σ.modify s.level (.popMany (s.length σ - c.length)) := by
  unfold reset at h
  split at h
  · cases h
  · next below =>
    split at h
    · cases h
    · next above =>
      split at h
      · cases h
      · cases h
        simp only [Bool.or_eq_true, decide_eq_true_eq, not_or, Nat.not_lt] at below above
        exact ⟨above.1, below.1, rfl, rfl⟩

/-- Going back to a checkpoint leaves the lower positions. -/
theorem bindings_reset {σ' : Store α} {s' : Stack} {c : Checkpoint} (wf : σ.WellFormed)
    (inside : s.level < σ.levels.size) (full : σ.Full (s.branch σ))
    (h : s.reset c σ = .ok (σ', s')) : σ'.Full (s'.branch σ') ∧
      σ'.bindings (s'.branch σ') = (σ.bindings (s.branch σ)).take c.length := by
  obtain ⟨wf', level⟩ := wellFormed_reset wf h
  obtain ⟨own, below, -, popped⟩ := reset_cases h
  have agree : σ.Agree σ' ⟨s.level, c.length⟩ := popped ▸ agree_popMany inside
  have length : s'.length σ' = c.length := by
    rw [Stack.length, level, popped]
    exact length_popMany inside own below
  have branch : s'.branch σ' = ⟨s.level, c.length⟩ := by rw [Stack.branch, length, level]
  have lower : σ.Full ⟨s.level, c.length⟩ :=
    fun i low => full i (Nat.lt_of_lt_of_le low below)
  rw [branch, agree.bindings_eq wf wf']
  exact ⟨(agree.full_iff wf wf').mpr lower, Store.bindings_take full below⟩

/-! ### Stacks on branches -/

theorem levels_stackOn (σ : Store α) (b : Branch) (indent : String) (id : Nat) :
    (σ.stackOn b indent).1.levels[id]? =
      if id = σ.levels.size then some (.empty (some b)) else σ.levels[id]? :=
  Store.levels_add σ _ id

theorem length_stackOn (σ : Store α) (b : Branch) (indent : String) :
    (σ.stackOn b indent).2.length (σ.stackOn b indent).1 = b.length := by
  have hl := levels_stackOn σ b indent σ.levels.size
  rw [if_pos rfl] at hl
  exact Store.length_of_level hl

theorem bindingAt?_stackOn (wf : σ.WellFormed) {b : Branch} (older : b.level < σ.levels.size)
    (indent : String) {i : Nat} (below : i < b.length) :
    (σ.stackOn b indent).1.bindingAt? σ.levels.size i = σ.bindingAt? b.level i := by
  have wf' := wf.stackOn older indent
  have hl := levels_stackOn σ b indent σ.levels.size
  rw [if_pos rfl] at hl
  rw [Store.bindingAt?_trunk wf' hl rfl below]
  exact (Store.agree_add (b := b) older _).bindingAt?_eq wf wf' (.inr ⟨rfl, below⟩)

end Stack

end MarkupTemplate.Scope

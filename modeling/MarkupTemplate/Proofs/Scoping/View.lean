import MarkupTemplate.Proofs.Scope.Map
import MarkupTemplate.Proofs.Scope.WellFormed
import MarkupTemplate.Proofs.Scoping.Audit
import MarkupTemplate.Proofs.Scoping.Lexical

/-!
# Views of branches

The bindings that a branch sees as a plain list. On a branch without vacant positions, looking a name
up on the store and in the list is the same. Stores that agree below a branch have the same view of
it.
-/

namespace MarkupTemplate

variable {α β : Type}

/-! ### Last bindings -/

theorem lastBinding?_append (name other : String) (v : α) (bindings : List (String × α)) :
    lastBinding? name (bindings ++ [(other, v)]) =
      if other = name then some (bindings.length, v) else lastBinding? name bindings := by
  induction bindings with
  | nil => simp [lastBinding?]
  | cons b rest ih =>
    simp only [List.cons_append, lastBinding?, ih, List.length_cons]
    by_cases h : other = name
    · simp only [h, if_true]
    · simp only [h, if_false]

theorem lastBinding?_map (f : α → β) (name : String) (bindings : List (String × α)) :
    lastBinding? name (bindings.map (Prod.map id f)) =
      (lastBinding? name bindings).map (Prod.map id f) := by
  induction bindings with
  | nil => rfl
  | cons b rest ih =>
    simp only [List.map_cons, lastBinding?, Prod.map, ih]
    cases lastBinding? name rest with
    | some found => rfl
    | none => by_cases h : b.1 = name <;> simp [h]

theorem isSome_lastBinding? {α : Type} {name : String} {bindings : List (String × α)} :
    (lastBinding? name bindings).isSome ↔ name ∈ bindings.map (·.1) := by
  induction bindings with
  | nil => simp [lastBinding?]
  | cons b rest ih =>
    rw [lastBinding?, List.map_cons, List.mem_cons, ← ih]
    cases lastBinding? name rest with
    | some found => simp
    | none => by_cases same : b.1 = name <;> simp [same, eq_comm (a := name)]

theorem mem_of_lastBinding? {name : String} {bindings : List (String × α)} {i : Nat} {v : α}
    (h : lastBinding? name bindings = some (i, v)) : bindings[i]? = some (name, v) := by
  induction bindings generalizing i with
  | nil => cases h
  | cons b rest ih =>
    simp only [lastBinding?] at h
    split at h
    · next found =>
      obtain ⟨rfl, rfl⟩ := Prod.mk.inj (Option.some.inj h)
      exact ih found
    · split at h
      · next same =>
        obtain ⟨rfl, rfl⟩ := Prod.mk.inj (Option.some.inj h)
        rw [← same]
        rfl
      · cases h

namespace Scope

/-- A position that comes before the end of a branch: of a lower level, or of the same level. -/
def Branch.Above (b : Branch) (id index : Nat) : Prop :=
  id < b.level ∨ id = b.level ∧ index < b.length

/-- A branch that ends before another one does. -/
def Branch.Within (b b' : Branch) : Prop :=
  b.level < b'.level ∨ b.level = b'.level ∧ b.length ≤ b'.length

theorem Branch.Within.refl (b : Branch) : b.Within b := .inr ⟨rfl, Nat.le_refl _⟩

theorem Branch.Within.trans {a b c : Branch} (h : a.Within b) (h' : b.Within c) : a.Within c := by
  rcases h with h | ⟨h, hl⟩ <;> rcases h' with h' | ⟨h', hl'⟩
  all_goals first | exact .inl (by omega) | exact .inr ⟨by omega, by omega⟩

theorem Branch.Above.mono {b b' : Branch} {id index : Nat} (h : b.Above id index)
    (within : b.Within b') : b'.Above id index := by
  rcases h with h | ⟨h, hl⟩ <;> rcases within with h' | ⟨h', hl'⟩
  all_goals first | exact .inl (by omega) | exact .inr ⟨by omega, by omega⟩

namespace Store

/-- The bindings that a branch sees, in order. -/
def bindings (σ : Store α) (b : Branch) : List (String × α) :=
  (List.range b.length).filterMap (σ.bindingAt? b.level)

/-- No position of a branch is vacant. -/
def Full (σ : Store α) (b : Branch) : Prop := ∀ i < b.length, (σ.bindingAt? b.level i).isSome

theorem bindings_succ (σ : Store α) (id n : Nat) :
    σ.bindings ⟨id, n + 1⟩ = σ.bindings ⟨id, n⟩ ++ (σ.bindingAt? id n).toList := by
  simp only [bindings, List.range_succ, List.filterMap_append]
  rfl

theorem bindings_congr {σ σ' : Store α} {id id' n : Nat}
    (same : ∀ i < n, σ'.bindingAt? id' i = σ.bindingAt? id i) :
    σ'.bindings ⟨id', n⟩ = σ.bindings ⟨id, n⟩ := by
  induction n with
  | zero => rfl
  | succ n ih =>
    rw [bindings_succ, bindings_succ, ih fun i low => same i (by omega), same n n.lt_succ_self]

theorem Full.succ {σ : Store α} {id n : Nat} (full : σ.Full ⟨id, n + 1⟩) :
    σ.Full ⟨id, n⟩ ∧ ∃ entry, σ.bindingAt? id n = some entry :=
  ⟨fun i hi => full i (Nat.lt_succ_of_lt hi), Option.isSome_iff_exists.mp (full n n.lt_succ_self)⟩

theorem length_bindings {σ : Store α} {b : Branch} (full : σ.Full b) :
    (σ.bindings b).length = b.length := by
  obtain ⟨id, n⟩ := b
  induction n with
  | zero => rfl
  | succ n ih =>
    obtain ⟨lower, entry, here⟩ := full.succ
    simp [bindings_succ, here, ih lower]

theorem getElem?_bindings {σ : Store α} {b : Branch} (full : σ.Full b) {i : Nat}
    (inside : i < b.length) : (σ.bindings b)[i]? = σ.bindingAt? b.level i := by
  obtain ⟨id, n⟩ := b
  induction n with
  | zero => cases inside
  | succ n ih =>
    obtain ⟨lower, entry, here⟩ := full.succ
    have length : (σ.bindings ⟨id, n⟩).length = n := length_bindings lower
    rw [bindings_succ, here]
    rcases Nat.lt_or_eq_of_le (Nat.le_of_lt_succ inside) with less | rfl
    · rw [List.getElem?_append_left (by omega), ih lower less]
    · rw [List.getElem?_append_right (by omega), length, Nat.sub_self]
      exact here.symm

theorem bindings_take {σ : Store α} {b : Branch} (full : σ.Full b) {n : Nat} (le : n ≤ b.length) :
    σ.bindings ⟨b.level, n⟩ = (σ.bindings b).take n := by
  have lower : σ.Full ⟨b.level, n⟩ := fun i below => full i (Nat.lt_of_lt_of_le below le)
  apply List.ext_getElem?
  intro i
  rw [List.getElem?_take]
  split
  · next below =>
    rw [getElem?_bindings lower below, getElem?_bindings full (Nat.lt_of_lt_of_le below le)]
  · next above =>
    have length : (σ.bindings ⟨b.level, n⟩).length = n := length_bindings lower
    exact List.getElem?_eq_none (by omega)

theorem scan_eq_lastBinding? {σ : Store α} {b : Branch} (full : σ.Full b) (name : String) :
    σ.scan name b.level b.length = lastBinding? name (σ.bindings b) := by
  obtain ⟨id, n⟩ := b
  induction n with
  | zero => rfl
  | succ n ih =>
    obtain ⟨lower, ⟨other, v⟩, here⟩ := full.succ
    have length : (σ.bindings ⟨id, n⟩).length = n := length_bindings lower
    rw [bindings_succ, here, Option.toList_some, lastBinding?_append, length, ← ih lower]
    simp only [scan, here]

theorem findOn?_eq_lastBinding? {σ : Store α} (wf : σ.WellFormed) {b : Branch} (full : σ.Full b)
    (name : String) : σ.findOn? name b = lastBinding? name (σ.bindings b) := by
  rw [findOn?, findBelow_eq_scan wf, scan_eq_lastBinding? full]

/-! ### Holders -/

theorem holder?_own {σ : Store α} {id index : Nat} {l : Level α} (h : σ.levels[id]? = some l)
    (above : l.trunkLength ≤ index) :
    σ.holder? id index = if index - l.trunkLength < l.bindings.size then some id else none := by
  rw [holder?, h]
  simp [Nat.not_lt.mpr above]

theorem holder?_trunk {σ : Store α} {id index : Nat} {l : Level α} {b : Branch}
    (wf : σ.WellFormed) (h : σ.levels[id]? = some l) (trunk : l.trunk = some b)
    (below : index < b.length) : σ.holder? id index = σ.holder? b.level index := by
  have older := wf.older id l b h trunk
  have length : l.trunkLength = b.length := by simp [Level.trunkLength, trunk]
  rw [holder?, h]
  simp [length, below, trunk, older]

theorem holder?_eq_some {σ : Store α} {id index holder : Nat}
    (h : σ.holder? id index = some holder) :
    holder ≤ id ∧ ∃ l, σ.levels[holder]? = some l ∧ l.trunkLength ≤ index ∧
      index - l.trunkLength < l.bindings.size := by
  induction id using Nat.strongRecOn with
  | ind id ih =>
    rw [holder?] at h
    split at h
    · cases h
    · next l hl =>
      split at h
      · split at h
        · cases h
        · split at h
          · next older =>
            obtain ⟨le, rest⟩ := ih _ older h
            exact ⟨by omega, rest⟩
          · cases h
      · next high =>
        split at h
        · next inside =>
          cases h
          exact ⟨Nat.le_refl _, l, hl, Nat.le_of_not_lt high, inside⟩
        · cases h

/-- A binding is found where its holder has it. -/
theorem bindingAt?_eq_holder {σ : Store α} (wf : σ.WellFormed) (id index : Nat) :
    σ.bindingAt? id index = (σ.holder? id index).bind fun holder => σ.levels[holder]?.bind fun l =>
      l.bindings[index - l.trunkLength]?.map fun b => (b.name, b.value) := by
  induction id using Nat.strongRecOn with
  | ind id ih =>
    cases hl : σ.levels[id]? with
    | none => rw [bindingAt?_none hl, holder?, hl, Option.bind_none]
    | some l =>
      by_cases low : index < l.trunkLength
      · cases trunk : l.trunk with
        | none => simp [Level.trunkLength, trunk] at low
        | some b =>
          have inside : index < b.length := by simpa [Level.trunkLength, trunk] using low
          rw [bindingAt?_trunk wf hl trunk inside, holder?_trunk wf hl trunk inside]
          exact ih b.level (wf.older id l b hl trunk)
      · have high := Nat.le_of_not_lt low
        rw [bindingAt?_own hl high, holder?_own hl high]
        split
        · rw [Option.bind_some, hl, Option.bind_some]
        · rw [Array.getElem?_eq_none (by omega), Option.map_none, Option.bind_none]

theorem exists_holder {σ : Store α} (wf : σ.WellFormed) {id index : Nat} {entry : String × α}
    (h : σ.bindingAt? id index = some entry) :
    ∃ holder l b, σ.holder? id index = some holder ∧ holder ≤ id ∧
      σ.levels[holder]? = some l ∧ l.trunkLength ≤ index ∧
      l.bindings[index - l.trunkLength]? = some b ∧ (b.name, b.value) = entry := by
  rw [bindingAt?_eq_holder wf] at h
  obtain ⟨holder, held, h⟩ := Option.bind_eq_some_iff.mp h
  obtain ⟨le, l, hl, high, -⟩ := holder?_eq_some held
  obtain ⟨l', hl', h⟩ := Option.bind_eq_some_iff.mp h
  obtain rfl := Option.some.inj (hl.symm.trans hl')
  obtain ⟨b, hb, same⟩ := Option.map_eq_some_iff.mp h
  exact ⟨holder, l, b, held, le, hl, high, hb, same⟩

end Store

end Scope

end MarkupTemplate

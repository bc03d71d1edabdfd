import MarkupTemplate.Proofs.Scope.Index

/-!
# Positions of a store

What a position of a level binds, read off the levels directly: its own bindings come after the
positions of its trunk, which are read on the level below as that is now. In a store whose indexes
are right, `Store.findBelow_eq_scan` shows that looking a name up gives the last position that binds
it.
-/

namespace MarkupTemplate.Scope

variable {α : Type}

namespace Store

/-- Every index is right, and trunks belong to levels that are older than those on top of them. -/
structure WellFormed (σ : Store α) : Prop where
  indexed : ∀ (id : Nat) (l : Level α), σ.levels[id]? = some l → l.Indexed
  older : ∀ (id : Nat) (l : Level α) (b : Branch), σ.levels[id]? = some l → l.trunk = some b →
    b.level < id

/-- The name and the value at a position of a level. -/
def bindingAt? (σ : Store α) (id index : Nat) : Option (String × α) :=
  match σ.levels[id]? with
  | none => none
  | some l =>
    if index < l.trunkLength then
      match l.trunk with
      | none => none
      | some b => if b.level < id then σ.bindingAt? b.level index else none
    else l.bindings[index - l.trunkLength]?.map fun b => (b.name, b.value)
termination_by id

/-- A position of a level binds a name to a value: by a binding of the level, or by the same position
of its trunk. -/
inductive Binds (σ : Store α) : Nat → Nat → String → α → Prop where
  | own {id k : Nat} {l : Level α} {b : Binding α} (level : σ.levels[id]? = some l)
      (binding : l.bindings[k]? = some b) : σ.Binds id (l.trunkLength + k) b.name b.value
  | trunk {id index : Nat} {l : Level α} {b : Branch} {name : String} {value : α}
      (level : σ.levels[id]? = some l) (trunk : l.trunk = some b) (below : index < b.length)
      (binds : σ.Binds b.level index name value) : σ.Binds id index name value

/-- The last of the first `n` positions of a level that binds a name. -/
def scan (σ : Store α) (name : String) (id : Nat) : Nat → Option (Nat × α)
  | 0 => none
  | n + 1 => match σ.bindingAt? id n with
    | some (other, value) => if other = name then some (n, value) else σ.scan name id n
    | none => σ.scan name id n

/-! ### Entries -/

theorem bindingAt?_none {σ : Store α} {id : Nat} (h : σ.levels[id]? = none) (index : Nat) :
    σ.bindingAt? id index = none := by
  rw [bindingAt?, h]

theorem bindingAt?_own {σ : Store α} {id index : Nat} {l : Level α} (h : σ.levels[id]? = some l)
    (above : l.trunkLength ≤ index) :
    σ.bindingAt? id index = l.bindings[index - l.trunkLength]?.map fun b => (b.name, b.value) := by
  rw [bindingAt?, h]
  simp [Nat.not_lt.mpr above]

theorem bindingAt?_trunk {σ : Store α} {id index : Nat} {l : Level α} {b : Branch}
    (wf : σ.WellFormed) (h : σ.levels[id]? = some l) (trunk : l.trunk = some b)
    (below : index < b.length) : σ.bindingAt? id index = σ.bindingAt? b.level index := by
  have older := wf.older id l b h trunk
  have length : l.trunkLength = b.length := by simp [Level.trunkLength, trunk]
  rw [bindingAt?, h]
  simp [length, below, trunk, older]

theorem get?_eq_bindingAt? (σ : Store α) (id index : Nat) :
    σ.get? id index = (σ.bindingAt? id index).map (·.2) := by
  induction id using Nat.strongRecOn with
  | ind id ih =>
    rw [get?, bindingAt?]
    cases σ.levels[id]? with
    | none => rfl
    | some l =>
      by_cases below : index < l.trunkLength
      · simp only [below, if_true]
        cases l.trunk with
        | none => rfl
        | some b =>
          by_cases older : b.level < id
          · simp only [older, if_true]
            exact ih b.level older
          · simp only [older, if_false, Option.map_none]
      · simp [below, Function.comp_def]

theorem bindingAt?_eq_some_iff {σ : Store α} (wf : σ.WellFormed) {id index : Nat} {name : String}
    {value : α} : σ.bindingAt? id index = some (name, value) ↔ σ.Binds id index name value := by
  constructor
  · induction id using Nat.strongRecOn with
    | ind id ih =>
      intro found
      cases h : σ.levels[id]? with
      | none => simp [bindingAt?_none h] at found
      | some l =>
        by_cases below : index < l.trunkLength
        · cases trunk : l.trunk with
          | none => simp [Level.trunkLength, trunk] at below
          | some b =>
            have inside : index < b.length := by simpa [Level.trunkLength, trunk] using below
            rw [bindingAt?_trunk wf h trunk inside] at found
            exact .trunk h trunk inside (ih b.level (wf.older id l b h trunk) found)
        · rw [bindingAt?_own h (Nat.le_of_not_lt below)] at found
          obtain ⟨b, hb, same⟩ := Option.map_eq_some_iff.mp found
          cases same
          have := Binds.own h hb
          rwa [Nat.add_sub_cancel' (Nat.le_of_not_lt below)] at this
  · intro binds
    induction binds with
    | own h hb => rw [bindingAt?_own h (Nat.le_add_right _ _), Nat.add_sub_cancel_left, hb]; rfl
    | trunk h trunk below _ ih => rw [bindingAt?_trunk wf h trunk below, ih]

/-! ### Scans -/

theorem scan_eq_some_iff {σ : Store α} {name : String} {id n i : Nat} {value : α} :
    σ.scan name id n = some (i, value) ↔ i < n ∧ σ.bindingAt? id i = some (name, value) ∧
      ∀ j, i < j → j < n → ∀ other, σ.bindingAt? id j ≠ some (name, other) := by
  induction n with
  | zero => simp [scan]
  | succ n ih =>
    have step : ∀ (later : Prop), (∀ other, σ.bindingAt? id n ≠ some (name, other)) →
        (later ↔ i < n ∧ σ.bindingAt? id i = some (name, value) ∧
          ∀ j, i < j → j < n → ∀ other, σ.bindingAt? id j ≠ some (name, other)) →
        (later ↔ i < n + 1 ∧ σ.bindingAt? id i = some (name, value) ∧
          ∀ j, i < j → j < n + 1 → ∀ other, σ.bindingAt? id j ≠ some (name, other)) := by
      intro later absent same
      rw [same]
      constructor
      · rintro ⟨hi, here, last⟩
        refine ⟨by omega, here, fun j hij hj => ?_⟩
        rcases Nat.lt_or_eq_of_le (Nat.le_of_lt_succ hj) with less | rfl
        · exact last j hij less
        · exact absent
      · rintro ⟨hi, here, last⟩
        have : i ≠ n := fun same => absent value (same ▸ here)
        exact ⟨by omega, here, fun j hij hj => last j hij (by omega)⟩
    rw [scan]
    cases entry : σ.bindingAt? id n with
    | none => exact step _ (by simp [entry]) ih
    | some pair =>
      obtain ⟨other, w⟩ := pair
      by_cases same : other = name
      · subst same
        simp only [if_true, Option.some.injEq, Prod.mk.injEq]
        constructor
        · rintro ⟨rfl, rfl⟩
          exact ⟨by omega, entry, fun j hij hj => absurd hj (by omega)⟩
        · rintro ⟨hi, here, last⟩
          rcases Nat.lt_or_eq_of_le (Nat.le_of_lt_succ hi) with less | rfl
          · exact absurd entry (last n less (Nat.lt_succ_self n) w)
          · rw [entry] at here
            cases here
            exact ⟨rfl, rfl⟩
      · simp only [same, if_false]
        exact step _ (by simp [entry, same]) ih

theorem scan_eq_none_iff {σ : Store α} {name : String} {id n : Nat} :
    σ.scan name id n = none ↔ ∀ i < n, ∀ value, σ.bindingAt? id i ≠ some (name, value) := by
  induction n with
  | zero => simp [scan]
  | succ n ih =>
    rw [scan]
    constructor
    · intro h i hi value here
      cases entry : σ.bindingAt? id n with
      | none =>
        rw [entry] at h
        rcases Nat.lt_or_eq_of_le (Nat.le_of_lt_succ hi) with less | rfl
        · exact ih.mp h i less value here
        · rw [entry] at here; cases here
      | some pair =>
        obtain ⟨other, w⟩ := pair
        rw [entry] at h
        by_cases same : other = name
        · simp [same] at h
        · simp only [same, if_false] at h
          rcases Nat.lt_or_eq_of_le (Nat.le_of_lt_succ hi) with less | rfl
          · exact ih.mp h i less value here
          · rw [entry] at here; cases here; exact same rfl
    · intro h
      have earlier := ih.mpr fun i hi => h i (by omega)
      cases entry : σ.bindingAt? id n with
      | none => exact earlier
      | some pair =>
        obtain ⟨other, w⟩ := pair
        have different : other ≠ name := fun same => h n (Nat.lt_succ_self n) w (same ▸ entry)
        simp [different, earlier]

theorem scan_congr {σ σ' : Store α} {name : String} {id id' n : Nat}
    (same : ∀ i < n, σ'.bindingAt? id' i = σ.bindingAt? id i) :
    σ'.scan name id' n = σ.scan name id n := by
  induction n with
  | zero => rfl
  | succ n ih => rw [scan, scan, same n (by omega), ih fun i hi => same i (by omega)]

/-- A scan meets the bindings of the level first and goes on in its trunk. -/
theorem scan_own {σ : Store α} {id : Nat} {l : Level α} (h : σ.levels[id]? = some l)
    (name : String) (n : Nat) :
    σ.scan name id n = (l.findOwn name (min l.bindings.size (n - l.trunkLength))).or
      (σ.scan name id (min n l.trunkLength)) := by
  induction n with
  | zero => simp [scan, Level.findOwn]
  | succ n ih =>
    rcases Nat.lt_or_ge n l.trunkLength with low | high
    · rw [show n + 1 - l.trunkLength = 0 by omega, Nat.min_zero, Nat.min_eq_left (by omega)]
      rfl
    · obtain ⟨k, rfl⟩ := Nat.exists_eq_add_of_le high
      have trunk : ∀ m, min (l.trunkLength + m) l.trunkLength = l.trunkLength := by omega
      rw [Nat.add_sub_cancel_left, trunk] at ih
      rw [Nat.add_assoc, Nat.add_sub_cancel_left, trunk, ← Nat.add_assoc, scan, bindingAt?_own h high,
        Nat.add_sub_cancel_left]
      cases hb : l.bindings[k]? with
      | none =>
        have past := Array.getElem?_eq_none_iff.mp hb
        rw [Nat.min_eq_left past] at ih
        rw [Nat.min_eq_left (Nat.le_succ_of_le past)]
        exact ih
      | some b =>
        have inside := (Array.getElem?_eq_some_iff.mp hb).1
        rw [Nat.min_eq_right (Nat.le_of_lt inside)] at ih
        rw [Nat.min_eq_right inside, Level.findOwn, hb]
        by_cases same : b.name = name
        · simp [same]
        · simpa [same] using ih

theorem findBelow_eq_scan {σ : Store α} (wf : σ.WellFormed) (name : String) (id limit : Nat) :
    σ.findBelow name id limit = σ.scan name id limit := by
  induction id using Nat.strongRecOn generalizing limit with
  | ind id ih =>
    rw [findBelow]
    cases h : σ.levels[id]? with
    | none => exact (scan_eq_none_iff.mpr fun i _ value => by simp [bindingAt?_none h]).symm
    | some l =>
      simp only [Level.latest_bind_below (wf.indexed id l h)]
      rw [scan_own h]
      cases l.findOwn name (min l.bindings.size (limit - l.trunkLength)) with
      | some found => rfl
      | none =>
        cases trunk : l.trunk with
        | none => simp [Level.trunkLength, trunk, scan]
        | some b =>
          have older := wf.older id l b h trunk
          have length : l.trunkLength = b.length := by simp [Level.trunkLength, trunk]
          simp only [older, if_true, ih b.level older, length, Option.none_or]
          exact scan_congr fun i hi => (bindingAt?_trunk wf h trunk (by omega)).symm

theorem find?_eq_scan {σ : Store α} (wf : σ.WellFormed) (name : String) (id : Nat) :
    σ.find? name id = σ.scan name id (σ.length id) := findBelow_eq_scan wf name id _

theorem lt_of_find? {σ : Store α} (wf : σ.WellFormed) {name : String} {id i : Nat} {value : α}
    (found : σ.find? name id = some (i, value)) : i < σ.length id :=
  (scan_eq_some_iff.mp (find?_eq_scan wf name id ▸ found)).1

end Store

end MarkupTemplate.Scope

import MarkupTemplate.Scope.Store
import Std.Data.HashMap.Lemmas

/-!
# The index of a level

A level finds the latest position of a name in a hash table and the earlier ones along the positions
that bindings shadow. `Level.below_eq_findOwn` shows that this walk gives what a scan of the bindings
gives, as long as the index is right, and every operation keeps it right.
-/

namespace MarkupTemplate.Scope

variable {α : Type}

/-- The place of the last of the first `n` bindings that binds a name. -/
def lastOwn (name : String) (bindings : Array (Binding α)) : Nat → Option Nat
  | 0 => none
  | n + 1 => if bindings[n]?.map (·.name) = some name then some n else lastOwn name bindings n

theorem lastOwn_congr {name : String} {bs bs' : Array (Binding α)} {n : Nat}
    (same : ∀ k < n, bs'[k]?.map (·.name) = bs[k]?.map (·.name)) :
    lastOwn name bs' n = lastOwn name bs n := by
  induction n with
  | zero => rfl
  | succ n ih =>
    rw [lastOwn, lastOwn, same n (by omega), ih fun k hk => same k (by omega)]

theorem lastOwn_lt {name : String} {bs : Array (Binding α)} {n k : Nat}
    (h : lastOwn name bs n = some k) : k < n := by
  induction n with
  | zero => cases h
  | succ n ih =>
    rw [lastOwn] at h
    split at h
    · cases h; omega
    · have := ih h; omega

theorem lastOwn_name {name : String} {bs : Array (Binding α)} {n k : Nat}
    (h : lastOwn name bs n = some k) : bs[k]?.map (·.name) = some name := by
  induction n with
  | zero => cases h
  | succ n ih =>
    rw [lastOwn] at h
    split at h
    · cases h; assumption
    · exact ih h

/-- Bindings that a name does not stand in can be left out at the end. -/
theorem lastOwn_shrink {name : String} {bs : Array (Binding α)} {n k : Nat} (hn : n ≤ k)
    (h : ∀ j, lastOwn name bs k = some j → j < n) : lastOwn name bs n = lastOwn name bs k := by
  induction k with
  | zero => rw [Nat.le_zero.mp hn]
  | succ k ih =>
    rcases Nat.lt_or_eq_of_le hn with less | rfl
    · rw [lastOwn] at h ⊢
      by_cases bound : bs[k]?.map (·.name) = some name
      · have := h k (if_pos bound)
        omega
      · rw [if_neg bound] at h ⊢
        exact ih (by omega) h
    · rfl

namespace Level

/-- The index of a level is right: it holds the last position of every name, and every binding the
last position before it that binds the same name. -/
structure Indexed (l : Level α) : Prop where
  latest : ∀ name, l.latest[name]? =
    (lastOwn name l.bindings l.bindings.size).map (l.trunkLength + ·)
  shadowed : ∀ (k : Nat) (b : Binding α), l.bindings[k]? = some b →
    b.shadowed = (lastOwn b.name l.bindings k).map (l.trunkLength + ·)

/-- The last of the first `n` bindings that binds a name, with its position. -/
def findOwn (l : Level α) (name : String) : Nat → Option (Nat × α)
  | 0 => none
  | n + 1 => match l.bindings[n]? with
    | some b => if b.name = name then some (l.trunkLength + n, b.value) else l.findOwn name n
    | none => l.findOwn name n

theorem findOwn_eq_lastOwn (l : Level α) (name : String) (n : Nat) :
    l.findOwn name n = (lastOwn name l.bindings n).bind fun k =>
      l.bindings[k]?.map fun b => (l.trunkLength + k, b.value) := by
  induction n with
  | zero => rfl
  | succ n ih =>
    rw [findOwn, lastOwn]
    cases hb : l.bindings[n]? with
    | none => simpa using ih
    | some b =>
      by_cases same : b.name = name
      · simp [same, hb]
      · simpa [same] using ih

/-! ### Operations keep the index right -/

theorem indexed_empty (trunk : Option Branch) : (empty trunk : Level α).Indexed :=
  ⟨fun name => by simp [empty, lastOwn], fun k b h => by simp [empty] at h⟩

theorem Indexed.clear (l : Level α) : l.clear.Indexed := indexed_empty l.trunk

theorem Indexed.push {l : Level α} (h : l.Indexed) (name : String) (value : α) :
    (l.push name value).Indexed := by
  have old : ∀ k < l.bindings.size, (l.push name value).bindings[k]? = l.bindings[k]? :=
    fun k hk => by simp [Level.push, Array.getElem?_push, Nat.ne_of_lt hk]
  have kept : ∀ (other : String) (n : Nat), n ≤ l.bindings.size →
      lastOwn other (l.push name value).bindings n = lastOwn other l.bindings n :=
    fun other n hn => lastOwn_congr fun k hk => by rw [old k (by omega)]
  refine ⟨fun other => ?_, fun k b hb => ?_⟩
  · have size : (l.push name value).bindings.size = l.bindings.size + 1 := by simp [Level.push]
    rw [size, lastOwn, kept other _ (Nat.le_refl _)]
    by_cases same : name = other
    · simp [Level.push, same, Level.length, Level.trunkLength]
    · simp [Level.push, same, Std.HashMap.getElem?_insert, h.latest, Level.trunkLength]
  · by_cases last : k = l.bindings.size
    · subst last
      simp only [Level.push, Array.getElem?_push_size, Option.some.injEq] at hb
      subst hb
      rw [kept name _ (Nat.le_refl _)]
      exact h.latest name
    · have hk : k < l.bindings.size := by
        have := (Array.getElem?_eq_some_iff.mp hb).1
        simp only [Level.push, Array.size_push] at this
        omega
      rw [old k hk] at hb
      rw [kept _ _ (Nat.le_of_lt hk)]
      exact h.shadowed k b hb

theorem pop?_eq_some {l l' : Level α} {binding : String × α} (h : l.pop? = some (binding, l')) :
    ∃ b, l.bindings.back? = some b ∧ binding = (b.name, b.value) ∧ l'.trunk = l.trunk ∧
      l'.bindings = l.bindings.pop ∧ l'.latest = match b.shadowed with
        | some i => l.latest.insert b.name i
        | none => l.latest.erase b.name := by
  simp only [pop?, Option.map_eq_some_iff, Prod.mk.injEq] at h
  obtain ⟨b, hb, rfl, rfl⟩ := h
  exact ⟨b, hb, rfl, rfl, rfl, rfl⟩

theorem Indexed.pop {l l' : Level α} {binding : String × α} (h : l.Indexed)
    (popped : l.pop? = some (binding, l')) : l'.Indexed := by
  obtain ⟨b, hb, -, trunk, bindings, latest⟩ := pop?_eq_some popped
  have length : l'.trunkLength = l.trunkLength := by simp [Level.trunkLength, trunk]
  rw [Array.back?_eq_getElem?] at hb
  have some_last := (Array.getElem?_eq_some_iff.mp hb).1
  obtain ⟨n, size⟩ : ∃ n, l.bindings.size = n + 1 := ⟨l.bindings.size - 1, by omega⟩
  rw [size, Nat.add_sub_cancel] at hb
  have old : ∀ k < n, l'.bindings[k]? = l.bindings[k]? := fun k hk => by
    rw [bindings, Array.getElem?_pop, if_pos (by omega)]
  have kept : ∀ (other : String) (m : Nat), m ≤ n →
      lastOwn other l'.bindings m = lastOwn other l.bindings m :=
    fun other m hm => lastOwn_congr fun k hk => by rw [old k (by omega)]
  have size' : l'.bindings.size = n := by simp [bindings, size]
  refine ⟨fun other => ?_, fun k c hc => ?_⟩
  · have before := h.latest other
    rw [size, lastOwn, hb] at before
    rw [size', kept other n (Nat.le_refl n), latest, length]
    have shadowed := h.shadowed n b hb
    by_cases same : b.name = other
    · subst same
      cases hs : b.shadowed with
      | some i => simp [← shadowed, hs]
      | none => simp [← shadowed, hs]
    · simp only [Option.map_some, Option.some.injEq, same, if_false] at before
      rw [← before]
      cases b.shadowed with
      | some i => simp [Std.HashMap.getElem?_insert, same]
      | none => simp [Std.HashMap.getElem?_erase, same]
  · have hk : k < n := size' ▸ (Array.getElem?_eq_some_iff.mp hc).1
    rw [old k hk] at hc
    rw [kept _ _ (Nat.le_of_lt hk), length]
    exact h.shadowed k c hc

theorem Indexed.popMany {l : Level α} (h : l.Indexed) (n : Nat) : (l.popMany n).Indexed := by
  induction n generalizing l with
  | zero => exact h
  | succ n ih =>
    unfold Level.popMany
    split
    · next popped => exact ih (h.pop popped)
    · exact h

theorem bindings_set (l : Level α) (index : Nat) (value : α) (k : Nat) :
    (l.set index value).bindings[k]? =
      if index - l.trunkLength = k then l.bindings[k]?.map ({ · with value := value })
      else l.bindings[k]? := by
  simp [set, Array.getElem?_modify]

theorem Indexed.set {l : Level α} (h : l.Indexed) (index : Nat) (value : α) :
    (l.set index value).Indexed := by
  have kept : ∀ (other : String) (n : Nat),
      lastOwn other (l.set index value).bindings n = lastOwn other l.bindings n :=
    fun other n => lastOwn_congr fun k _ => by
      rw [bindings_set]
      split
      · cases l.bindings[k]? <;> rfl
      · rfl
  have trunk : (l.set index value).trunkLength = l.trunkLength := rfl
  refine ⟨fun other => ?_, fun k c hc => ?_⟩
  · have size : (l.set index value).bindings.size = l.bindings.size := by simp [Level.set]
    rw [size, kept, trunk]
    exact h.latest other
  · rw [kept, trunk]
    rw [bindings_set] at hc
    split at hc
    · obtain ⟨b, hb, rfl⟩ := Option.map_eq_some_iff.mp hc
      exact h.shadowed k b hb
    · exact h.shadowed k c hc

/-! ### The walk along the index is a scan -/

theorem findOwn_none {l : Level α} {name : String} {n m : Nat}
    (absent : lastOwn name l.bindings n = none) (hm : m ≤ n) : l.findOwn name m = none := by
  have nothing : lastOwn name l.bindings m = none := by
    rw [lastOwn_shrink hm (by simp [absent]), absent]
  rw [findOwn_eq_lastOwn, nothing, Option.bind_none]

theorem findOwn_min {l : Level α} {name : String} {n m k : Nat}
    (found : lastOwn name l.bindings n = some k) (hm : m ≤ n) :
    l.findOwn name (min (k + 1) m) = l.findOwn name m := by
  rcases Nat.le_total (k + 1) m with short | long
  · have inside := lastOwn_lt found
    have upTo : ∀ i, k + 1 ≤ i → i ≤ n → lastOwn name l.bindings i = some k := fun i hk hi => by
      rw [lastOwn_shrink hi (by simp only [found, Option.some.injEq]; omega), found]
    rw [Nat.min_eq_left short, findOwn_eq_lastOwn, findOwn_eq_lastOwn,
      upTo (k + 1) (Nat.le_refl _) (by omega), upTo m short hm]
  · rw [Nat.min_eq_right long]

theorem below_eq_findOwn {l : Level α} (h : l.Indexed) (limit k : Nat) (b : Binding α)
    (hb : l.bindings[k]? = some b) :
    l.below limit (l.trunkLength + k) = l.findOwn b.name (min (k + 1) (limit - l.trunkLength)) := by
  induction k using Nat.strongRecOn generalizing b with
  | ind k ih =>
    rw [below, Nat.add_sub_cancel_left, hb]
    by_cases inside : l.trunkLength + k < limit
    · rw [Nat.min_eq_left (by omega), findOwn, hb]
      simp [inside]
    · rw [Nat.min_eq_right (by omega)]
      simp only [inside, if_false, h.shadowed k b hb]
      cases found : lastOwn b.name l.bindings k with
      | none => exact (findOwn_none found (by omega)).symm
      | some j =>
        have before := lastOwn_lt found
        obtain ⟨c, hc, name⟩ := Option.map_eq_some_iff.mp (lastOwn_name found)
        have walk := ih j before c hc
        rw [name, findOwn_min found (by omega)] at walk
        simp only [Option.map_some, if_pos (Nat.add_lt_add_left before l.trunkLength)]
        exact walk

theorem latest_bind_below {l : Level α} (h : l.Indexed) (name : String) (limit : Nat) :
    l.latest[name]?.bind (l.below limit) =
      l.findOwn name (min l.bindings.size (limit - l.trunkLength)) := by
  rw [h.latest]
  cases found : lastOwn name l.bindings l.bindings.size with
  | none => exact (findOwn_none found (Nat.min_le_left _ _)).symm
  | some k =>
    have inside := lastOwn_lt found
    obtain ⟨b, hb, rfl⟩ := Option.map_eq_some_iff.mp (lastOwn_name found)
    rw [← findOwn_min found (Nat.min_le_left _ _), ← Nat.min_assoc,
      Nat.min_eq_left (show k + 1 ≤ l.bindings.size from inside)]
    exact below_eq_findOwn h limit k b hb

end Level

end MarkupTemplate.Scope

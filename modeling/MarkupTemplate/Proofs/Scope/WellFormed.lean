import MarkupTemplate.Proofs.Scope.Position
import MarkupTemplate.Scope.Stack

/-!
# Well-formed stores

Every operation on a stack keeps the indexes of its store right and trunks below the levels on top
of them.
-/

namespace MarkupTemplate.Scope

variable {α : Type}

namespace Store

theorem levels_modify (σ : Store α) (id k : Nat) (f : Level α → Level α) :
    (σ.modify id f).levels[k]? = if id = k then σ.levels[k]?.map f else σ.levels[k]? := by
  simp [modify, Array.getElem?_modify]

theorem levels_add (σ : Store α) (l : Level α) (k : Nat) :
    (σ.add l).1.levels[k]? = if k = σ.levels.size then some l else σ.levels[k]? := by
  simp [add, Array.getElem?_push]

@[simp] theorem size_modify (σ : Store α) (id : Nat) (f : Level α → Level α) :
    (σ.modify id f).levels.size = σ.levels.size := by simp [modify]

@[simp] theorem size_add (σ : Store α) (l : Level α) :
    (σ.add l).1.levels.size = σ.levels.size + 1 := by simp [add]

theorem wellFormed_empty : (empty : Store α).WellFormed :=
  ⟨fun id l h => by simp [empty] at h, fun id l b h => by simp [empty] at h⟩

theorem WellFormed.add {σ : Store α} (wf : σ.WellFormed) {l : Level α} (indexed : l.Indexed)
    (older : ∀ b, l.trunk = some b → b.level < σ.levels.size) : (σ.add l).1.WellFormed := by
  refine ⟨fun id l' h => ?_, fun id l' b h trunk => ?_⟩
  · rw [levels_add] at h
    split at h
    · cases h; exact indexed
    · exact wf.indexed id l' h
  · rw [levels_add] at h
    split at h
    · next new => cases h; exact new ▸ older b trunk
    · exact wf.older id l' b h trunk

/-- Changing one level keeps the store well-formed if the index stays right and the trunk the same. -/
theorem WellFormed.modify {σ : Store α} (wf : σ.WellFormed) (id : Nat) {f : Level α → Level α}
    (kept : ∀ l, σ.levels[id]? = some l → (f l).Indexed ∧ (f l).trunk = l.trunk) :
    (σ.modify id f).WellFormed := by
  refine ⟨fun k l h => ?_, fun k l b h trunk => ?_⟩
  · rw [levels_modify] at h
    split at h
    · next same =>
      subst same
      obtain ⟨l', h', rfl⟩ := Option.map_eq_some_iff.mp h
      exact (kept l' h').1
    · exact wf.indexed k l h
  · rw [levels_modify] at h
    split at h
    · next same =>
      subst same
      obtain ⟨l', h', rfl⟩ := Option.map_eq_some_iff.mp h
      exact wf.older id l' b h' ((kept l' h').2 ▸ trunk)
    · exact wf.older k l b h trunk

theorem WellFormed.newStack {σ : Store α} (wf : σ.WellFormed) : σ.newStack.1.WellFormed :=
  wf.add (Level.indexed_empty none) (fun b h => by cases h)

theorem WellFormed.stackOn {σ : Store α} (wf : σ.WellFormed) {b : Branch}
    (older : b.level < σ.levels.size) (indent : String) : (σ.stackOn b indent).1.WellFormed :=
  wf.add (Level.indexed_empty (some b)) (fun b' h => by cases h; exact older)

end Store

namespace Level

theorem trunk_popMany (n : Nat) (l : Level α) : (l.popMany n).trunk = l.trunk := by
  induction n generalizing l with
  | zero => rfl
  | succ n ih =>
    unfold popMany
    split
    · next popped =>
      obtain ⟨_, _, _, trunk, _⟩ := pop?_eq_some popped
      rw [ih, trunk]
    · rfl

theorem bindings_popMany (n : Nat) (l : Level α) (k : Nat) :
    (l.popMany n).bindings[k]? = if k < l.bindings.size - n then l.bindings[k]? else none := by
  induction n generalizing l with
  | zero =>
    simp only [popMany, Nat.sub_zero]
    split
    · rfl
    · rw [Array.getElem?_eq_none (by omega)]
  | succ n ih =>
    unfold popMany
    split
    · next l' popped =>
      obtain ⟨b, last, _, _, bindings, _⟩ := pop?_eq_some popped
      rw [ih, bindings, Array.size_pop, Array.getElem?_pop]
      by_cases inside : k < l.bindings.size - (n + 1)
      · rw [if_pos (by omega), if_pos (by omega), if_pos inside]
      · rw [if_neg (by omega), if_neg inside]
    · next none =>
      simp only [pop?, Option.map_eq_none_iff, Array.back?_eq_none_iff] at none
      simp [none]

theorem size_popMany (n : Nat) (l : Level α) :
    (l.popMany n).bindings.size = l.bindings.size - n := by
  induction n generalizing l with
  | zero => rfl
  | succ n ih =>
    unfold popMany
    split
    · next popped =>
      obtain ⟨_, _, _, _, bindings, _⟩ := pop?_eq_some popped
      rw [ih, bindings, Array.size_pop]
      omega
    · next none =>
      simp only [pop?, Option.map_eq_none_iff, Array.back?_eq_none_iff] at none
      simp [none]

end Level

namespace Stack

variable {σ σ' : Store α} {s s' : Stack}

theorem wellFormed_push (wf : σ.WellFormed) (name : String) (value : α) :
    (s.push name value σ).WellFormed :=
  wf.modify s.level fun l h => ⟨(wf.indexed _ l h).push name value, rfl⟩

theorem wellFormed_pop (wf : σ.WellFormed) {binding : String × α}
    (h : s.pop σ = .ok (binding, σ')) : σ'.WellFormed := by
  unfold pop at h
  split at h
  · next l' popped =>
    cases h
    obtain ⟨l, hl, popped⟩ := Option.bind_eq_some_iff.mp popped
    obtain ⟨_, _, _, trunk, _⟩ := Level.pop?_eq_some popped
    refine wf.modify s.level fun l₀ h₀ => ?_
    rw [hl] at h₀
    cases h₀
    exact ⟨(wf.indexed _ l hl).pop popped, trunk⟩
  · cases h

theorem wellFormed_set (wf : σ.WellFormed) {index : Nat} {value : α}
    (h : s.set index value σ = .ok σ') : σ'.WellFormed := by
  unfold set at h
  split at h
  · cases h
  · split at h
    · cases h
      exact wf.modify s.level fun l hl => ⟨(wf.indexed _ l hl).set index value, rfl⟩
    · cases h

theorem wellFormed_reset (wf : σ.WellFormed) {c : Checkpoint} (h : s.reset c σ = .ok (σ', s')) :
    σ'.WellFormed ∧ s'.level = s.level := by
  unfold reset at h
  split at h
  · cases h
  · split at h
    · cases h
    · split at h
      · cases h
      · cases h
        exact ⟨wf.modify s.level fun l hl =>
          ⟨(wf.indexed _ l hl).popMany _, l.trunk_popMany _⟩, rfl⟩

theorem wellFormed_drop (wf : σ.WellFormed) : (s.drop σ).WellFormed :=
  wf.modify s.level fun l _ => ⟨.clear l, rfl⟩

end Stack

end MarkupTemplate.Scope

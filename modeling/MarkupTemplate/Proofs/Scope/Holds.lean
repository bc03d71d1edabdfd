import MarkupTemplate.Scope.Stack

/-!
# What a store holds

A property that all values of a store have is kept by everything that is done to its levels, as long as
what is bound has it; and a value that is found has it.
-/

namespace MarkupTemplate

variable {α : Type}

theorem forall_mem_modify {p : α → Prop} {xs : Array α} {i : Nat} {f : α → α}
    (h : ∀ x ∈ xs, p x) (keeps : ∀ x, p x → p (f x)) : ∀ x ∈ xs.modify i f, p x := by
  intro x member
  obtain ⟨j, found⟩ := Array.mem_iff_getElem?.mp member
  rw [Array.getElem?_modify] at found
  split at found
  · obtain ⟨y, there, rfl⟩ := Option.map_eq_some_iff.mp found
    exact keeps y (h y (Array.mem_of_getElem? there))
  · exact h x (Array.mem_of_getElem? found)

namespace Scope

variable {Q : α → Prop} {l : Level α} {σ : Store α}

/-- Every value of a level has a property. -/
def Level.Holds (Q : α → Prop) (l : Level α) : Prop := ∀ b ∈ l.bindings, Q b.value

namespace Level.Holds

theorem empty (trunk : Option Branch) : Level.Holds Q (.empty trunk) := by
  simp [Level.Holds, Level.empty]

theorem push (h : l.Holds Q) (name : String) {v : α} (holds : Q v) : (l.push name v).Holds Q := by
  intro b member
  rcases Array.mem_push.mp member with old | rfl
  · exact h b old
  · exact holds

theorem set (h : l.Holds Q) (index : Nat) {v : α} (holds : Q v) : (l.set index v).Holds Q :=
  forall_mem_modify (p := fun b : Binding α => Q b.value) (f := ({ · with value := v })) h
    fun _ _ => holds

theorem popMany (h : l.Holds Q) (n : Nat) : (l.popMany n).Holds Q := by
  induction n generalizing l with
  | zero => exact h
  | succ n ih =>
    unfold Level.popMany
    split
    · next popped =>
      refine ih ?_
      obtain ⟨b, -, same⟩ := Option.map_eq_some_iff.mp popped
      obtain ⟨-, rfl⟩ := Prod.mk.inj same
      intro b member
      obtain ⟨i, found⟩ := Array.mem_iff_getElem?.mp member
      rw [Array.getElem?_pop] at found
      split at found
      · exact h b (Array.mem_of_getElem? found)
      · cases found
    · exact h

theorem below (h : l.Holds Q) {limit i j : Nat} {v : α} (found : l.below limit i = some (j, v)) :
    Q v := by
  fun_induction l.below limit i with
  | case1 => cases found
  | case2 i b there =>
    obtain ⟨-, rfl⟩ := Prod.mk.inj (Option.some.inj found)
    exact h b (Array.mem_of_getElem? there)
  | case3 => cases found
  | case4 _ _ _ _ _ _ _ ih => exact ih found
  | case5 => cases found

end Level.Holds

/-- Every value of a store has a property. -/
def Store.Holds (Q : α → Prop) (σ : Store α) : Prop := ∀ l ∈ σ.levels, l.Holds Q

namespace Store.Holds

theorem empty : Store.Holds Q (.empty : Store α) := by
  simp [Store.Holds, Store.empty]

theorem add (h : σ.Holds Q) (holds : l.Holds Q) : (σ.add l).1.Holds Q := by
  intro l' member
  rcases Array.mem_push.mp member with old | rfl
  · exact h l' old
  · exact holds

theorem modify (h : σ.Holds Q) {id : Nat} {f : Level α → Level α}
    (keeps : ∀ l : Level α, l.Holds Q → (f l).Holds Q) : (σ.modify id f).Holds Q :=
  forall_mem_modify h keeps

theorem findBelow (h : σ.Holds Q) {name : String} {id limit i : Nat} {v : α}
    (found : σ.findBelow name id limit = some (i, v)) : Q v := by
  fun_induction σ.findBelow name id limit with
  | case1 => cases found
  | case2 id limit l there entry latest =>
    obtain rfl := Option.some.inj found
    obtain ⟨j, -, below⟩ := Option.bind_eq_some_iff.mp latest
    exact Level.Holds.below (h l (Array.mem_of_getElem? there)) below
  | case3 => cases found
  | case4 _ _ _ _ _ _ _ _ ih => exact ih found
  | case5 => cases found

end Store.Holds

end Scope

end MarkupTemplate

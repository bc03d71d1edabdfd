import MarkupTemplate.Proofs.Result
import MarkupTemplate.Scope.Stack

/-!
# Replacing the values of a store

Operations on stacks look at names and positions only: replacing every value of a store by a function
of it commutes with all of them.
-/

namespace MarkupTemplate.Scope

variable {α β : Type} (f : α → β)

def Binding.map (b : Binding α) : Binding β := ⟨b.name, f b.value, b.shadowed⟩

namespace Level

def map (l : Level α) : Level β := ⟨l.trunk, l.bindings.map (Binding.map f), l.latest⟩

@[simp] theorem trunkLength_map (l : Level α) : (l.map f).trunkLength = l.trunkLength := rfl

@[simp] theorem length_map (l : Level α) : (l.map f).length = l.length := by
  simp [length, map, trunkLength]

theorem push_map (name : String) (v : α) (l : Level α) :
    (l.push name v).map f = (l.map f).push name (f v) := by
  simp [push, map, Binding.map, length, trunkLength]

theorem pop?_map (l : Level α) :
    (l.map f).pop? = l.pop?.map (Prod.map (Prod.map id f) (map f)) := by
  simp only [pop?, map, Array.back?_map, Option.map_map]
  congr 1
  funext b
  cases b with
  | mk name value shadowed => cases shadowed <;> simp [Binding.map, map]

theorem popMany_map (n : Nat) (l : Level α) : (l.popMany n).map f = (l.map f).popMany n := by
  induction n generalizing l with
  | zero => rfl
  | succ n ih =>
    simp only [popMany, pop?_map]
    cases l.pop? with
    | none => rfl
    | some popped => exact ih popped.2

theorem set_map (index : Nat) (v : α) (l : Level α) :
    (l.set index v).map f = (l.map f).set index (f v) := by
  simp only [set, map, trunkLength]
  congr 1
  apply Array.ext
  · simp
  · intro i _ _
    simp only [Array.getElem_map, Array.getElem_modify]
    split <;> rfl

theorem below_map (l : Level α) (limit i : Nat) :
    (l.map f).below limit i = (l.below limit i).map (Prod.map id f) := by
  induction i using Nat.strongRecOn with
  | ind i ih =>
    rw [below, below]
    simp only [map, trunkLength, Array.getElem?_map]
    cases l.bindings[i - (l.trunk.map (·.length)).getD 0]? with
    | none => rfl
    | some b =>
      simp only [Option.map_some, Binding.map]
      by_cases inside : i < limit
      · simp [inside]
      · simp only [inside, if_false]
        cases b.shadowed with
        | none => rfl
        | some j =>
          by_cases older : j < i
          · simp only [older, if_true]
            exact ih j older
          · simp [older]

end Level

namespace Store

def map (σ : Store α) : Store β := ⟨σ.levels.map (Level.map f)⟩

theorem levels_map (σ : Store α) (id : Nat) :
    (σ.map f).levels[id]? = σ.levels[id]?.map (Level.map f) := by
  simp [map]

theorem add_map (l : Level α) (σ : Store α) :
    (σ.map f).add (l.map f) = Prod.map (map f) id (σ.add l) := by
  simp [add, map]

theorem modify_map (id : Nat) {g : Level α → Level α} {g' : Level β → Level β}
    (h : ∀ l, (g l).map f = g' (l.map f)) (σ : Store α) :
    (σ.modify id g).map f = (σ.map f).modify id g' := by
  simp only [modify, map]
  congr 1
  apply Array.ext
  · simp
  · intro i _ _
    simp only [Array.getElem_map, Array.getElem_modify]
    split <;> simp [h]

@[simp] theorem length_map (σ : Store α) (id : Nat) : (σ.map f).length id = σ.length id := by
  simp only [length, levels_map]
  cases σ.levels[id]? <;> simp

@[simp] theorem trunkLength_map (σ : Store α) (id : Nat) :
    (σ.map f).trunkLength id = σ.trunkLength id := by
  simp only [trunkLength, levels_map]
  cases σ.levels[id]? <;> simp

theorem findBelow_map (σ : Store α) (name : String) (k limit : Nat) :
    (σ.map f).findBelow name k limit = (σ.findBelow name k limit).map (Prod.map id f) := by
  induction k using Nat.strongRecOn generalizing limit with
  | ind k ih =>
    rw [findBelow, findBelow, levels_map]
    cases σ.levels[k]? with
    | none => rfl
    | some l =>
      have own : (l.map f).latest[name]?.bind ((l.map f).below limit) =
          (l.latest[name]?.bind (l.below limit)).map (Prod.map id f) := by
        simp only [show (l.map f).latest = l.latest from rfl]
        cases l.latest[name]? with
        | none => rfl
        | some i => exact l.below_map f limit i
      simp only [Option.map_some, own]
      cases l.latest[name]?.bind (l.below limit) with
      | some found => rfl
      | none =>
        simp only [Option.map_none, show (l.map f).trunk = l.trunk from rfl]
        cases l.trunk with
        | none => rfl
        | some b =>
          by_cases older : b.level < k
          · simp only [older, if_true]
            exact ih b.level older _
          · simp [older]

end Store

namespace Stack

variable (s : Stack) (σ : Store α)

@[simp] theorem length_map : s.length (σ.map f) = s.length σ := σ.length_map f s.level

@[simp] theorem trunkLength_map : s.trunkLength (σ.map f) = s.trunkLength σ :=
  σ.trunkLength_map f s.level

theorem checkpoint_map : s.checkpoint (σ.map f) = s.checkpoint σ := by simp [checkpoint]

theorem find?_map (name : String) :
    s.find? (σ.map f) name = (s.find? σ name).map (Prod.map id f) := by
  simp only [find?, Store.find?, Store.length_map, Store.findBelow_map]

theorem push_map (name : String) (v : α) :
    (s.push name v σ).map f = s.push name (f v) (σ.map f) :=
  Store.modify_map f s.level (Level.push_map f name v) σ

theorem set_map (index : Nat) (v : α) :
    s.set index (f v) (σ.map f) = Store.map f <$> s.set index v σ := by
  simp only [set, trunkLength_map, length_map]
  split
  · rfl
  · split
    · exact congrArg Except.ok (Store.modify_map f s.level (Level.set_map f index v) σ).symm
    · rfl

theorem reset_map (c : Checkpoint) :
    s.reset c (σ.map f) = Prod.map (Store.map f) id <$> s.reset c σ := by
  simp only [reset, trunkLength_map, length_map]
  split
  · rfl
  · split
    · rfl
    · split
      · rfl
      · exact congrArg (fun τ => Except.ok (τ, _))
          (Store.modify_map f s.level (Level.popMany_map f _) σ).symm

theorem drop_map : (s.drop σ).map f = s.drop (σ.map f) :=
  Store.modify_map f s.level (fun l => by simp [Level.clear, Level.empty, Level.map]) σ

theorem stackOn_map (b : Branch) (indent : String) :
    (σ.map f).stackOn b indent = Prod.map (Store.map f) id (σ.stackOn b indent) := by
  have empty : (Level.empty (some b) : Level α).map f = .empty (some b) := by
    simp [Level.empty, Level.map]
  have added := Store.add_map f (.empty (some b)) σ
  rw [empty] at added
  simp only [Store.stackOn, added]
  rfl

end Stack

end MarkupTemplate.Scope

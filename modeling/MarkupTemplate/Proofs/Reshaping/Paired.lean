import MarkupTemplate.Proofs.Reshaping.Sides
import MarkupTemplate.Proofs.Scoping.View
import MarkupTemplate.Proofs.Worlds.Blocks

/-!
# States on both sides of a change

The bindings of a script and of the changed one are one list, in which the side after the change skips
some positions. A symbol whose last binding is not skipped stands for the same on both sides: the
places differ, but not their order.
-/

namespace MarkupTemplate

open Resolve (defaultExprs)

/-- A closure on both sides of a change. -/
structure Pair where
  capture : Side → Capture
  named : ∀ w, (capture w).definition.name = (capture .before).definition.name

instance : Defined Pair :=
  ⟨fun c => (c.capture .before).definition, fun c => (c.capture .before).bindings.length⟩

/-- The value of a binding on both sides, or of one that only the side before makes. -/
inductive Slot where
  | shared (v : Value Pair)
  | hidden (v : Value Capture)

namespace Slot

def value? : Side → Slot → Option (Value Capture)
  | w, .shared v => some (v.mapClosures (Pair.capture · w))
  | .before, .hidden v => some v
  | .after, .hidden _ => none

def shared? : Slot → Option (Value Pair)
  | .shared v => some v
  | .hidden _ => none

end Slot

/-- The bindings of one side. -/
def bindingsOf (w : Side) (slots : List (String × Slot)) : List (String × Value Capture) :=
  slots.filterMap fun (name, slot) => (slot.value? w).map (name, ·)

/-- How many bindings of one side come before a position. -/
def rank (w : Side) (slots : List (String × Slot)) (i : Nat) : Nat :=
  (bindingsOf w (slots.take i)).length

section Slots

variable {w : Side} {slots : List (String × Slot)}

@[simp] theorem bindingsOf_append (slots slots' : List (String × Slot)) :
    bindingsOf w (slots ++ slots') = bindingsOf w slots ++ bindingsOf w slots' :=
  List.filterMap_append

theorem bindingsOf_nil : bindingsOf w [] = [] := rfl

theorem bindingsOf_cons (name : String) (slot : Slot) (slots : List (String × Slot)) :
    bindingsOf w ((name, slot) :: slots) =
      ((slot.value? w).map (name, ·)).toList ++ bindingsOf w slots := by
  simp only [bindingsOf, List.filterMap_cons]
  cases slot.value? w <;> rfl

theorem rank_succ (name : String) (slot : Slot) (i : Nat) :
    rank w ((name, slot) :: slots) (i + 1) = (slot.value? w).toList.length + rank w slots i := by
  rw [rank, List.take_succ_cons, bindingsOf_cons, List.length_append]
  cases slot.value? w <;> rfl

theorem rank_mono {i j : Nat} (h : i ≤ j) : rank w slots i ≤ rank w slots j :=
  ((List.take_prefix_take_left h).sublist.filterMap _).length_le

theorem rank_lt {name : String} {v : Value Pair} {i j : Nat}
    (there : slots[i]? = some (name, .shared v)) (h : i < j) : rank w slots i < rank w slots j := by
  have next : rank w slots (i + 1) = rank w slots i + 1 := by
    rw [rank, List.take_add_one, there, bindingsOf_append, List.length_append]
    rfl
  have later : rank w slots (i + 1) ≤ rank w slots j := rank_mono h
  omega

/-- What symbols stand for on both sides, unless that is hidden. -/
def sharedBinding? (symbol : String) (slots : List (String × Slot)) : Option (Nat × Value Pair) :=
  (lastBinding? symbol slots).bind fun (i, slot) => slot.shared?.map (i, ·)

theorem lastBinding?_bindingsOf (w : Side) {symbol : String}
    (shown : ∀ i v, lastBinding? symbol slots ≠ some (i, .hidden v)) :
    lastBinding? symbol (bindingsOf w slots) = (sharedBinding? symbol slots).map
      (Prod.map (rank w slots) (Value.mapClosures (Pair.capture · w))) := by
  induction slots with
  | nil => rfl
  | cons entry rest ih =>
    obtain ⟨other, slot⟩ := entry
    rw [lastBinding?] at shown
    rw [sharedBinding?, lastBinding?, bindingsOf_cons]
    cases last : lastBinding? symbol rest with
    | some found =>
      obtain ⟨i, there⟩ := found
      simp only [last] at shown ⊢
      cases there with
      | hidden v => exact absurd rfl (shown (i + 1) v)
      | shared v =>
        have ih := ih (by simp [last])
        simp only [sharedBinding?, last, Option.bind_some, Slot.shared?, Option.map_some, Prod.map,
          rank_succ] at ih ⊢
        cases slot.value? w <;> simp [lastBinding?, ih, Nat.add_comm]
    | none =>
      simp only [last] at shown ⊢
      have none : lastBinding? symbol (bindingsOf w rest) = .none := by
        simpa [sharedBinding?, last] using ih (by simp [last])
      by_cases same : other = symbol
      · simp only [same, if_true] at shown ⊢
        cases slot with
        | hidden v => exact absurd rfl (shown 0 v)
        | shared v => simp [Slot.value?, Slot.shared?, lastBinding?, none, rank, bindingsOf_nil]
      · cases slot.value? w <;> simp [lastBinding?, none, same]

theorem mem_of_sharedBinding? {symbol : String} {i : Nat} {v : Value Pair}
    (found : sharedBinding? symbol slots = some (i, v)) :
    slots[i]? = some (symbol, .shared v) := by
  obtain ⟨⟨j, slot⟩, last, here⟩ := Option.bind_eq_some_iff.mp found
  cases slot with
  | hidden u => cases here
  | shared u =>
    cases here
    exact mem_of_lastBinding? last

/-- All symbols whose last binding only the side before makes are hidden. -/
def Hides (hidden : List String) (slots : List (String × Slot)) : Prop :=
  ∀ symbol i v, lastBinding? symbol slots = some (i, .hidden v) → symbol ∈ hidden

end Slots

/-- A closure whose defaults look at nothing hidden, whose bodies make the same on both sides, and that
captured only such closures. -/
inductive Pair.Alike [Host] (m : Modules) (exempt : Side → Stop → Prop) : Pair → Prop
  | mk {signature : Signature} {readDepth : Side → Option Nat} {body : Side → List Block}
      {depth : Side → Nat} {slots : List (String × Slot)} {hidden : List String} :
    (∀ name v, (name, Slot.shared v) ∈ slots → ∀ c ∈ v.closures, Pair.Alike m exempt c) →
    Hides hidden slots →
    Reference.AllAvoid hidden (Expr.allReferences (defaultExprs signature.params)) →
    Reshapes m exempt (remaining hidden signature.bound) body →
    Pair.Alike m exempt ⟨fun w =>
      .mk ⟨{ signature with readDepth := readDepth w }, body w, depth w⟩ (bindingsOf w slots),
      fun _ => rfl⟩

namespace Translate

/-- A lexical state on both sides. -/
structure PairedState where
  slots : List (String × Slot)
  indent : String

namespace PairedState

variable {m : Modules} {exempt : Side → Stop → Prop} {hidden hidden' : List String}
  {s s' : PairedState}

def state (w : Side) (s : PairedState) : Lexical := ⟨bindingsOf w s.slots, s.indent⟩

def push (name : String) (v : Value Pair) (s : PairedState) : PairedState :=
  { s with slots := s.slots ++ [(name, .shared v)] }

theorem state_push (w : Side) (name : String) (v : Value Pair) (s : PairedState) :
    Scoping.push name (v.mapClosures (Pair.capture · w)) (s.state w) = (s.push name v).state w := by
  simp [Scoping.push, state, push, Slot.value?, bindingsOf]

/-- The states of each side. The host program must not see that the captures of both sides differ. -/
def reading [Host] [Host.Nominal] : Reading Side PairedState Pair where
  capture w c := c.capture w
  unseen w := Host.unseen_of_name fun c => c.named w
  state := state
  push := push
  indent s := s.indent
  atIndent indent s := { s with indent }
  name_capture w c := c.named w
  push_state := state_push
  indent_state _ _ := rfl
  state_atIndent _ _ _ := rfl
  atIndent_indent _ := rfl

theorem reading_formats [Host] [Host.Nominal] {formatter : Formatter} (nominal : formatter.Nominal) :
    reading.Formats formatter := by
  intro w v
  have named (c : Pair) : (Shows.shown (c.capture w)).name = (Shows.shown c).name := c.named w
  rw [← nominal, ← nominal v.shown]
  exact congrArg formatter (Value.nameOnly_shown named v)

/-- A state that hides no more than some symbols, and whose closures are alike. -/
structure Fits [Host] (m : Modules) (exempt : Side → Stop → Prop) (hidden : List String)
    (s : PairedState) : Prop where
  alike : ∀ name v, (name, Slot.shared v) ∈ s.slots → v.Holds (Pair.Alike m exempt)
  hides : Hides hidden s.slots
  newline : s.indent.toList.head? = some '\n'

namespace Fits

variable [Host]

theorem push (h : s.Fits m exempt hidden) (name : String) {v : Value Pair}
    (alike : v.Holds (Pair.Alike m exempt)) :
    (s.push name v).Fits m exempt (remaining hidden [name]) := by
  refine ⟨fun other u member => ?_, fun symbol i u last => ?_, h.newline⟩
  · rcases List.mem_append.mp member with earlier | last
    · exact h.alike other u earlier
    · cases List.mem_singleton.mp last
      exact alike
  · rw [PairedState.push, lastBinding?_append] at last
    split at last
    · cases last
    · next other =>
      refine mem_remaining.mpr ⟨h.hides symbol i u last, fun same => other ?_⟩
      exact (List.mem_singleton.mp same).symm

theorem mono (h : s.Fits m exempt hidden) (more : hidden ⊆ hidden') : s.Fits m exempt hidden' :=
  ⟨h.alike, fun symbol i v last => more (h.hides symbol i v last), h.newline⟩

theorem withIndent (h : s.Fits m exempt hidden) {indent : String}
    (newline : indent.toList.head? = some '\n') :
    PairedState.Fits m exempt hidden { s with indent } :=
  ⟨h.alike, h.hides, newline⟩

/-- A symbol that is bound anew is no longer hidden. -/
theorem binds [Host.Nominal] (h : s.Fits m exempt hidden) {names : List String}
    (bound : reading.Binds (Pair.Alike m exempt) s names s') :
    s'.Fits m exempt (remaining hidden names) := by
  obtain ⟨entries, rfl, rfl, hold⟩ := bound
  induction entries generalizing s hidden with
  | nil => exact h.mono fun symbol there => mem_remaining.mpr ⟨there, List.not_mem_nil⟩
  | cons entry rest ih =>
    obtain ⟨here, others⟩ := List.forall_mem_cons.mp hold
    refine (ih (h.push entry.1 here) others).mono fun symbol there => ?_
    simp only [mem_remaining, List.map_cons, List.mem_cons, List.not_mem_nil] at *
    tauto

/-- What is not hidden is found in the same way on both sides. -/
def lookup (h : s.Fits m exempt hidden) : Lookup Side (Pair.Alike m exempt) where
  find? symbol := sharedBinding? symbol s.slots
  place w := rank w s.slots
  holds symbol _ v found := h.alike symbol v (List.mem_of_getElem? (mem_of_sharedBinding? found))
  order w _ i _ _ j _ found _ := by
    refine ⟨fun lower => ?_, rank_lt (mem_of_sharedBinding? found)⟩
    by_contra reversed
    exact Nat.not_lt.mpr (rank_mono (Nat.le_of_not_lt reversed)) lower

theorem tells [Host.Nominal] (h : s.Fits m exempt hidden) {references : List Reference}
    (avoids : Reference.AllAvoid hidden references) : reading.TellsAll h.lookup s references := by
  intro r referred symbol looked w
  refine lastBinding?_bindingsOf w fun i v last => ?_
  exact avoids r referred symbol looked (h.hides symbol i v last)

end Fits

end PairedState

end Translate

end MarkupTemplate

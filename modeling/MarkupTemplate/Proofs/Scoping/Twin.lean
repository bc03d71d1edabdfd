import MarkupTemplate.Proofs.Held
import MarkupTemplate.Proofs.Scoping.Agree

/-!
# Closures with copies

A closure of an audited translation that carries, besides its branch, a copy of what it sees. The
copy is what lexical scoping would keep; `Captured` says that branch and copy still mean the same.
-/

namespace MarkupTemplate

open Scope

/-- A closure on a branch and a copy of the bindings that were visible at its definition. -/
structure Twin where
  closure : Closure
  bindings : List (String × Value Capture)
  length_bindings : bindings.length = closure.branch.length

namespace Twin

/-- The closure as lexical scoping has it. -/
def capture (c : Twin) : Capture := .mk c.closure.toDefinition c.bindings

/-- Bindings as lexical scoping has them. -/
def copy (bindings : List (String × Value Twin)) : List (String × Value Capture) :=
  bindings.map (Prod.map id (Value.mapClosures capture))

/-- A closure with a copy of bindings, which is of no use if it has not their number. -/
def ofClosure (c : Closure) (bindings : List (String × Value Twin)) : Twin :=
  if h : bindings.length = c.branch.length then ⟨c, copy bindings, by simp [copy, h]⟩
  else ⟨c, List.replicate c.branch.length ("", .none), by simp⟩

instance : Translate.Closing Twin where
  closure := Twin.closure
  ofClosure c s := ofClosure c (s.store.bindings s.branch)

abbrev branch (c : Twin) : Branch := c.closure.branch

abbrev id (c : Twin) : Nat := c.closure.id

theorem closure_ofClosure (c : Closure) (bindings : List (String × Value Twin)) :
    (ofClosure c bindings).closure = c := by
  unfold ofClosure
  split <;> rfl

theorem bindings_ofClosure {c : Closure} {bindings : List (String × Value Twin)}
    (whole : bindings.length = c.branch.length) : (ofClosure c bindings).bindings = copy bindings := by
  rw [ofClosure, dif_pos whole]

end Twin

namespace Translate

namespace Audited

variable {κ : Type} {s s' s'' : Audited κ} {b : Branch}

abbrev store (s : Audited κ) : Store (Value κ) := s.state.store

abbrev level (s : Audited κ) : Nat := s.state.stack.level

abbrev length (s : Audited κ) : Nat := s.state.stack.length s.state.store

abbrev branch (s : Audited κ) : Branch := s.state.branch

/-- The visible bindings in order. -/
def view (s : Audited κ) : List (String × Value κ) := s.store.bindings s.branch

/-- Two states agree below a branch, in what is bound and in when it was written. -/
structure Agree (s s' : Audited κ) (b : Branch) : Prop where
  store : s.store.Agree s'.store b
  written : ∀ id i, b.Above id i → s'.written id i = s.written id i

namespace Agree

theorem refl (s : Audited κ) (inside : b.level < s.store.levels.size) : s.Agree s b :=
  ⟨.refl _ inside, fun _ _ _ => rfl⟩

theorem trans (h : s.Agree s' b) (h' : s'.Agree s'' b) : s.Agree s'' b :=
  ⟨h.store.trans h'.store, fun id i above => (h'.written id i above).trans (h.written id i above)⟩

theorem mono {b' : Branch} (h : s.Agree s' b) (within : b'.Within b)
    (inside : b'.level < s.store.levels.size) : s.Agree s' b' :=
  ⟨h.store.mono within inside, fun id i above => h.written id i (above.mono within)⟩

theorem inside (h : s.Agree s' b) : b.level < s'.store.levels.size := by
  obtain ⟨_, _, _, hl', _⟩ := h.store.level
  exact (Array.getElem?_eq_some_iff.mp hl').1

end Agree

theorem untouched_iff {time : Nat} : s.untouched b time = true ↔
    ∀ i < b.length, ∃ id, s.store.holder? b.level i = some id ∧ s.written id i ≤ time := by
  simp only [untouched, List.all_eq_true, List.mem_range]
  refine forall₂_congr fun i _ => ?_
  cases s.state.store.holder? b.level i <;> simp

theorem full_of_untouched (wf : s.store.WellFormed) {time : Nat}
    (h : s.untouched b time = true) : s.store.Full b := by
  intro i inside
  obtain ⟨id, held, -⟩ := untouched_iff.mp h i inside
  obtain ⟨-, l, hl, -, own⟩ := Store.holder?_eq_some held
  rw [Store.bindingAt?_eq_holder wf, held, Option.bind_some, hl, Option.bind_some, Option.isSome_map,
    Array.getElem?_eq_getElem own]
  rfl

end Audited

open Audited

/-! ### Captured closures -/

/-- A closure of the translation is still what it was when it was made: it is the one of its number,
nothing that it sees has been touched and all is as in its copy, and the defaults that are kept are what
they would be if they were evaluated now. -/
structure Captured [Host] (source : String) (s : Audited Twin) (c : Twin) : Prop where
  level : c.branch.level < s.store.levels.size
  made : ∃ time, s.made[c.id]? = some (c, time) ∧ s.untouched c.branch time = true
  bindings : Twin.copy (s.store.bindings c.branch) = c.bindings
  default : ∀ (i : Nat) (v : Value Twin), s.state.cells c.id i = ⟨some v⟩ →
    ∃ (p : Param) (e : Expr), c.closure.signature.params[i]? = some p ∧ p.default = some e ∧
      e.eval source (s.state.look c.branch) = .ok v

variable [Host] {source : String} {s s' s'' : Audited Twin} {b b' : Branch} {c : Twin}

theorem Captured.full (wf : s.store.WellFormed) (h : Captured source s c) :
    s.store.Full c.branch := by
  obtain ⟨_, _, untouched⟩ := h.made
  exact full_of_untouched wf untouched

theorem Captured.intact (h : Captured source s c) : s.intact c = true := by
  obtain ⟨time, made, untouched⟩ := h.made
  unfold Audited.intact
  rw [show (Closing.closure c).id = c.id from rfl, made]
  exact untouched

/-- What is bound below a branch and which closures there are captured stays so. -/
structure Keeps (source : String) (b : Branch) (s s' : Audited Twin) : Prop where
  agree : s.Agree s' b
  captured : ∀ c, Captured source s c → c.branch.Within b → Captured source s' c

theorem Keeps.trans (h : Keeps source b s s') (h' : Keeps source b s' s'') :
    Keeps source b s s'' :=
  ⟨h.agree.trans h'.agree, fun c captured within =>
    h'.captured c (h.captured c captured within) within⟩

theorem Keeps.mono (h : Keeps source b s s') (within : b'.Within b)
    (inside : b'.level < s.store.levels.size) : Keeps source b' s s' :=
  ⟨h.agree.mono within inside, fun c captured less => h.captured c captured (less.trans within)⟩

/-- Closures stay captured below a branch that two states agree on, if closures keep their numbers
and every default that is kept was kept before. -/
theorem Keeps.of_agree (wf : s.store.WellFormed) (wf' : s'.store.WellFormed)
    (agree : s.Agree s' b)
    (made : ∀ (id : Nat) (entry : Twin × Nat), s.made[id]? = some entry →
      s'.made[id]? = some entry)
    (cells : ∀ id < s.made.length, s'.state.cells id = s.state.cells id) :
    Keeps source b s s' := by
  refine ⟨agree, fun c h within => ?_⟩
  have below := agree.mono within h.level
  obtain ⟨time, here, untouched⟩ := h.made
  have same := below.store.bindings_eq wf wf'
  refine ⟨below.inside, ⟨time, made _ _ here, untouched_iff.mpr fun i inside => ?_⟩, ?_, ?_⟩
  · obtain ⟨id, held, before⟩ := untouched_iff.mp untouched i inside
    have above : c.branch.Above c.branch.level i := .inr ⟨rfl, inside⟩
    have lower := (Store.holder?_eq_some held).1
    have holder : c.branch.Above id i := by
      rcases Nat.lt_or_eq_of_le lower with less | rfl
      · exact .inl less
      · exact above
    exact ⟨id, (below.store.holder?_eq wf wf' above).trans held,
      below.written id i holder ▸ before⟩
  · rw [same, h.bindings]
  · intro i v kept
    rw [cells _ (List.getElem?_eq_some_iff.mp here).1] at kept
    obtain ⟨p, e, param, hasDefault, value⟩ := h.default i v kept
    refine ⟨p, e, param, hasDefault, ?_⟩
    have look : s'.state.look c.branch = s.state.look c.branch := by
      funext name
      simp only [State.look, below.store.findOn?_eq wf wf']
    rw [look, value]

/-- A closure that may be visible under a branch. -/
def Fits (source : String) (s : Audited Twin) (b : Branch) (c : Twin) : Prop :=
  Captured source s c ∧ c.branch.Within b

theorem Fits.mono (h : Fits source s b c) (within : b.Within b') : Fits source s b' c :=
  ⟨h.1, h.2.trans within⟩

theorem Keeps.fits (h : Keeps source b s s') (within : b'.Within b) (fits : Fits source s b' c) :
    Fits source s' b' c :=
  ⟨h.captured c fits.1 (fits.2.trans within), fits.2⟩

end Translate

end MarkupTemplate

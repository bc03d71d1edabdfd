import MarkupTemplate.Proofs.Hereditary
import MarkupTemplate.Proofs.Lexical.Ends
import MarkupTemplate.Proofs.Placement.Making
import MarkupTemplate.Proofs.Scope.Holds
import MarkupTemplate.Proofs.Scoping.Steps

/-!
# What a state keeps

A property that all values of a state have is kept by everything that a translation does to its
scopes, as long as what is bound has it. Whatever opens a scope, or a block with an indentation of its
own, goes back to the indentation it was started at.
-/

namespace MarkupTemplate

variable {α β κ : Type}

/-! ### Runs that tolerate most errors -/

/-- Stopping otherwise than on a malformed indentation. -/
def Stop.NotMalformed (stop : Stop) : Prop :=
  ∀ e, stop = .error e → e.category ≠ .malformedIndent

/-- Every way to stop is allowed other than with an error that is not of some categories, and all
categories are among them but that of malformed indentations, which may be. -/
structure Tolerates (fine : ErrorCategory → Prop) (allowed : Stop → Prop) : Prop where
  upright : ∀ c, c ≠ .malformedIndent → fine c
  stop : ∀ stop : Stop, (∀ e, stop = .error e → fine e.category) → allowed stop

namespace Tolerates

variable {fine : ErrorCategory → Prop} {allowed : Stop → Prop} (tolerant : Tolerates fine allowed)

include tolerant

theorem error {e : Error} (h : e.category ≠ .malformedIndent) : allowed (.error e) :=
  tolerant.stop _ fun _ same => Stop.error.inj same ▸ tolerant.upright _ h

theorem fails {x : Except Error α} (h : Upright x) : FailsIn fine x := h.imp tolerant.upright

theorem ends {p : α → Prop} {x : Except Error α} (fails : FailsIn fine x)
    (holds : ∀ a, x = .ok a → p a) : Ends allowed p (liftM x : Run α) :=
  .lift (fun e failed => tolerant.stop _ fun _ same => Stop.error.inj same ▸ fails e failed) holds

theorem makes {p : α → Prop} {x : Except Error α} (h : Makes p x) :
    Ends allowed p (liftM x : Run α) :=
  tolerant.ends (tolerant.fails h.fails) h.result

theorem bind {q : β → Prop} {x : Except Error α} {k : α → Run β} (fails : FailsIn fine x)
    (next : ∀ a, x = .ok a → Ends allowed q (k a)) : Ends allowed q ((liftM x : Run α) >>= k) :=
  Ends.bind (tolerant.ends fails fun _ found => found) next

end Tolerates

namespace Translate

open Scope

variable {Q : Value κ → Prop} {indent : String} {s s₀ : State κ}

/-- The state with another indentation. -/
def State.atIndent (indent : String) (s : State κ) : State κ :=
  { s with stack := { s.stack with indent } }

section Indented

variable [Closing κ]

theorem State.indentBy_all (s : State κ) (added : String) :
    added.toList.foldl (fun s c => Scoping.indentBy c s) s =
      s.atIndent (s.stack.indent ++ added) := by
  have extended := Translate.indentBy_all (w := (State.atIndent · s)) (fun _ _ => rfl)
    s.stack.indent added.toList
  rwa [String.ofList_toList] at extended

theorem State.dedentBy_all (s : State κ) (nonempty : indent ≠ "") (added : String) :
    dedentBy added.toList.length (s.atIndent (indent ++ added)) = .ok (s.atIndent indent) := by
  have undone := Translate.dedentBy_all (w := (State.atIndent · s)) ?_ nonempty added.toList
  · rwa [String.ofList_toList] at undone
  · intro i c nonempty
    change State.dedent (s.atIndent (i.push c)) = .ok (s.atIndent i)
    have last : (s.atIndent (i.push c)).stack.dedent = .ok (s.atIndent i).stack := by
      change Stack.dedent ⟨s.stack.level, i.push c⟩ = .ok ⟨s.stack.level, i⟩
      rw [Stack.dedent, if_neg (Nat.not_le.mpr (push_utf8ByteSize nonempty c)), dropLast_push]
    rw [State.dedent, last, ok_bind]
    rfl

variable {layout : Layout} {run : State κ → Option String → Run (Output (State κ) κ)}

theorem indented_of_blank (outlined : layout.outline = true)
    (blank : layout.indent.toList.find? (!Text.isIndentChar ·) = none) :
    indented s layout run = (do
      let place := s.stack.indent ++ layout.indent
      let (s, nodes) ← run (s.atIndent place) (some place)
      let s ← dedentBy layout.indent.toList.length s
      .ok (s, nodes)) := by
  rw [indented, outlined, blank]
  simp only [s.indentBy_all]
  rfl

/-- The absolute indentation of a block that starts on a line of its own. -/
def State.placeFor (s : State κ) (layout : Layout) : Option String :=
  if layout.outline then some (s.stack.indent ++ layout.indent) else none

/-- The state in which a block makes its nodes. -/
def State.openFor (s : State κ) (layout : Layout) : State κ :=
  s.atIndent ((s.placeFor layout).getD s.stack.indent)

/-- What has been run with the indentation of a block. -/
theorem ran_of_indented {o : Output (State κ) κ} (done : indented s layout run = .ok o) :
    ∃ s', run (s.openFor layout) (s.placeFor layout) = .ok (s', o.2) := by
  unfold State.openFor State.placeFor
  cases outlined : layout.outline with
  | false =>
    rw [indented, outlined] at done
    exact ⟨o.1, done⟩
  | true =>
    cases blank : layout.indent.toList.find? (!Text.isIndentChar ·) with
    | some c =>
      rw [indented, outlined, blank] at done
      cases done
    | none =>
      rw [indented_of_blank outlined blank] at done
      obtain ⟨⟨s₁, nodes⟩, ran, done⟩ := bind_eq_ok.mp done
      obtain ⟨s₂, -, done⟩ := bind_eq_ok.mp done
      obtain rfl := Except.ok.inj done
      exact ⟨s₁, ran⟩

/-- A run that leaves the state alone does so with an indentation of blanks. -/
theorem indented_eq_ok_of_ran {nodes : List (Node κ)}
    (ran : run (s.openFor layout) (s.placeFor layout) = .ok (s.openFor layout, nodes))
    (blank : ∀ c ∈ layout.indent.toList, Text.isIndentChar c = true)
    (nonempty : s.stack.indent ≠ "") : indented s layout run = .ok (s, nodes) := by
  unfold State.openFor State.placeFor at ran
  cases outlined : layout.outline with
  | false =>
    rw [outlined] at ran
    rw [indented, outlined]
    exact ran
  | true =>
    rw [outlined] at ran
    have allBlank : layout.indent.toList.find? (!Text.isIndentChar ·) = none := by
      rw [List.find?_eq_none]
      intro c member
      rw [blank c member]
      decide
    have back := s.dedentBy_all nonempty layout.indent
    rw [indented_of_blank outlined allBlank]
    simp only [if_true, Option.getD_some] at ran
    simp only [ran, ok_bind, back]
    rfl

end Indented

/-- A state at an indentation, in which every value has a property. -/
structure State.Keeps (Q : Value κ → Prop) (indent : String) (s : State κ) : Prop where
  store : s.store.Holds Q
  defaults : ∀ id index v, (s.cells id index).value? = some v → Q v
  measured : s.stack.indent = indent
  newline : indent.toList.head? = some '\n'

namespace State.Keeps

theorem start (Q : Value κ → Prop) : (State.start : State κ).Keeps Q "\n" where
  store := Store.Holds.empty.add (.empty none)
  defaults := nofun
  measured := rfl
  newline := rfl

theorem nonempty (h : s.Keeps Q indent) : indent ≠ "" := by
  rintro rfl
  exact nomatch h.newline

theorem look (h : s.Keeps Q indent) {b : Branch} {name : String} {v : Value κ}
    (found : s.look b name = some v) : Q v := by
  obtain ⟨⟨i, v⟩, here, rfl⟩ := Option.map_eq_some_iff.mp found
  exact h.store.findBelow here

theorem atIndent_self (h : s.Keeps Q indent) : s.atIndent indent = s := by
  rw [State.atIndent, ← h.measured]

theorem atIndent (h : s.Keeps Q indent) {deeper : String}
    (newline : deeper.toList.head? = some '\n') : (s.atIndent deeper).Keeps Q deeper :=
  ⟨h.store, h.defaults, rfl, newline⟩

theorem keep (h : s.Keeps Q indent) (id index : Nat) {v : Value κ} (holds : Q v) :
    (s.keep id index ⟨some v⟩).Keeps Q indent := by
  refine ⟨h.store, fun i j w computed => ?_, h.measured, h.newline⟩
  simp only [State.keep] at computed
  split at computed
  · obtain rfl := Option.some.inj computed
    exact holds
  · exact h.defaults i j w computed

variable [Closing κ]

theorem indentBy_all (h : s.Keeps Q indent) (added : String) :
    added.toList.foldl (fun s c => Scoping.indentBy c s) s = s.atIndent (indent ++ added) := by
  rw [State.indentBy_all, h.measured]

theorem dedentBy_all {added : String} (h : s.Keeps Q (indent ++ added)) (nonempty : indent ≠ "") :
    dedentBy added.toList.length s = .ok (s.atIndent indent) := by
  have undone := s.dedentBy_all nonempty added
  rwa [h.atIndent_self] at undone

theorem visible (h : s.Keeps Q indent) : AllVisible Q s :=
  fun _ _ _ found => h.store.findBelow found

theorem push (h : s.Keeps Q indent) (name : String) {v : Value κ} (holds : Q v) :
    (Scoping.push name v s).Keeps Q indent :=
  ⟨h.store.modify fun _ level => level.push name holds, h.defaults, h.measured, h.newline⟩

theorem pushAll (h : s.Keeps Q indent) {symbols : List (String × Value Empty)}
    (holds : ∀ entry ∈ symbols, Q entry.2.lift) : (Translate.pushAll s symbols).Keeps Q indent := by
  induction symbols generalizing s with
  | nil => exact h
  | cons entry rest ih =>
    obtain ⟨first, others⟩ := List.forall_mem_cons.mp holds
    exact ih (h.push entry.1 first) others

theorem leave (h₀ : s₀.Keeps Q indent) {inner : String} (h : s.Keeps Q inner) :
    (Scoping.leave (Scoping.mark s₀) s).Keeps Q indent :=
  ⟨h.store.modify fun l _ => .empty l.trunk, h.defaults, h₀.measured, h₀.newline⟩

theorem enter (h : s.Keeps Q indent) (c : κ) {inner : String}
    (newline : inner.toList.head? = some '\n') : (s.enter c inner).Keeps Q inner :=
  ⟨h.store.add (.empty _), h.defaults, withNewline_eq newline, newline⟩

theorem close (h : s.Keeps Q indent) (d : Definition) : (Scoping.close d s).2.Keeps Q indent :=
  ⟨h.store, h.defaults, h.measured, h.newline⟩

variable {fine : ErrorCategory → Prop} {allowed : Stop → Prop} (tolerant : Tolerates fine allowed)

include tolerant

theorem set_ends (h : s.Keeps Q indent) (index : Nat) {v : Value κ} (holds : Q v) :
    Ends allowed (State.Keeps Q indent) (liftM (Scoping.set index v s) : Run (State κ)) := by
  change Ends allowed _ (liftM (State.set index v s))
  unfold State.set Stack.set
  split
  · exact tolerant.error nofun
  · split
    · exact ⟨h.store.modify fun _ level => level.set index holds, h.defaults, h.measured, h.newline⟩
    · exact tolerant.error nofun

theorem reset_ends (h₀ : s₀.Keeps Q indent) (h : s.Keeps Q indent) :
    Ends allowed (State.Keeps Q indent) (Scoping.reset (Scoping.mark s₀) s : Run (State κ)) := by
  change Ends allowed _ (State.reset s₀.mark s)
  unfold State.reset Stack.reset
  split
  · exact tolerant.error nofun
  · split
    · exact tolerant.error nofun
    · have length : s₀.mark.checkpoint.indentLength = Text.byteLength s.stack.indent.toList := by
        rw [Text.byteLength_toList, h.measured, ← h₀.measured]
        rfl
      rw [length, Text.splitAtByte?_byteLength]
      refine ⟨h.store.modify fun _ level => level.popMany _, h.defaults, ?_, h.newline⟩
      exact String.ofList_toList.trans h.measured

theorem default_ends (h : s.Keeps Q indent) (c : κ) (index : Nat)
    {compute : (String → Option (Value κ)) → Except Error (Value κ)}
    (fails : ∀ look, FailsIn fine (compute look))
    (holds : ∀ look v, (∀ name w, look name = some w → Q w) → compute look = .ok v → Q v) :
    Ends allowed (fun o => Q o.1 ∧ o.2.Keeps Q indent)
      (Scoping.default c index compute s : Run (Value κ × State κ)) := by
  change Ends allowed _ (liftM (s.default c index compute))
  rw [State.default_eq]
  have value : ∀ v, (s.cells (Closing.closure c).id index).value?.elim
      (compute (s.look (Closing.closure c).branch)) .ok = .ok v → Q v := by
    intro v computed
    cases kept : (s.cells (Closing.closure c).id index).value? with
    | none =>
      rw [kept] at computed
      exact holds _ v (fun _ _ found => h.look found) computed
    | some w =>
      rw [kept] at computed
      obtain rfl := Except.ok.inj computed
      exact h.defaults _ _ w kept
  refine tolerant.ends (.map _ ?_) fun o made => ?_
  · cases (s.cells (Closing.closure c).id index).value? with
    | none => exact fails _
    | some w => exact .ok w
  · obtain ⟨v, computed, rfl⟩ := map_eq_ok.mp made
    exact ⟨value v computed, h.keep _ _ (value v computed)⟩

end State.Keeps

end Translate

end MarkupTemplate

import MarkupTemplate.Proofs.Held
import MarkupTemplate.Proofs.Nesting.Callers
import MarkupTemplate.Proofs.Scoping.Lexical

/-!
# Calls without a limit

Captures are ranked, and a call is expanded as long as it passes captures of a lower rank only. What
a call comes to settles as the limit grows: this is what it comes to without a limit.
-/

namespace MarkupTemplate

/-- All captures that a call of `c` passes in its arguments have a lower rank than `c`. -/
def Call.below (rank : Capture → Nat) (c : Capture) (k : Call Capture) : Bool :=
  k.positional.all (·.closures.all (rank · < rank c)) &&
    k.named.all (·.2.closures.all (rank · < rank c))

namespace Translate

theorem below_iff {rank : Capture → Nat} {c : Capture} {k : Call Capture} :
    k.below rank c = true ↔ ArgsHold (rank · < rank c) k.positional k.named := by
  simp only [Call.below, Bool.and_eq_true, List.all_eq_true, decide_eq_true_eq]
  rfl

variable [Host] (env : Env) (rank : Capture → Nat) (alarm : Stop)

/-- Expands a capture that is passed lower ones only, and otherwise stops with an alarm. -/
def guarded (inner : Caller Lexical Capture) : Caller Lexical Capture := fun s c k =>
  if k.below rank c then invoke env inner s c k else .error alarm

/-- Expands a capture, with at most `limit` calls inside each other, which are all guarded. -/
def expandRanked : Nat → Caller Lexical Capture
  | 0 => fun _ _ _ => .error .callDepth
  | limit + 1 => fun s c k => guarded env rank alarm (expandRanked limit) s c k

open Classical in
/-- Expands a capture, with any number of guarded calls inside each other. -/
noncomputable def expandUnlimited : Caller Lexical Capture := fun s c k =>
  if h : ∃ limit, expandRanked env rank alarm limit s c k ≠ .error .callDepth then
    expandRanked env rank alarm h.choose s c k
  else .error .callDepth

/-- The callers for all limits, and the one without a limit. -/
noncomputable def expandUpTo : Option Nat → Caller Lexical Capture
  | some limit => expandRanked env rank alarm limit
  | none => expandUnlimited env rank alarm

end Translate

/-- Runs for all limits that come to be the run without a limit. -/
def Settles (α : Type) (r : Option Nat → Run α) : Prop :=
  ∃ limit, ∀ more, limit ≤ more → r (some more) = r none

theorem Settles.composes : Composes Settles where
  const r := ⟨0, fun _ _ => rfl⟩
  bind {α β r k} h next := by
    obtain ⟨limit, settled⟩ := h
    cases result : r none with
    | error e =>
      refine ⟨limit, fun more le => ?_⟩
      simp only [settled more le, result, error_bind]
    | ok a =>
      obtain ⟨limit', settled'⟩ := next a
      refine ⟨max limit limit', fun more le => ?_⟩
      obtain ⟨first, second⟩ := Nat.max_le.mp le
      simp only [settled more first, result, ok_bind, settled' more second]

/-- Runs for all alarms, of which each raises its own, or which are all the same. -/
def Alarms (α : Type) (r : Stop → Run α) : Prop :=
  (∀ alarm, r alarm = .error alarm) ∨ ∀ alarm alarm', r alarm = r alarm'

theorem Alarms.composes : Composes Alarms where
  const r := .inr fun _ _ => rfl
  bind {α β r k} h next := by
    rcases h with raised | same
    · left
      intro alarm
      simp only [raised, error_bind]
    · cases result : r .callDepth with
      | error e =>
        right
        intro alarm alarm'
        simp only [same _ .callDepth, result, error_bind]
      | ok a =>
        have later : (fun alarm => r alarm >>= k alarm) = fun alarm => k alarm a := by
          funext alarm
          rw [same alarm .callDepth, result, ok_bind]
        rw [later]
        exact next a

namespace Translate

variable [Host] {env : Env} {rank : Capture → Nat} {alarm : Stop}

/-- Calls that are not guarded do the same, unless the alarm is raised. -/
theorem expandRanked_expand (limit : Nat) (s : Lexical) (c : Capture) (k : Call Capture) :
    SameUnless alarm (expandRanked env rank alarm limit s c k) (expand env limit s c k) := by
  induction limit generalizing s c k with
  | zero => exact .inr rfl
  | succ limit ih =>
    unfold expandRanked guarded
    split
    · exact invoke_same ih s c k
    · exact .inl rfl

theorem expandRanked_alarms (limit : Nat) (s : Lexical) (c : Capture) (k : Call Capture) :
    Alarms _ fun alarm => expandRanked env rank alarm limit s c k := by
  induction limit generalizing s c k with
  | zero => exact Alarms.composes.const _
  | succ limit ih =>
    unfold expandRanked guarded
    cases k.below rank c with
    | true =>
      exact invoke_composes Alarms.composes (fun alarm => expandRanked env rank alarm limit) ih s c k
    | false => exact .inl fun _ => rfl

theorem expandRanked_same {limit limit' : Nat} (le : limit ≤ limit') (s : Lexical) (c : Capture)
    (k : Call Capture) :
    SameUnless .callDepth (expandRanked env rank alarm limit s c k)
      (expandRanked env rank alarm limit' s c k) := by
  induction limit generalizing limit' s c k with
  | zero => exact .inl rfl
  | succ limit ih =>
    obtain ⟨more, rfl⟩ := Nat.exists_eq_add_of_lt le
    unfold expandRanked guarded
    split
    · exact invoke_same (ih (Nat.le_add_right limit more)) s c k
    · exact .inr rfl

theorem expandUpTo_settles (s : Lexical) (c : Capture) (k : Call Capture) :
    Settles _ fun limit => expandUpTo env rank alarm limit s c k := by
  by_cases h : ∃ limit, expandRanked env rank alarm limit s c k ≠ .error .callDepth
  · refine ⟨h.choose, fun more le => ?_⟩
    change expandRanked env rank alarm more s c k = expandUnlimited env rank alarm s c k
    rw [expandUnlimited, dif_pos h]
    exact (expandRanked_same le s c k).eq h.choose_spec
  · refine ⟨0, fun more _ => ?_⟩
    change expandRanked env rank alarm more s c k = expandUnlimited env rank alarm s c k
    rw [expandUnlimited, dif_neg h]
    exact Classical.not_not.mp (not_exists.mp h more)

theorem guarded_settles (s : Lexical) (c : Capture) (k : Call Capture) :
    Settles _ fun limit => guarded env rank alarm (expandUpTo env rank alarm limit) s c k := by
  unfold guarded
  cases k.below rank c with
  | true => exact invoke_composes Settles.composes _ expandUpTo_settles s c k
  | false => exact Settles.composes.const _

/-- Without a limit, calls are guarded and expanded all the way down. -/
theorem expandUnlimited_eq (s : Lexical) (c : Capture) (k : Call Capture) :
    expandUnlimited env rank alarm s c k =
      guarded env rank alarm (expandUnlimited env rank alarm) s c k := by
  have outer : Settles _ fun limit => expandUpTo env rank alarm limit s c k :=
    expandUpTo_settles s c k
  have inner : Settles _ fun limit =>
    guarded env rank alarm (expandUpTo env rank alarm limit) s c k := guarded_settles s c k
  -- Beyond both limits, one more call on the left is the guarded call on the right.
  obtain ⟨limit, outer⟩ := outer
  obtain ⟨limit', inner⟩ := inner
  have here := outer (max limit limit' + 1) (Nat.le_succ_of_le (Nat.le_max_left limit limit'))
  exact here.symm.trans (inner (max limit limit') (Nat.le_max_right limit limit'))

end Translate

end MarkupTemplate

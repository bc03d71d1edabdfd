import MarkupTemplate.Proofs.Scope.Isolation
import MarkupTemplate.Proofs.Scoping.Indent

/-!
# Going back to any checkpoint

A checkpoint is a pair of numbers, so a stack can be asked to go back to one that was taken of another
stack, or of itself when it was something else. It goes back to those in its range and refuses the
others. The indentation is cut at a number of bytes: where this is not the end of a character, there is
no answer.
-/

namespace MarkupTemplate.Scope

variable {α : Type} {σ σ' : Store α} {s s' : Stack} {c : Checkpoint}

/-- A checkpoint is in the range of a stack: not in its trunk, not above its top, and no further than
its indentation. -/
structure Checkpoint.Within (c : Checkpoint) (s : Stack) (σ : Store α) : Prop where
  trunk : s.trunkLength σ ≤ c.length
  top : c.length ≤ s.length σ
  margin : 0 < c.indentLength
  indent : c.indentLength ≤ s.indent.utf8ByteSize

/-- What is left of a stack that keeps its first `n` positions. -/
structure Stack.CutTo (n : Nat) (s : Stack) (σ : Store α) (s' : Stack) (σ' : Store α) : Prop where
  length : s'.length σ' = n
  get? : ∀ i, s'.get? σ' i = if i < n then s.get? σ i else none
  find? : ∀ name i value, s'.find? σ' name = some (i, value) ↔
    i < n ∧ σ.Binds s.level i name value ∧
      ∀ j, i < j → j < n → ∀ other, ¬ σ.Binds s.level j name other

namespace Stack

theorem cutTo_of_agree (wf : σ.WellFormed) (wf' : σ'.WellFormed) {n : Nat}
    (agree : σ.Agree σ' ⟨s.level, n⟩) (length : s.length σ' = n) (below : n ≤ s.length σ)
    (indent : String) : s.CutTo n σ ⟨s.level, indent⟩ σ' := by
  have bindings : ∀ i < n, σ'.bindingAt? s.level i = σ.bindingAt? s.level i :=
    fun i low => agree.bindingAt?_eq wf wf' (.inr ⟨rfl, low⟩)
  have binds : ∀ i < n, ∀ name value,
      σ'.Binds s.level i name value ↔ σ.Binds s.level i name value := fun i low name value => by
    rw [← Store.bindingAt?_eq_some_iff wf', ← Store.bindingAt?_eq_some_iff wf, bindings i low]
  refine ⟨length, fun i => ?_, fun name i value => ?_⟩
  · rw [Stack.get?, show Stack.length ⟨s.level, indent⟩ σ' = n from length]
    split
    · next low =>
      rw [Stack.get?, if_pos (Nat.lt_of_lt_of_le low below), Store.get?_eq_bindingAt?,
        bindings i low, Store.get?_eq_bindingAt?]
    · rfl
  · rw [Stack.find?_eq_some_iff wf', show Stack.length ⟨s.level, indent⟩ σ' = n from length]
    refine and_congr_right fun low => and_congr (binds i low name value) ?_
    exact forall_congr' fun j => forall_congr' fun _ => forall_congr' fun high =>
      forall_congr' fun other => not_congr (binds j high name other)

/-- A text of one-byte characters ends one at each of its bytes. -/
theorem lead_of_narrow {text : List Char} (narrow : ∀ ch ∈ text, ch.utf8Size = 1) {n : Nat}
    (inside : n ≤ Text.byteLength text) : ∃ lead, lead <+: text ∧ Text.byteLength lead = n := by
  induction text generalizing n with
  | nil =>
    obtain rfl : n = 0 := Nat.le_zero.mp inside
    exact ⟨[], List.prefix_refl _, rfl⟩
  | cons ch text ih =>
    have one := narrow ch List.mem_cons_self
    rw [Text.byteLength_cons, one] at inside
    cases n with
    | zero => exact ⟨[], List.nil_prefix, rfl⟩
    | succ n =>
      obtain ⟨lead, starts, size⟩ :=
        ih (fun ch' member => narrow ch' (List.mem_cons_of_mem _ member)) (n := n) (by omega)
      refine ⟨ch :: lead, List.cons_prefix_cons.mpr ⟨rfl, starts⟩, ?_⟩
      rw [Text.byteLength_cons, one, size, Nat.add_comm]

/-- Outside its range, going back is refused before anything is undone. -/
theorem reset_outside (outside : ¬ c.Within s σ) :
    ∃ e, s.reset c σ = .error (.error e) ∧ e.category = .stackUnderflow := by
  unfold reset
  split
  · exact ⟨_, rfl, rfl⟩
  · next below =>
    split
    · exact ⟨_, rfl, rfl⟩
    · next above =>
      simp only [Bool.or_eq_true, decide_eq_true_eq, beq_iff_eq, not_or, Nat.not_lt] at below above
      exact absurd ⟨above.1, below.1, by omega, below.2⟩ outside

theorem reset_within (within : c.Within s σ) :
    s.reset c σ = match Text.splitAtByte? s.indent.toList c.indentLength with
      | none => .error .splitCharacter
      | some (lead, _) =>
        .ok (σ.modify s.level (.popMany (s.length σ - c.length)), ⟨s.level, String.ofList lead⟩) := by
  obtain ⟨trunk, top, margin, indent⟩ := within
  have above : ¬ (decide (s.length σ < c.length) || decide (s.indent.utf8ByteSize < c.indentLength)) =
      true := by
    simp only [Bool.or_eq_true, decide_eq_true_eq]
    omega
  have below : ¬ (decide (c.length < s.trunkLength σ) || c.indentLength == 0) = true := by
    simp only [Bool.or_eq_true, decide_eq_true_eq, beq_iff_eq]
    omega
  rw [reset]
  exact (if_neg above).trans (if_neg below)

/-- In its range and at the end of a character, going back cuts the stack and its indentation. -/
theorem reset_cut (wf : σ.WellFormed) (inside : s.level < σ.levels.size) (within : c.Within s σ)
    {lead : List Char} (starts : lead <+: s.indent.toList)
    (size : Text.byteLength lead = c.indentLength) :
    ∃ σ', s.reset c σ = .ok (σ', ⟨s.level, String.ofList lead⟩) ∧
      s.CutTo c.length σ ⟨s.level, String.ofList lead⟩ σ' := by
  obtain ⟨rest, text⟩ := starts
  have reset := reset_within within
  rw [← text, ← size, Text.splitAtByte?_append] at reset
  obtain ⟨wf', -⟩ := wellFormed_reset wf reset
  exact ⟨_, reset, cutTo_of_agree wf wf' (agree_popMany inside)
    (length_popMany inside within.trunk within.top) within.top _⟩

/-- In its range but inside of a character, there is no answer. -/
theorem reset_split (within : c.Within s σ)
    (splits : ∀ lead, lead <+: s.indent.toList → Text.byteLength lead ≠ c.indentLength) :
    s.reset c σ = .error .splitCharacter := by
  rw [reset_within within]
  split
  · rfl
  · next lead rest cut =>
    obtain ⟨text, size⟩ := Text.of_splitAtByte? cut
    exact absurd size (splits lead ⟨rest, text.symm⟩)

end Stack

/-- After any operations, a stack goes back to any checkpoint in its range whose indentation ends with a
character, and keeps just as many positions and as much of its indentation. It has no answer if that
cuts a character, which has to be of several bytes. It refuses a checkpoint out of its range, which
changes nothing. -/
theorem run_reset (ops : List (Operation α)) (s : Stack) (hs : s ∈ (System.run ops).live)
    (c : Checkpoint) :
    let σ := (System.run ops).store
    (c.Within s σ →
      (∀ lead, lead <+: s.indent.toList → Text.byteLength lead = c.indentLength →
        ∃ σ', s.reset c σ = .ok (σ', ⟨s.level, String.ofList lead⟩) ∧
          s.CutTo c.length σ ⟨s.level, String.ofList lead⟩ σ') ∧
      ((∀ lead, lead <+: s.indent.toList → Text.byteLength lead ≠ c.indentLength) →
        s.reset c σ = .error .splitCharacter ∧ ∃ ch ∈ s.indent.toList, ch.utf8Size ≠ 1)) ∧
    (¬ c.Within s σ →
      (∃ e, s.reset c σ = .error (.error e) ∧ e.category = .stackUnderflow) ∧
      ∀ n k, (System.run ops).live[n]? = some s → (System.run ops).checkpoints[k]? = some c →
        System.run (ops ++ [.reset n k]) = System.run ops) := by
  intro σ
  have sound := System.run_sound ops
  refine ⟨fun within => ⟨fun lead starts size => ?_, fun splits => ?_⟩, fun outside => ?_⟩
  · exact Stack.reset_cut sound.store (sound.live s hs) within starts size
  · refine ⟨Stack.reset_split within splits, ?_⟩
    by_contra narrow
    push Not at narrow
    obtain ⟨lead, starts, size⟩ :=
      Stack.lead_of_narrow narrow ((Text.byteLength_toList _).symm ▸ within.indent)
    exact splits lead starts size
  · obtain ⟨e, refused, category⟩ := Stack.reset_outside outside
    refine ⟨⟨e, refused, category⟩, fun n k live checkpoint => ?_⟩
    have stepped : (System.run ops).step? (.reset n k) = none := by
      have refused : s.reset c (System.run ops).store = .error (.error e) := refused
      rw [System.step?, live, checkpoint]
      simp only [Option.bind_eq_bind, Option.bind_some, refused, Except.toOption, Option.bind_none]
    rw [System.run, List.foldl_append]
    exact System.step_of_none stepped

/-- A stack on a branch, with an indentation of a character of two bytes, and another stack. -/
def besideCheckpoint : List (Operation Nat) :=
  [.new, .push 0 "a" 1, .branch 0, .onBranch 0 "é", .push 1 "b" 2, .push 1 "a" 3, .indent 1 '\t',
    .new, .push 2 "x" 4, .checkpoint 2, .push 2 "y" 5, .indent 2 ' ', .indent 2 ' ', .checkpoint 2]

theorem run_reset_besideCheckpoint :
    let s : Stack := ⟨1, "\né\t"⟩
    let σ := (System.run besideCheckpoint).store
    s ∈ (System.run besideCheckpoint).live ∧
      (∃ σ', s.reset ⟨2, 3⟩ σ = .ok (σ', ⟨1, "\né"⟩) ∧ Stack.length ⟨1, "\né"⟩ σ' = 2 ∧
        Stack.get? ⟨1, "\né"⟩ σ' 1 = some 2) ∧
      ∃ e, s.reset ⟨4, 3⟩ σ = .error (.error e) ∧ e.category = .stackUnderflow := by
  intro s σ
  have member : s ∈ (System.run besideCheckpoint).live := by decide +kernel
  have second : s.get? σ 1 = some 2 := by decide +kernel
  have length : s.length σ = 3 := by decide +kernel
  have within : Checkpoint.Within ⟨2, 3⟩ s σ := by
    refine ⟨?_, ?_, ?_, ?_⟩ <;> decide +kernel
  have outside : ¬ Checkpoint.Within ⟨4, 3⟩ s σ := fun within => by
    have top : 4 ≤ s.length σ := within.top
    omega
  obtain ⟨σ', reset, cut⟩ :=
    ((run_reset besideCheckpoint s member ⟨2, 3⟩).1 within).1 ['\n', 'é'] (by decide) (by decide)
  refine ⟨member, ⟨σ', reset, cut.length, ?_⟩,
    ((run_reset besideCheckpoint s member ⟨4, 3⟩).2 outside).1⟩
  exact (cut.get? 1).trans second

/-- A stack with an indentation of a character of three bytes, and a checkpoint of another stack. -/
def besideWide : List (Operation Nat) :=
  [.new, .indent 0 ' ', .checkpoint 0, .new, .indent 1 '\u3000']

/-- The checkpoint is in the range of the stack, but cuts the character. -/
theorem reset_wide :
    let s : Stack := ⟨1, "\n\u3000"⟩
    let c : Checkpoint := ⟨0, 2⟩
    let σ := (System.run besideWide).store
    s ∈ (System.run besideWide).live ∧ c ∈ (System.run besideWide).checkpoints ∧ c.Within s σ ∧
      s.reset c σ = .error .splitCharacter := by
  intro s c σ
  have within : c.Within s σ := by
    refine ⟨?_, ?_, ?_, ?_⟩ <;> decide +kernel
  have cut : Text.splitAtByte? s.indent.toList c.indentLength = none := by decide +kernel
  refine ⟨by decide +kernel, by decide +kernel, within, ?_⟩
  rw [Stack.reset_within within, cut]

end MarkupTemplate.Scope

import MarkupTemplate.Proofs.Scope.Isolation
import MarkupTemplate.Proofs.Scoping.Indent

/-!
# Checkpoints

Going back to a checkpoint undoes whatever was done to a stack since, as long as the stack stayed above
the checkpoint. Bindings are undone one by one, along what each of them shadows, and the indentation is
cut at a number of bytes: `run_checkpoint` shows that the stack then shows what it showed when the checkpoint
was taken, and that going back a second time changes nothing.
-/

namespace MarkupTemplate.Scope

variable {α : Type}

namespace Stack

variable {s t t' : Stack}

/-- The indentation starts with a newline. -/
def HasMargin (s : Stack) : Prop := ['\n'] <+: s.indent.toList

theorem HasMargin.ne (h : s.HasMargin) : s.indent ≠ "" := by
  intro empty
  have newline : ['\n'] <+: s.indent.toList := h
  rw [empty] at newline
  exact absurd newline (by decide)

theorem hasMargin_withNewline (level : Nat) (indent : String) :
    HasMargin ⟨level, withNewline indent⟩ := by
  unfold HasMargin withNewline
  split
  · next rest start => exact ⟨rest, start.symm⟩
  · exact ⟨indent.toList, by simp⟩

/-- What an operation makes of a stack: of the two indentations one starts with the other, and the
newline in front stays. -/
structure Regrown (t t' : Stack) : Prop where
  level : t'.level = t.level
  indent : t'.indent.toList <+: t.indent.toList ∨ t.indent.toList <+: t'.indent.toList
  margin : t.HasMargin → t'.HasMargin

theorem Regrown.refl (t : Stack) : t.Regrown t := ⟨rfl, .inl (List.prefix_refl _), id⟩

theorem regrown_indentBy (t : Stack) (c : Char) : t.Regrown (t.indentBy c) := by
  have longer : t.indent.toList <+: (t.indentBy c).indent.toList := ⟨[c], by simp [indentBy]⟩
  exact ⟨rfl, .inr longer, fun margin => margin.trans longer⟩

/-- An indentation cut to a part that is not empty. -/
theorem regrown_cut {lead rest : List Char} (text : t.indent.toList = lead ++ rest)
    (kept : lead ≠ []) : t.Regrown { t with indent := String.ofList lead } := by
  have shorter : lead <+: t.indent.toList := ⟨rest, text.symm⟩
  refine ⟨rfl, .inl (by simpa using shorter), fun margin => ?_⟩
  unfold HasMargin at margin ⊢
  rw [String.toList_ofList]
  refine List.prefix_of_prefix_length_le margin shorter ?_
  exact List.length_pos_iff.mpr kept

theorem regrown_dedent (margin : t.HasMargin) (h : t.dedent = .ok t') : t.Regrown t' := by
  unfold dedent at h
  split at h
  · cases h
  · next long =>
    cases h
    obtain ⟨rest, text⟩ := margin
    have more : rest ≠ [] := by
      rintro rfl
      rw [← Text.byteLength_toList, ← text] at long
      exact long (by decide)
    refine regrown_cut (List.dropLast_append_getLast (l := t.indent.toList) ?_).symm ?_
    · rw [← text]
      simp
    · rw [← text, List.singleton_append, List.dropLast_cons_of_ne_nil more]
      simp

theorem regrown_reset {σ σ' : Store α} {c : Checkpoint} (h : t.reset c σ = .ok (σ', t')) :
    t.Regrown t' := by
  unfold reset at h
  split at h
  · cases h
  · split at h
    · cases h
    · next inside =>
      split at h
      · cases h
      · next lead rest cut =>
        cases h
        obtain ⟨text, size⟩ := Text.of_splitAtByte? cut
        refine regrown_cut text ?_
        rintro rfl
        exact inside (by simp [← size, Text.byteLength])

end Stack

namespace System

variable {sys sys' : System α} {op : Operation α} {s t t' : Stack} {c : Checkpoint}

/-- Every stack has the newline in front of its indentation. -/
def HasMargins (sys : System α) : Prop := ∀ s ∈ sys.live, s.HasMargin

/-- A stack after an operation is new, or what the operation makes of a stack. -/
theorem step?_regrown (margins : sys.HasMargins) (stepped : sys.step? op = some sys')
    (ht' : t' ∈ sys'.live) :
    (t'.level = sys.store.levels.size ∧ t'.HasMargin) ∨ ∃ t ∈ sys.live, t.Regrown t' := by
  have old : t' ∈ sys.live → ∃ t ∈ sys.live, t.Regrown t' := fun h => ⟨t', h, .refl t'⟩
  have replaced : ∀ {n : Nat} {t u : Stack}, sys.live[n]? = some t → t.Regrown u →
      t' ∈ sys.live.set n u → ∃ t ∈ sys.live, t.Regrown t' := by
    intro n t u ht regrown member
    rcases List.mem_or_eq_of_mem_set member with h | rfl
    · exact old h
    · exact ⟨t, List.mem_of_getElem? ht, regrown⟩
  cases op with
  | new =>
    cases stepped
    rcases List.mem_append.mp ht' with h | h
    · exact .inr (old h)
    · obtain rfl := List.mem_singleton.mp h
      exact .inl ⟨rfl, Stack.hasMargin_withNewline _ "\n"⟩
  | onBranch branch indent =>
    obtain ⟨b, hb, stepped⟩ := Option.bind_eq_some_iff.mp stepped
    cases stepped
    rcases List.mem_append.mp ht' with h | h
    · exact .inr (old h)
    · obtain rfl := List.mem_singleton.mp h
      exact .inl ⟨rfl, Stack.hasMargin_withNewline _ indent⟩
  | push stack name value | checkpoint stack | branch stack =>
    obtain ⟨t, ht, stepped⟩ := Option.bind_eq_some_iff.mp stepped
    cases stepped
    exact .inr (old ht')
  | pop stack | set stack index value =>
    obtain ⟨t, ht, stepped⟩ := Option.bind_eq_some_iff.mp stepped
    obtain ⟨_, _, stepped⟩ := Option.bind_eq_some_iff.mp stepped
    cases stepped
    exact .inr (old ht')
  | reset stack checkpoint =>
    obtain ⟨t, ht, stepped⟩ := Option.bind_eq_some_iff.mp stepped
    obtain ⟨c, hc, stepped⟩ := Option.bind_eq_some_iff.mp stepped
    obtain ⟨⟨store, u⟩, reset, stepped⟩ := Option.bind_eq_some_iff.mp stepped
    cases stepped
    exact .inr (replaced ht (Stack.regrown_reset (toOption_eq_some reset)) ht')
  | indent stack c =>
    obtain ⟨t, ht, stepped⟩ := Option.bind_eq_some_iff.mp stepped
    cases stepped
    exact .inr (replaced ht (t.regrown_indentBy c) ht')
  | dedent stack =>
    obtain ⟨t, ht, stepped⟩ := Option.bind_eq_some_iff.mp stepped
    obtain ⟨u, dedent, stepped⟩ := Option.bind_eq_some_iff.mp stepped
    cases stepped
    have margin := margins t (List.mem_of_getElem? ht)
    exact .inr (replaced ht (Stack.regrown_dedent margin (toOption_eq_some dedent)) ht')
  | drop stack =>
    obtain ⟨t, ht, stepped⟩ := Option.bind_eq_some_iff.mp stepped
    cases stepped
    exact .inr (old (List.mem_of_mem_eraseIdx ht'))

theorem step_hasMargins (h : sys.HasMargins) (op : Operation α) : (sys.step op).HasMargins := by
  cases stepped : sys.step? op with
  | none => rwa [step_of_none stepped]
  | some sys' =>
    rw [step_of_some stepped]
    intro t' ht'
    rcases step?_regrown h stepped ht' with ⟨-, margin⟩ | ⟨t, ht, regrown⟩
    · exact margin
    · exact regrown.margin (h t ht)

/-! ### Staying above a checkpoint -/

/-- An operation stays above a checkpoint of a stack: it works on a stack that is newer, or is refused,
or sets no position below the checkpoint and leaves the stack there, with no fewer positions and no
shorter an indentation than at the checkpoint. -/
def StaysAbove (s : Stack) (c : Checkpoint) (sys : System α) (op : Operation α) : Prop :=
  ∀ t sys', sys.target? op = some t → sys.step? op = some sys' →
    s.level < t.level ∨
    (t.level = s.level ∧ (∀ index ∈ op.index?, c.length ≤ index) ∧
      c.length ≤ sys'.store.length s.level ∧
      ∃ t' ∈ sys'.live, t'.level = s.level ∧ c.indentLength ≤ t'.indent.utf8ByteSize)

instance (s : Stack) (c : Checkpoint) (sys : System α) (op : Operation α) :
    Decidable (StaysAbove s c sys op) :=
  decidable_of_iff (∀ t ∈ sys.target? op, ∀ sys' ∈ sys.step? op, s.level < t.level ∨
      (t.level = s.level ∧ (∀ index ∈ op.index?, c.length ≤ index) ∧
        c.length ≤ sys'.store.length s.level ∧
        ∃ t' ∈ sys'.live, t'.level = s.level ∧ c.indentLength ≤ t'.indent.utf8ByteSize))
    ⟨fun h t sys' ht stepped => h t ht sys' stepped, fun h t ht sys' stepped => h t sys' ht stepped⟩

/-- Each of some operations stays above a checkpoint of a stack when its turn comes. -/
def AllStayAbove (s : Stack) (c : Checkpoint) : System α → List (Operation α) → Prop
  | _, [] => True
  | sys, op :: ops => StaysAbove s c sys op ∧ AllStayAbove s c (sys.step op) ops

instance decideAllStayAbove (s : Stack) (c : Checkpoint) : (sys : System α) → (ops : List (Operation α)) →
    Decidable (AllStayAbove s c sys ops)
  | _, [] => isTrue trivial
  | sys, op :: ops =>
    have := decideAllStayAbove s c (sys.step op) ops
    inferInstanceAs (Decidable (StaysAbove s c sys op ∧ AllStayAbove s c (sys.step op) ops))

/-- What a system keeps of a stack and a store while it stays above the position that the stack had
then: the lower bindings, and the start of the indentation. -/
structure Above (s : Stack) (σ : Store α) (sys : System α) : Prop where
  sound : sys.Sound
  distinct : (sys.live.map (·.level)).Nodup
  margins : sys.HasMargins
  agree : σ.Agree sys.store (s.branch σ)
  length : s.length σ ≤ sys.store.length s.level
  stack : ∃ t ∈ sys.live, t.level = s.level ∧ s.indent.toList <+: t.indent.toList

variable {σ : Store α}

theorem Above.here (sound : sys.Sound) (distinct : (sys.live.map (·.level)).Nodup)
    (margins : sys.HasMargins) (hs : s ∈ sys.live) : Above s sys.store sys :=
  ⟨sound, distinct, margins, .refl _ (sound.live s hs), Nat.le_refl _,
    s, hs, rfl, List.prefix_refl _⟩

/-- Of two stacks whose indentations both stand in a third, one starts with the other. -/
theorem lead_of_regrown (lead : s.indent.toList <+: t.indent.toList) (regrown : t.Regrown t')
    (long : s.indent.utf8ByteSize ≤ t'.indent.utf8ByteSize) :
    s.indent.toList <+: t'.indent.toList := by
  rcases regrown.indent with shorter | longer
  · rcases List.prefix_or_prefix_of_prefix lead shorter with inside | outside
    · exact inside
    · have size : Text.byteLength s.indent.toList ≤ Text.byteLength t'.indent.toList := by
        rwa [Text.byteLength_toList, Text.byteLength_toList]
      exact (Text.eq_of_lead outside size) ▸ List.prefix_refl _
  · exact lead.trans longer

theorem Above.step (h : Above s σ sys) (stays : StaysAbove s (s.checkpoint σ) sys op) :
    Above s σ (sys.step op) := by
  cases stepped : sys.step? op with
  | none => rwa [step_of_none stepped]
  | some sys' =>
    have sound := step_sound h.sound op
    have distinct := step_distinct h.sound h.distinct op
    have margins := step_hasMargins h.margins op
    rw [step_of_some stepped] at sound distinct margins ⊢
    obtain ⟨t, ht, level, lead⟩ := h.stack
    have inside : s.level < sys.store.levels.size := level ▸ h.sound.live t ht
    have agree : sys.store.Agree sys'.store (s.branch σ) :=
      step?_agree stepped inside fun u target => by
        rcases stays u sys' target stepped with newer | ⟨same, written, long, -⟩
        · exact .inl newer
        · exact .inr ⟨same, written, h.length, long⟩
    by_cases works : ∃ u, sys.target? op = some u ∧ u.level = s.level
    · obtain ⟨u, target, same⟩ := works
      rcases stays u sys' target stepped with newer | ⟨-, -, long, t', ht', level', deep⟩
      · omega
      · refine ⟨sound, distinct, margins, h.agree.trans agree, long, t', ht', level', ?_⟩
        rcases step?_regrown h.margins stepped ht' with ⟨new, -⟩ | ⟨v, hv, regrown⟩
        · omega
        · obtain rfl : v = t := by
            refine List.inj_on_of_nodup_map h.distinct hv ht ?_
            rw [← regrown.level, level', level]
          exact lead_of_regrown lead regrown deep
    · have other : ∀ u, sys.target? op = some u → u.level ≠ s.level :=
        fun u target same => works ⟨u, target, same⟩
      refine ⟨sound, distinct, margins, h.agree.trans agree, ?_, t, ?_, level, lead⟩
      · rw [Store.length, step?_level stepped inside other]
        exact h.length
      · exact step?_live stepped ht fun u target same => other u target (same ▸ level)

theorem Above.steps {more : List (Operation α)} (h : Above s σ sys)
    (stay : AllStayAbove s (s.checkpoint σ) sys more) : Above s σ (more.foldl System.step sys) := by
  induction more generalizing sys with
  | nil => exact h
  | cons op more ih => exact ih (h.step stay.1) stay.2

theorem run_hasMargins (ops : List (Operation α)) : (run ops).HasMargins := by
  suffices ∀ sys : System α, sys.HasMargins → (ops.foldl step sys).HasMargins from
    this _ (by simp [HasMargins])
  induction ops with
  | nil => exact fun sys h => h
  | cons op ops ih => exact fun sys h => ih _ (step_hasMargins h op)

end System

/-! ### Going back -/

namespace Stack

variable {σ σ' : Store α} {s t : Stack}

theorem trunkLength_le_length (s : Stack) (σ : Store α) : s.trunkLength σ ≤ s.length σ := by
  rw [s.length_eq]
  exact Nat.le_add_right _ _

/-- Stores that agree on all positions of a stack show the same on it. -/
theorem sameView_of_agree_branch (wf : σ.WellFormed) (wf' : σ'.WellFormed)
    (agree : σ.Agree σ' (s.branch σ)) (length : s.length σ' = s.length σ) : s.SameView σ σ' := by
  have bindings : ∀ i < s.length σ, σ'.bindingAt? s.level i = σ.bindingAt? s.level i :=
    fun i inside => agree.bindingAt?_eq wf wf' (.inr ⟨rfl, inside⟩)
  refine ⟨length, fun index => ?_, fun name => ?_⟩
  · rw [Stack.get?, Stack.get?, length]
    split
    · next inside => rw [Store.get?_eq_bindingAt?, Store.get?_eq_bindingAt?, bindings index inside]
    · rfl
  · have same : σ'.length s.level = σ.length s.level := length
    rw [Stack.find?, Stack.find?, Store.find?_eq_scan wf, Store.find?_eq_scan wf', same]
    exact Store.scan_congr bindings

theorem modify_popMany_zero (σ : Store α) (id : Nat) : σ.modify id (.popMany 0) = σ := by
  have levels : (σ.modify id (.popMany 0)).levels = σ.levels := by
    apply Array.ext_getElem?
    intro k
    rw [Store.levels_modify]
    split
    · cases σ.levels[k]? <;> rfl
    · rfl
  exact congrArg Store.mk levels

/-- A stack of the same level with a longer indentation goes back to a checkpoint. -/
theorem reset_of_above {c : Checkpoint} (nonempty : s.indent ≠ "") (level : t.level = s.level)
    (lead : s.indent.toList <+: t.indent.toList) (indent : c.indentLength = s.indent.utf8ByteSize)
    (own : t.trunkLength σ ≤ c.length) (below : c.length ≤ t.length σ) :
    t.reset c σ = .ok (σ.modify s.level (.popMany (s.length σ - c.length)), s) := by
  have positive := utf8ByteSize_pos nonempty
  obtain ⟨rest, text⟩ := lead
  have size : t.indent.utf8ByteSize = s.indent.utf8ByteSize + Text.byteLength rest := by
    rw [← Text.byteLength_toList, ← text, Text.byteLength_append, Text.byteLength_toList]
  rw [reset, if_neg, if_neg, indent, ← text, ← Text.byteLength_toList, Text.splitAtByte?_append]
  · simp only [String.ofList_toList, level, Stack.length]
  · simp only [Bool.or_eq_true, decide_eq_true_eq, beq_iff_eq]
    omega
  · simp only [Bool.or_eq_true, decide_eq_true_eq]
    omega

end Stack

/-- After any operations, take a checkpoint of a stack. Whatever more is done that stays above the
checkpoint, going back to it succeeds and gives the stack again with its indentation and, at every
position and under every name, what it had. Going back again changes nothing. -/
theorem run_checkpoint (ops more : List (Operation α)) (s : Stack)
    (hs : s ∈ (System.run ops).live)
    (stay : System.AllStayAbove s (s.checkpoint (System.run ops).store) (System.run ops) more) :
    let σ := (System.run ops).store
    let c := s.checkpoint σ
    let later := System.run (ops ++ more)
    ∃ t ∈ later.live, t.level = s.level ∧ ∃ σ', t.reset c later.store = .ok (σ', s) ∧
      s.SameView σ σ' ∧ (∀ i < s.length σ, σ'.bindingAt? s.level i = σ.bindingAt? s.level i) ∧
      s.reset c σ' = .ok (σ', s) := by
  intro σ c later
  have sound := System.run_sound ops
  have margins := System.run_hasMargins ops
  have nonempty := (margins s hs).ne
  have above : System.Above s σ later := by
    have here := System.Above.here sound (System.run_distinct ops) margins hs
    rw [show later = more.foldl System.step (System.run ops) from List.foldl_append]
    exact here.steps stay
  obtain ⟨t, ht, level, lead⟩ := above.stack
  have inside : s.level < later.store.levels.size := level ▸ above.sound.live t ht
  have own : s.trunkLength later.store ≤ c.length := by
    obtain ⟨l, l', hl, hl', trunk, -⟩ := above.agree.level
    have same : s.trunkLength later.store = s.trunkLength σ := by
      simp only [Stack.branch] at hl hl'
      simp only [Stack.trunkLength, Store.trunkLength, hl, hl', Level.trunkLength, trunk,
        Option.map_some]
    exact same ▸ s.trunkLength_le_length σ
  let σ' := later.store.modify s.level (.popMany (s.length later.store - c.length))
  have reset : t.reset c later.store = .ok (σ', s) :=
    Stack.reset_of_above nonempty level lead rfl (by rw [Stack.trunkLength, level]; exact own)
      (by rw [Stack.length, level]; exact above.length)
  obtain ⟨wf', -⟩ := Stack.wellFormed_reset above.sound.store reset
  have agree : σ.Agree σ' (s.branch σ) := above.agree.trans (Stack.agree_popMany inside)
  have length : s.length σ' = s.length σ := Stack.length_popMany inside own above.length
  have own' : s.trunkLength σ' ≤ c.length :=
    Nat.le_trans (s.trunkLength_le_length σ') (Nat.le_of_eq length)
  refine ⟨t, ht, level, σ', reset, ?_, ?_, ?_⟩
  · exact Stack.sameView_of_agree_branch sound.store wf' agree length
  · exact fun i below => agree.bindingAt?_eq sound.store wf' (.inr ⟨rfl, below⟩)
  · have again := Stack.reset_eq_ok nonempty rfl own' (Nat.le_of_eq length.symm)
    rwa [show s.length σ' - c.length = 0 from by rw [length]; exact Nat.sub_self _,
      Stack.modify_popMany_zero] at again

/-- A stack on a branch, with an indentation of two characters of two bytes each. -/
def beforeCheckpoint : List (Operation Nat) :=
  [.new, .push 0 "a" 1, .push 0 "b" 2, .branch 0, .onBranch 0 "é", .push 1 "a" 3, .indent 1 'é']

/-- Shadowing on the stack, a checkpoint that is gone back to, and another stack on a branch of it. -/
def sinceCheckpoint : List (Operation Nat) :=
  [.checkpoint 1, .push 1 "b" 4, .indent 1 '\t', .checkpoint 1, .push 1 "a" 5, .set 1 4 6,
    .indent 1 'é', .reset 1 1, .branch 1, .onBranch 1 "", .push 2 "b" 7, .pop 1, .dedent 1,
    .push 1 "b" 8, .set 1 3 9, .indent 1 'λ']

theorem run_checkpoint_shadowing :
    let s : Stack := ⟨1, "\néé"⟩
    let σ := (System.run beforeCheckpoint).store
    let later := System.run (beforeCheckpoint ++ sinceCheckpoint)
    s ∈ (System.run beforeCheckpoint).live ∧
      System.AllStayAbove s (s.checkpoint σ) (System.run beforeCheckpoint) sinceCheckpoint ∧
      ∃ t ∈ later.live, t.level = 1 ∧ ∃ σ', t.reset ⟨3, 5⟩ later.store = .ok (σ', s) ∧
        s.find? σ' "b" = s.find? σ "b" := by
  intro s σ later
  have member : s ∈ (System.run beforeCheckpoint).live := by decide +kernel
  have stay : System.AllStayAbove s (s.checkpoint σ) (System.run beforeCheckpoint)
      sinceCheckpoint := by decide +kernel
  obtain ⟨t, ht, level, σ', reset, view, -, -⟩ :=
    run_checkpoint beforeCheckpoint sinceCheckpoint s member stay
  exact ⟨member, stay, t, ht, level, σ', reset, view.find? "b"⟩

end MarkupTemplate.Scope

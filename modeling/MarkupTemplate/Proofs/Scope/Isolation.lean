import Mathlib.Data.List.Nodup
import MarkupTemplate.Proofs.Scope.System
import MarkupTemplate.Proofs.Scoping.Agree

/-!
# Isolation of branches

A stack on a branch sees the positions that the branch was taken over, as long as they stay where they
are. `run_isolation` shows that nothing else that is done to the stack below or to other stacks on
branches of it reaches the stack, and that nothing done to the stack reaches those.
-/

namespace MarkupTemplate.Scope

variable {α : Type}

/-! ### What a stack shows -/

/-- The branch that a stack grows on. -/
def Stack.trunk? (s : Stack) (σ : Store α) : Option Branch := σ.levels[s.level]?.bind (·.trunk)

/-- A level grows on a branch of another one, or on a branch of a level that does. -/
inductive Store.GrownOn (σ : Store α) : Nat → Nat → Prop where
  | branch {id : Nat} {l : Level α} {b : Branch} (level : σ.levels[id]? = some l)
      (trunk : l.trunk = some b) : σ.GrownOn id b.level
  | above {id base : Nat} {l : Level α} {b : Branch} (level : σ.levels[id]? = some l)
      (trunk : l.trunk = some b) (grown : σ.GrownOn b.level base) : σ.GrownOn id base

theorem Store.GrownOn.lt {σ : Store α} (wf : σ.WellFormed) {id base : Nat}
    (h : σ.GrownOn id base) : base < id := by
  induction h with
  | branch level trunk => exact wf.older _ _ _ level trunk
  | above level trunk _ ih => exact Nat.lt_trans ih (wf.older _ _ _ level trunk)

/-- A stack has the same length, values and visible names in two stores. -/
structure Stack.SameView (s : Stack) (σ σ' : Store α) : Prop where
  length : s.length σ' = s.length σ
  get? : ∀ index, s.get? σ' index = s.get? σ index
  find? : ∀ name, s.find? σ' name = s.find? σ name

namespace Stack

variable {σ σ' σ'' : Store α} {s : Stack}

theorem SameView.refl (s : Stack) (σ : Store α) : s.SameView σ σ :=
  ⟨rfl, fun _ => rfl, fun _ => rfl⟩

theorem SameView.trans (h : s.SameView σ σ') (h' : s.SameView σ' σ'') : s.SameView σ σ'' :=
  ⟨h'.length.trans h.length, fun i => (h'.get? i).trans (h.get? i),
    fun name => (h'.find? name).trans (h.find? name)⟩

theorem trunk?_congr (level : σ'.levels[s.level]? = σ.levels[s.level]?) :
    s.trunk? σ' = s.trunk? σ := by
  rw [trunk?, trunk?, level]

theorem trunk?_lt (wf : σ.WellFormed) {b : Branch} (h : s.trunk? σ = some b) :
    b.level < s.level := by
  obtain ⟨l, level, trunk⟩ := Option.bind_eq_some_iff.mp h
  exact wf.older _ _ _ level trunk

theorem grownOn_of_trunk? {b : Branch} (h : s.trunk? σ = some b) : σ.GrownOn s.level b.level := by
  obtain ⟨l, level, trunk⟩ := Option.bind_eq_some_iff.mp h
  exact .branch level trunk

/-- A stack shows the same if its level is the same and the stores agree on the branch below it. -/
theorem sameView_of_agree (wf : σ.WellFormed) (wf' : σ'.WellFormed)
    (level : σ'.levels[s.level]? = σ.levels[s.level]?)
    (trunk : ∀ b, s.trunk? σ = some b → σ.Agree σ' b) : s.SameView σ σ' := by
  have length : s.length σ' = s.length σ := by
    simp only [Stack.length, Store.length, level]
  have bindings : ∀ i, σ'.bindingAt? s.level i = σ.bindingAt? s.level i := by
    intro i
    cases found : σ.levels[s.level]? with
    | none => rw [Store.bindingAt?_none found, Store.bindingAt?_none (level.trans found)]
    | some l =>
      rcases Nat.lt_or_ge i l.trunkLength with low | own
      · obtain ⟨b, here⟩ : ∃ b, l.trunk = some b := by
          cases here : l.trunk with
          | none => simp [Level.trunkLength, here] at low
          | some b => exact ⟨b, rfl⟩
        have below : i < b.length := by simpa [Level.trunkLength, here] using low
        have agree := trunk b (by rw [trunk?, found]; exact here)
        rw [Store.bindingAt?_trunk wf found here below,
          Store.bindingAt?_trunk wf' (level.trans found) here below]
        exact agree.bindingAt?_eq wf wf' (.inr ⟨rfl, below⟩)
      · rw [Store.bindingAt?_own found own, Store.bindingAt?_own (level.trans found) own]
  refine ⟨length, fun index => ?_, fun name => ?_⟩
  · simp only [Stack.get?, length, Store.get?_eq_bindingAt?, bindings]
  · have same : σ'.length s.level = σ.length s.level := length
    rw [Stack.find?, Stack.find?, Store.find?_eq_scan wf, Store.find?_eq_scan wf', same]
    exact Store.scan_congr fun i _ => bindings i

end Stack

/-! ### What an operation changes -/

/-- A level after an operation that wrote a position: the trunk is the same, and so is every other
binding that is still there. -/
structure Level.Kept (written : Option Nat) (l l' : Level α) : Prop where
  trunk : l'.trunk = l.trunk
  bindings : ∀ k, k < l.bindings.size → k < l'.bindings.size →
    written ≠ some (l.trunkLength + k) → l'.bindings[k]? = l.bindings[k]?

namespace Level

theorem Kept.refl (l : Level α) : l.Kept none l := ⟨rfl, fun _ _ _ _ => rfl⟩

theorem kept_push (l : Level α) (name : String) (value : α) : l.Kept none (l.push name value) :=
  ⟨rfl, fun k below _ _ => by simp [push, Array.getElem?_push, Nat.ne_of_lt below]⟩

theorem kept_pop {l l' : Level α} {binding : String × α} (h : l.pop? = some (binding, l')) :
    l.Kept none l' := by
  obtain ⟨b, last, _, trunk, bindings, _⟩ := pop?_eq_some h
  refine ⟨trunk, fun k _ below _ => ?_⟩
  rw [bindings, Array.size_pop] at below
  rw [bindings, Array.getElem?_pop, if_pos below]

theorem kept_popMany (l : Level α) (n : Nat) : l.Kept none (l.popMany n) := by
  refine ⟨l.trunk_popMany n, fun k _ below _ => ?_⟩
  rw [size_popMany] at below
  rw [bindings_popMany, if_pos below]

theorem kept_set (l : Level α) (index : Nat) (value : α) (own : l.trunkLength ≤ index) :
    l.Kept (some index) (l.set index value) := by
  refine ⟨rfl, fun k _ _ other => ?_⟩
  rw [bindings_set, if_neg]
  intro same
  exact other (congrArg some (by omega))

theorem kept_clear (l : Level α) : l.Kept none l.clear :=
  ⟨rfl, fun k _ below _ => absurd below (Nat.not_lt_zero k)⟩

end Level

/-- The place of the stack that an operation works on. -/
def Operation.stack? : Operation α → Option Nat
  | .new | .onBranch .. => none
  | .push stack .. | .pop stack | .set stack .. | .checkpoint stack | .reset stack _
  | .branch stack | .indent stack _ | .dedent stack | .drop stack => some stack

/-- The position that an operation writes. -/
def Operation.index? : Operation α → Option Nat
  | .set _ index _ => some index
  | _ => none

namespace System

variable {sys sys' : System α} {op : Operation α} {s t : Stack} {b : Branch}

/-- The stack that an operation works on. -/
def target? (sys : System α) (op : Operation α) : Option Stack := op.stack?.bind (sys.live[·]?)

/-- An operation on the stack at a place changes nothing but the level of the stack, and replaces or
removes the stack. -/
structure Works (sys : System α) (op : Operation α) (n : Nat) (t : Stack) (sys' : System α) :
    Prop where
  place : op.stack? = some n
  stack : sys.live[n]? = some t
  size : sys'.store.levels.size = sys.store.levels.size
  others : ∀ id, id ≠ t.level → sys'.store.levels[id]? = sys.store.levels[id]?
  level : ∀ l, sys.store.levels[t.level]? = some l →
    ∃ l', sys'.store.levels[t.level]? = some l' ∧ l.Kept op.index? l'
  live : sys'.live = sys.live.eraseIdx n ∨
    ∃ t', t'.level = t.level ∧ sys'.live = sys.live.set n t'

theorem Works.of_modify {n : Nat} (place : op.stack? = some n) (stack : sys.live[n]? = some t)
    {f : Level α → Level α} (store : sys'.store = sys.store.modify t.level f)
    (kept : ∀ l, sys.store.levels[t.level]? = some l → l.Kept op.index? (f l))
    (live : sys'.live = sys.live ∨ sys'.live = sys.live.eraseIdx n) : Works sys op n t sys' := by
  refine ⟨place, stack, by simp [store], fun id other => ?_, fun l hl => ⟨f l, ?_, kept l hl⟩, ?_⟩
  · rw [store, Store.levels_modify, if_neg (Ne.symm other)]
  · rw [store, Store.levels_modify, if_pos rfl, hl, Option.map_some]
  · rcases live with same | erased
    · obtain ⟨inside, rfl⟩ := List.getElem?_eq_some_iff.mp stack
      exact .inr ⟨_, rfl, by rw [same, List.set_getElem_self]⟩
    · exact .inl erased

theorem Works.of_stack {n : Nat} (place : op.stack? = some n) (stack : sys.live[n]? = some t)
    (store : sys'.store = sys.store) (written : op.index? = none) {t' : Stack}
    (level : t'.level = t.level) (live : sys'.live = sys.live.set n t') :
    Works sys op n t sys' := by
  refine ⟨place, stack, by rw [store], fun id _ => by rw [store], fun l hl => ⟨l, ?_, ?_⟩,
    .inr ⟨t', level, live⟩⟩
  · rw [store, hl]
  · rw [written]; exact .refl l

/-- What an operation can do: it adds a stack on a new level, or works on a stack. -/
theorem step?_cases (stepped : sys.step? op = some sys') :
    (op.stack? = none ∧ ∃ l s, sys'.store = (sys.store.add l).1 ∧ sys'.live = sys.live ++ [s] ∧
      s.level = sys.store.levels.size) ∨ ∃ n t, Works sys op n t sys' := by
  cases op with
  | new => cases stepped; exact .inl ⟨rfl, _, _, rfl, rfl, rfl⟩
  | onBranch branch indent =>
    obtain ⟨b, hb, stepped⟩ := Option.bind_eq_some_iff.mp stepped
    cases stepped
    exact .inl ⟨rfl, _, _, rfl, rfl, rfl⟩
  | push stack name value =>
    obtain ⟨t, ht, stepped⟩ := Option.bind_eq_some_iff.mp stepped
    cases stepped
    exact .inr ⟨stack, t, .of_modify rfl ht rfl (fun l _ => l.kept_push name value) (.inl rfl)⟩
  | pop stack =>
    obtain ⟨t, ht, stepped⟩ := Option.bind_eq_some_iff.mp stepped
    obtain ⟨⟨binding, store⟩, popped, stepped⟩ := Option.bind_eq_some_iff.mp stepped
    cases stepped
    have popped := toOption_eq_some popped
    unfold Stack.pop at popped
    split at popped
    · next l' top =>
      cases popped
      refine .inr ⟨stack, t, .of_modify rfl ht rfl (fun l hl => ?_) (.inl rfl)⟩
      rw [hl] at top
      exact Level.kept_pop top
    · cases popped
  | set stack index value =>
    obtain ⟨t, ht, stepped⟩ := Option.bind_eq_some_iff.mp stepped
    obtain ⟨store, set, stepped⟩ := Option.bind_eq_some_iff.mp stepped
    cases stepped
    have set := toOption_eq_some set
    unfold Stack.set at set
    split at set
    · cases set
    · next own =>
      split at set
      · cases set
        refine .inr ⟨stack, t, .of_modify rfl ht rfl (fun l hl => ?_) (.inl rfl)⟩
        refine l.kept_set index value ?_
        simpa [Stack.trunkLength, Store.trunkLength, hl] using own
      · cases set
  | checkpoint stack =>
    obtain ⟨t, ht, stepped⟩ := Option.bind_eq_some_iff.mp stepped
    cases stepped
    obtain ⟨inside, rfl⟩ := List.getElem?_eq_some_iff.mp ht
    exact .inr ⟨stack, _, .of_stack rfl ht rfl rfl rfl (List.set_getElem_self inside).symm⟩
  | reset stack checkpoint =>
    obtain ⟨t, ht, stepped⟩ := Option.bind_eq_some_iff.mp stepped
    obtain ⟨c, hc, stepped⟩ := Option.bind_eq_some_iff.mp stepped
    obtain ⟨⟨store, t'⟩, reset, stepped⟩ := Option.bind_eq_some_iff.mp stepped
    cases stepped
    obtain ⟨_, _, level, rfl⟩ := Stack.reset_cases (toOption_eq_some reset)
    have works : Works sys (.reset stack checkpoint) stack t
        { sys with store := sys.store.modify t.level (.popMany (t.length sys.store - c.length)) } :=
      .of_modify rfl ht rfl (fun l _ => l.kept_popMany _) (.inl rfl)
    exact .inr ⟨stack, t, { works with live := .inr ⟨t', level, rfl⟩ }⟩
  | branch stack =>
    obtain ⟨t, ht, stepped⟩ := Option.bind_eq_some_iff.mp stepped
    cases stepped
    obtain ⟨inside, rfl⟩ := List.getElem?_eq_some_iff.mp ht
    exact .inr ⟨stack, _, .of_stack rfl ht rfl rfl rfl (List.set_getElem_self inside).symm⟩
  | indent stack c =>
    obtain ⟨t, ht, stepped⟩ := Option.bind_eq_some_iff.mp stepped
    cases stepped
    have level : (t.indentBy c).level = t.level := rfl
    exact .inr ⟨stack, t, .of_stack rfl ht rfl rfl level rfl⟩
  | dedent stack =>
    obtain ⟨t, ht, stepped⟩ := Option.bind_eq_some_iff.mp stepped
    obtain ⟨t', dedent, stepped⟩ := Option.bind_eq_some_iff.mp stepped
    cases stepped
    have level : t'.level = t.level := by
      have dedent := toOption_eq_some dedent
      unfold Stack.dedent at dedent
      split at dedent <;> cases dedent
      rfl
    exact .inr ⟨stack, t, .of_stack rfl ht rfl rfl level rfl⟩
  | drop stack =>
    obtain ⟨t, ht, stepped⟩ := Option.bind_eq_some_iff.mp stepped
    cases stepped
    exact .inr ⟨stack, t, .of_modify rfl ht rfl (fun l _ => l.kept_clear) (.inr rfl)⟩

theorem Works.target {n : Nat} (h : Works sys op n t sys') : sys.target? op = some t := by
  rw [target?, h.place]
  exact h.stack

/-! ### What an operation leaves alone -/

/-- A level that is not that of the stack worked on stays as it is. -/
theorem step?_level (stepped : sys.step? op = some sys') {id : Nat}
    (inside : id < sys.store.levels.size) (other : ∀ t, sys.target? op = some t → t.level ≠ id) :
    sys'.store.levels[id]? = sys.store.levels[id]? := by
  rcases step?_cases stepped with ⟨_, l, s, store, -⟩ | ⟨n, t, works⟩
  · rw [store, Store.levels_add, if_neg (Nat.ne_of_lt inside)]
  · exact works.others id (Ne.symm (other t works.target))

/-- A stack that is not worked on stays. -/
theorem step?_live (stepped : sys.step? op = some sys') (hs : s ∈ sys.live)
    (other : ∀ t, sys.target? op = some t → t ≠ s) : s ∈ sys'.live := by
  rcases step?_cases stepped with ⟨_, l, new, _, live, -⟩ | ⟨n, t, works⟩
  · exact live ▸ List.mem_append_left _ hs
  · obtain ⟨i, found⟩ := List.mem_iff_getElem?.mp hs
    have place : i ≠ n := by
      rintro rfl
      exact other t works.target (Option.some.inj (works.stack.symm.trans found))
    rcases works.live with live | ⟨t', -, live⟩
    · rw [live]
      exact List.mem_eraseIdx_iff_getElem?.mpr ⟨i, place, found⟩
    · rw [live]
      exact List.mem_iff_getElem?.mpr ⟨i, by rw [List.getElem?_set_ne (Ne.symm place), found]⟩

/-- An operation keeps the positions of a branch if it works on a later level, or on the level of the
branch without writing a position of the branch or leaving the level shorter than that. -/
theorem step?_agree (stepped : sys.step? op = some sys')
    (inside : b.level < sys.store.levels.size)
    (spared : ∀ t, sys.target? op = some t → b.level < t.level ∨
      t.level = b.level ∧ (∀ index ∈ op.index?, b.length ≤ index) ∧
        b.length ≤ sys.store.length b.level ∧ b.length ≤ sys'.store.length b.level) :
    sys.store.Agree sys'.store b := by
  have hl := Array.getElem?_eq_getElem inside
  rcases step?_cases stepped with ⟨_, l, s, store, -⟩ | ⟨n, t, works⟩
  · rw [store]
    exact Store.agree_add inside l
  · rcases spared t works.target with above | ⟨same, written, before, after⟩
    · exact ⟨fun id low => works.others id (by omega), _, _, hl,
        (works.others _ (by omega)).trans hl, rfl, fun _ _ => rfl⟩
    · obtain ⟨l', hl', kept⟩ := works.level _ (by rw [same]; exact hl)
      rw [same] at hl'
      refine ⟨fun id low => works.others id (by omega), _, l', hl, hl', kept.trunk, ?_⟩
      intro k low
      have length' : l'.trunkLength = sys.store.levels[b.level].trunkLength := by
        rw [Level.trunkLength, kept.trunk]
        rfl
      rw [Store.length_of_level hl] at before
      rw [Store.length_of_level hl', length'] at after
      rw [kept.bindings k (by omega) (by omega)]
      intro write
      have := written _ write
      omega

theorem step_of_some (stepped : sys.step? op = some sys') : sys.step op = sys' := by
  rw [step, stepped, Option.getD_some]

theorem step_of_none (refused : sys.step? op = none) : sys.step op = sys := by
  rw [step, refused, Option.getD_none]

/-- Stacks are told apart by their levels. -/
theorem step_distinct (h : sys.Sound) (distinct : (sys.live.map (·.level)).Nodup)
    (op : Operation α) : ((sys.step op).live.map (·.level)).Nodup := by
  cases stepped : sys.step? op with
  | none => rwa [step_of_none stepped]
  | some sys' =>
    rw [step_of_some stepped]
    rcases step?_cases stepped with ⟨_, l, s, _, live, level⟩ | ⟨n, t, works⟩
    · rw [live, List.map_append, List.nodup_append]
      refine ⟨distinct, by simp, fun id member new same => ?_⟩
      obtain ⟨u, hu, rfl⟩ := List.mem_map.mp member
      have old := h.live u hu
      simp [level] at same
      omega
    · rcases works.live with live | ⟨t', level, live⟩
      · rw [live]
        exact distinct.sublist ((List.eraseIdx_sublist _ n).map _)
      · rw [live, List.map_set, level]
        have here : (sys.live.map (·.level))[n]? = some t.level := by
          rw [List.getElem?_map, works.stack, Option.map_some]
        obtain ⟨inside, same⟩ := List.getElem?_eq_some_iff.mp here
        rwa [← same, List.set_getElem_self]

theorem run_distinct (ops : List (Operation α)) : ((run ops).live.map (·.level)).Nodup := by
  suffices ∀ sys : System α, sys.Sound → (sys.live.map (·.level)).Nodup →
      ((ops.foldl step sys).live.map (·.level)).Nodup from this _ sound_empty List.nodup_nil
  induction ops with
  | nil => exact fun sys _ distinct => distinct
  | cons op ops ih =>
    exact fun sys h distinct => ih _ (step_sound h op) (step_distinct h distinct op)

/-- Two stacks of one system are of different levels. -/
theorem level_ne (distinct : (sys.live.map (·.level)).Nodup) (hs : s ∈ sys.live) (ht : t ∈ sys.live)
    (other : t ≠ s) : t.level ≠ s.level := by
  intro same
  exact other (List.inj_on_of_nodup_map distinct ht hs same)

/-- An operation on another stack changes nothing of a stack and of what it shows, if it keeps the
branch that the stack grows on. -/
theorem step_sameView (h : sys.Sound) (hs : s ∈ sys.live)
    (other : ∀ t, sys.target? op = some t → t.level ≠ s.level)
    (spared : ∀ b, s.trunk? sys.store = some b → ∀ t, sys.target? op = some t →
      b.level < t.level ∨ t.level = b.level ∧ (∀ index ∈ op.index?, b.length ≤ index) ∧
        b.length ≤ sys.store.length b.level ∧ b.length ≤ (sys.step op).store.length b.level) :
    s ∈ (sys.step op).live ∧ (sys.step op).store.levels[s.level]? = sys.store.levels[s.level]? ∧
      s.SameView sys.store (sys.step op).store := by
  cases stepped : sys.step? op with
  | none =>
    rw [step_of_none stepped]
    exact ⟨hs, rfl, .refl s _⟩
  | some sys' =>
    rw [step_of_some stepped] at spared ⊢
    have inside := h.live s hs
    have level := step?_level stepped inside other
    refine ⟨step?_live stepped hs fun t ht same => other t ht (congrArg Stack.level same), level, ?_⟩
    refine Stack.sameView_of_agree h.store (step?_sound h stepped).store level fun b trunk => ?_
    exact step?_agree stepped (Nat.lt_trans (Stack.trunk?_lt h.store trunk) inside)
      (spared b trunk)

/-! ### Runs -/

/-- An operation spares a branch and a stack on it: if it works on the level of the branch it writes
no position of the branch and leaves the level no shorter than that, and otherwise it works on another
stack that grows on a branch of that level, directly or not. -/
def Spares (b : Branch) (s : Stack) (sys : System α) (op : Operation α) : Prop :=
  ∀ t, sys.target? op = some t →
    (t.level = b.level ∧ (∀ index ∈ op.index?, b.length ≤ index) ∧
      b.length ≤ (sys.step op).store.length b.level) ∨
    (t ≠ s ∧ sys.store.GrownOn t.level b.level)

/-- Each of some operations spares a branch and a stack on it when its turn comes. -/
def SparesAll (b : Branch) (s : Stack) : System α → List (Operation α) → Prop
  | _, [] => True
  | sys, op :: ops => Spares b s sys op ∧ SparesAll b s (sys.step op) ops

/-- An operation on a stack would take away or write a position of its trunk. -/
def IntoTrunk (sys : System α) (s : Stack) : Operation α → Prop
  | .set _ index _ => index < s.trunkLength sys.store
  | .pop _ => s.length sys.store = s.trunkLength sys.store
  | .reset _ checkpoint => ∃ c, sys.checkpoints[checkpoint]? = some c ∧
      c.length < s.trunkLength sys.store
  | _ => False

theorem Spares.of_target (ht : sys.target? op = some t)
    (h : (t.level = b.level ∧ (∀ index ∈ op.index?, b.length ≤ index) ∧
      b.length ≤ (sys.step op).store.length b.level) ∨
      (t ≠ s ∧ sys.store.GrownOn t.level b.level)) : Spares b s sys op := by
  intro t' ht'
  obtain rfl := Option.some.inj (ht.symm.trans ht')
  exact h

theorem Spares.of_new (none : op.stack? = none) : Spares b s sys op := by
  intro t ht
  rw [target?, none] at ht
  cases ht

theorem Spares.spared (h : sys.Sound) (distinct : (sys.live.map (·.level)).Nodup)
    (hs : s ∈ sys.live) (trunk : s.trunk? sys.store = some b)
    (present : b.length ≤ sys.store.length b.level) (spares : Spares b s sys op)
    (ht : sys.target? op = some t) : t.level ≠ s.level ∧ (b.level < t.level ∨
      t.level = b.level ∧ (∀ index ∈ op.index?, b.length ≤ index) ∧
        b.length ≤ sys.store.length b.level ∧
        b.length ≤ (sys.step op).store.length b.level) := by
  obtain ⟨n, -, found⟩ := Option.bind_eq_some_iff.mp ht
  rcases spares t ht with ⟨same, written, after⟩ | ⟨other, grown⟩
  · have older := Stack.trunk?_lt h.store trunk
    exact ⟨by omega, .inr ⟨same, written, present, after⟩⟩
  · exact ⟨level_ne distinct hs (List.mem_of_getElem? found) other, .inl (grown.lt h.store)⟩

/-- The level of a branch keeps the positions of the branch as long as it is spared. -/
theorem Spares.present (h : sys.Sound) (trunk : s.trunk? sys.store = some b) (hs : s ∈ sys.live)
    (present : b.length ≤ sys.store.length b.level) (spares : Spares b s sys op) :
    b.length ≤ (sys.step op).store.length b.level := by
  by_cases works : ∃ t, sys.target? op = some t ∧ t.level = b.level
  · obtain ⟨t, ht, same⟩ := works
    rcases spares t ht with ⟨-, -, after⟩ | ⟨-, grown⟩
    · exact after
    · exact absurd same (Nat.ne_of_gt (grown.lt h.store))
  · cases stepped : sys.step? op with
    | none => rwa [step_of_none stepped]
    | some sys' =>
      have inside := Nat.lt_trans (Stack.trunk?_lt h.store trunk) (h.live s hs)
      have level := step?_level stepped inside fun t ht same => works ⟨t, ht, same⟩
      rwa [step_of_some stepped, Store.length, level]

theorem sparesAll_sameView {more : List (Operation α)} (h : sys.Sound)
    (distinct : (sys.live.map (·.level)).Nodup) (hs : s ∈ sys.live)
    (trunk : s.trunk? sys.store = some b) (present : b.length ≤ sys.store.length b.level)
    (spares : SparesAll b s sys more) :
    s ∈ (more.foldl step sys).live ∧ s.SameView sys.store (more.foldl step sys).store := by
  induction more generalizing sys with
  | nil => exact ⟨hs, .refl s _⟩
  | cons op more ih =>
    obtain ⟨first, others⟩ := spares
    have ⟨hs', level, same⟩ := step_sameView h hs
      (fun t ht => (first.spared h distinct hs trunk present ht).1)
      fun b' trunk' t ht => by
        obtain rfl := Option.some.inj (trunk.symm.trans trunk')
        exact (first.spared h distinct hs trunk present ht).2
    have ⟨live, view⟩ := ih (step_sound h op) (step_distinct h distinct op) hs'
      ((Stack.trunk?_congr level).trans trunk) (first.present h trunk hs present) others
    exact ⟨live, same.trans view⟩

theorem step?_intoTrunk (hs : sys.target? op = some s) (into : IntoTrunk sys s op) :
    sys.step? op = none := by
  obtain ⟨n, place, found⟩ := Option.bind_eq_some_iff.mp hs
  cases op with
  | set stack index value =>
    obtain rfl := Option.some.inj place
    simp only [step?, found, Option.bind_eq_bind, Option.bind_some]
    have into : index < s.trunkLength sys.store := into
    rw [Stack.set, if_pos into]
    rfl
  | pop stack =>
    obtain rfl := Option.some.inj place
    have bottom : sys.store.levels[s.level]?.bind (·.pop?) = none := by
      cases level : sys.store.levels[s.level]? with
      | none => rfl
      | some l =>
        have empty : l.bindings.size = 0 := by
          have into : s.length sys.store = s.trunkLength sys.store := into
          simp only [Stack.length, Stack.trunkLength, Store.length, Store.trunkLength, level,
            Option.map_some, Option.getD_some, Level.length] at into
          omega
        simp [Level.pop?, Array.eq_empty_of_size_eq_zero empty]
    simp only [step?, found, Option.bind_eq_bind, Option.bind_some]
    rw [Stack.pop, bottom]
    rfl
  | reset stack checkpoint =>
    obtain rfl := Option.some.inj place
    obtain ⟨c, hc, below⟩ := into
    simp only [step?, found, hc, Option.bind_eq_bind, Option.bind_some]
    cases reset : s.reset c sys.store with
    | error stop => rfl
    | ok result =>
      have := (Stack.reset_cases reset).1
      omega
  | _ => exact into.elim

end System

/-- After any operations, a stack on a branch shows the same, whatever more is done to the stack that
the branch is of, as long as the positions of the branch stay and are not written, and to other stacks
on branches of that. Nothing that is done to a stack on a branch changes the stack that the branch is
of, or another stack on a branch of it. What would reach into the trunk of a stack is refused. -/
theorem run_isolation (ops : List (Operation α)) :
    let sys := System.run ops
    (∀ s ∈ sys.live, ∀ b, s.trunk? sys.store = some b → b.length ≤ sys.store.length b.level →
      ∀ more, System.SparesAll b s sys more →
        s ∈ (System.run (ops ++ more)).live ∧
          s.SameView sys.store (System.run (ops ++ more)).store) ∧
    (∀ op t b, sys.target? op = some t → t.trunk? sys.store = some b → ∀ s ∈ sys.live, s ≠ t →
      (s.level = b.level ∨ ∃ b', s.trunk? sys.store = some b' ∧ b'.level = b.level) →
        s ∈ (sys.step op).live ∧ s.SameView sys.store (sys.step op).store) ∧
    ∀ op s, sys.target? op = some s → sys.IntoTrunk s op →
      sys.step? op = none ∧ sys.step op = sys := by
  intro sys
  have sound := System.run_sound ops
  have distinct := System.run_distinct ops
  refine ⟨fun s hs b trunk present more spares => ?_, fun op t b target trunk s hs other near => ?_,
    fun op s target into => ?_⟩
  · rw [System.run, List.foldl_append]
    exact System.sparesAll_sameView sound distinct hs trunk present spares
  · obtain ⟨n, -, found⟩ := Option.bind_eq_some_iff.mp target
    have levels := System.level_ne distinct (List.mem_of_getElem? found) hs other
    have older := Stack.trunk?_lt sound.store trunk
    obtain ⟨live, -, view⟩ := System.step_sameView sound hs
      (fun t' ht => Option.some.inj (target.symm.trans ht) ▸ levels.symm)
      fun b' trunk' t' ht => by
        obtain rfl := Option.some.inj (target.symm.trans ht)
        have below := Stack.trunk?_lt sound.store trunk'
        rcases near with same | ⟨b'', trunk'', same⟩
        · exact .inl (by omega)
        · obtain rfl := Option.some.inj (trunk'.symm.trans trunk'')
          exact .inl (by omega)
    exact ⟨live, view⟩
  · have refused := System.step?_intoTrunk target into
    exact ⟨refused, System.step_of_none refused⟩

/-- A stack on a branch over two bindings. -/
def branched : List (Operation Nat) :=
  [.new, .push 0 "a" 1, .push 0 "b" 2, .branch 0, .onBranch 0 "", .push 1 "c" 3]

/-- Work on the stack below and on a second stack on the branch. -/
def besideBranch : List (Operation Nat) :=
  [.push 0 "b" 4, .set 0 2 5, .onBranch 0 "", .push 2 "b" 6, .pop 0, .drop 2]

theorem run_isolation_besideBranch :
    let sys := System.run branched
    let base : Stack := ⟨0, "\n"⟩
    let s : Stack := ⟨1, "\n"⟩
    s ∈ sys.live ∧ s.trunk? sys.store = some ⟨0, 2⟩ ∧
      System.SparesAll ⟨0, 2⟩ s sys besideBranch ∧
      s.SameView sys.store (System.run (branched ++ besideBranch)).store ∧
      base.SameView sys.store (sys.step (.push 1 "a" 7)).store ∧
      sys.step? (.set 1 0 8) = none := by
  intro sys base s
  have member : s ∈ sys.live := by decide
  have trunk : s.trunk? sys.store = some ⟨0, 2⟩ := rfl
  have spares : System.SparesAll ⟨0, 2⟩ s sys besideBranch := by
    let second : Stack := ⟨2, "\n"⟩
    refine ⟨.of_target (t := base) (by decide +kernel) (.inl ⟨rfl, nofun, by decide +kernel⟩),
      .of_target (t := base) (by decide +kernel) (.inl ⟨rfl, by simp [Operation.index?], ?_⟩),
      .of_new rfl,
      .of_target (t := second) (by decide +kernel) (.inr ⟨by decide, ?_⟩),
      .of_target (t := base) (by decide +kernel) (.inl ⟨rfl, nofun, by decide +kernel⟩),
      .of_target (t := second) (by decide +kernel) (.inr ⟨by decide, ?_⟩), trivial⟩
    · decide +kernel
    · exact Stack.grownOn_of_trunk? (s := second) (b := ⟨0, 2⟩) (by decide +kernel)
    · exact Stack.grownOn_of_trunk? (s := second) (b := ⟨0, 2⟩) (by decide +kernel)
  obtain ⟨isolated, apart, refused⟩ := run_isolation branched
  refine ⟨member, trunk, spares, ?_, ?_, ?_⟩
  · exact (isolated s member ⟨0, 2⟩ trunk (by decide) besideBranch spares).2
  · exact (apart (.push 1 "a" 7) s ⟨0, 2⟩ rfl trunk base (by decide) (by decide) (.inl rfl)).2
  · exact (refused (.set 1 0 8) s rfl (by decide : 0 < s.trunkLength sys.store)).1

end MarkupTemplate.Scope

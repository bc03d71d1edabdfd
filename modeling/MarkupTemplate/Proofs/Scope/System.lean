import MarkupTemplate.Proofs.Scope.WellFormed

/-!
# Systems of stacks

Stacks that grow on branches of each other share one store. Whatever is done to them and in
whatever order, `run_lookup` shows that each finds under a name what a scan of its positions finds.
-/

namespace MarkupTemplate.Scope

variable {α : Type}

/-- The stacks that are not dropped, and the branches and checkpoints taken of stacks so far. -/
structure System (α : Type) where
  store : Store α := .empty
  live : List Stack := []
  branches : List Branch := []
  checkpoints : List Checkpoint := []

/-- What can be done. Stacks, branches and checkpoints are given by their places in the lists. -/
inductive Operation (α : Type) where
  | new
  | onBranch (branch : Nat) (indent : String)
  | push (stack : Nat) (name : String) (value : α)
  | pop (stack : Nat)
  | set (stack index : Nat) (value : α)
  | checkpoint (stack : Nat)
  | reset (stack checkpoint : Nat)
  | branch (stack : Nat)
  | indent (stack : Nat) (c : Char)
  | dedent (stack : Nat)
  | drop (stack : Nat)

namespace System

/-- The system after an operation that is not refused. -/
def step? (sys : System α) : Operation α → Option (System α)
  | .new =>
    let (store, s) := sys.store.newStack
    some { sys with store, live := sys.live ++ [s] }
  | .onBranch branch indent => do
    let b ← sys.branches[branch]?
    let (store, s) := sys.store.stackOn b indent
    some { sys with store, live := sys.live ++ [s] }
  | .push stack name value => do
    let s ← sys.live[stack]?
    some { sys with store := s.push name value sys.store }
  | .pop stack => do
    let s ← sys.live[stack]?
    let (_, store) ← (s.pop sys.store).toOption
    some { sys with store }
  | .set stack index value => do
    let s ← sys.live[stack]?
    let store ← (s.set index value sys.store).toOption
    some { sys with store }
  | .checkpoint stack => do
    let s ← sys.live[stack]?
    some { sys with checkpoints := sys.checkpoints ++ [s.checkpoint sys.store] }
  | .reset stack checkpoint => do
    let s ← sys.live[stack]?
    let c ← sys.checkpoints[checkpoint]?
    let (store, s) ← (s.reset c sys.store).toOption
    some { sys with store, live := sys.live.set stack s }
  | .branch stack => do
    let s ← sys.live[stack]?
    some { sys with branches := sys.branches ++ [s.branch sys.store] }
  | .indent stack c => do
    let s ← sys.live[stack]?
    some { sys with live := sys.live.set stack (s.indentBy c) }
  | .dedent stack => do
    let s ← sys.live[stack]?
    let s ← s.dedent.toOption
    some { sys with live := sys.live.set stack s }
  | .drop stack => do
    let s ← sys.live[stack]?
    some { sys with store := s.drop sys.store, live := sys.live.eraseIdx stack }

/-- The system after an operation. One that is refused changes nothing. -/
def step (sys : System α) (op : Operation α) : System α := (sys.step? op).getD sys

/-- The system after operations in order, starting without any stack. -/
def run (ops : List (Operation α)) : System α := ops.foldl step {}

/-! ### What every system keeps -/

/-- The store is well-formed, and stacks and branches are of levels that it has. -/
structure Sound (sys : System α) : Prop where
  store : sys.store.WellFormed
  live : ∀ s ∈ sys.live, s.level < sys.store.levels.size
  branches : ∀ b ∈ sys.branches, b.level < sys.store.levels.size

theorem sound_empty : ({} : System α).Sound :=
  ⟨Store.wellFormed_empty, by simp, by simp⟩

/-- A new store with at least as many levels, in which the same stacks and branches stand. -/
theorem Sound.withStore {sys : System α} (h : sys.Sound) {store : Store α} (wf : store.WellFormed)
    (size : sys.store.levels.size ≤ store.levels.size) : { sys with store }.Sound :=
  ⟨wf, fun s hs => Nat.lt_of_lt_of_le (h.live s hs) size,
    fun b hb => Nat.lt_of_lt_of_le (h.branches b hb) size⟩

/-- A stack in place of another of the same level. -/
theorem Sound.withStack {sys : System α} (h : sys.Sound) {n : Nat} {s s' : Stack}
    (hs : sys.live[n]? = some s) (level : s'.level = s.level) :
    { sys with live := sys.live.set n s' }.Sound := by
  refine ⟨h.store, fun t ht => ?_, h.branches⟩
  rcases List.mem_or_eq_of_mem_set ht with old | rfl
  · exact h.live t old
  · exact level ▸ h.live s (List.mem_of_getElem? hs)

/-- A new stack at a level that the store has. -/
theorem Sound.withNewStack {sys : System α} (h : sys.Sound) {s : Stack}
    (hs : s.level < sys.store.levels.size) : { sys with live := sys.live ++ [s] }.Sound := by
  refine ⟨h.store, fun t ht => ?_, h.branches⟩
  rcases List.mem_append.mp ht with old | new
  · exact h.live t old
  · rw [List.mem_singleton.mp new]; exact hs

theorem size_pop {σ σ' : Store α} {s : Stack} {binding : String × α}
    (h : s.pop σ = .ok (binding, σ')) : σ'.levels.size = σ.levels.size := by
  unfold Stack.pop at h
  split at h <;> cases h
  simp

theorem size_set {σ σ' : Store α} {s : Stack} {index : Nat} {value : α}
    (h : s.set index value σ = .ok σ') : σ'.levels.size = σ.levels.size := by
  unfold Stack.set at h
  split at h
  · cases h
  · split at h <;> cases h
    simp

theorem size_reset {σ σ' : Store α} {s s' : Stack} {c : Checkpoint}
    (h : s.reset c σ = .ok (σ', s')) : σ'.levels.size = σ.levels.size := by
  unfold Stack.reset at h
  split at h
  · cases h
  · split at h
    · cases h
    · split at h <;> cases h
      simp

theorem toOption_eq_some {ε β : Type} {x : Except ε β} {b : β} (h : x.toOption = some b) :
    x = .ok b := by
  cases x with
  | error e => cases h
  | ok b' => cases h; rfl

theorem step?_sound {sys sys' : System α} (h : sys.Sound) {op : Operation α}
    (stepped : sys.step? op = some sys') : sys'.Sound := by
  cases op with
  | new =>
    cases stepped
    have grown := h.withStore h.store.newStack
      (by simp [Store.newStack])
    exact grown.withNewStack (by simp [Store.newStack, Store.add])
  | onBranch branch indent =>
    obtain ⟨b, hb, stepped⟩ := Option.bind_eq_some_iff.mp stepped
    cases stepped
    have older := h.branches b (List.mem_of_getElem? hb)
    have grown := h.withStore (h.store.stackOn older indent) (by simp [Store.stackOn])
    exact grown.withNewStack (by simp [Store.stackOn, Store.add])
  | push stack name value =>
    obtain ⟨s, hs, stepped⟩ := Option.bind_eq_some_iff.mp stepped
    cases stepped
    exact h.withStore (Stack.wellFormed_push h.store name value) (by simp [Stack.push])
  | pop stack =>
    obtain ⟨s, hs, stepped⟩ := Option.bind_eq_some_iff.mp stepped
    obtain ⟨⟨_, store⟩, popped, stepped⟩ := Option.bind_eq_some_iff.mp stepped
    cases stepped
    have popped := toOption_eq_some popped
    exact h.withStore (Stack.wellFormed_pop h.store popped) (Nat.le_of_eq (size_pop popped).symm)
  | set stack index value =>
    obtain ⟨s, hs, stepped⟩ := Option.bind_eq_some_iff.mp stepped
    obtain ⟨store, set, stepped⟩ := Option.bind_eq_some_iff.mp stepped
    cases stepped
    have set := toOption_eq_some set
    exact h.withStore (Stack.wellFormed_set h.store set) (Nat.le_of_eq (size_set set).symm)
  | checkpoint stack =>
    obtain ⟨s, hs, stepped⟩ := Option.bind_eq_some_iff.mp stepped
    cases stepped
    exact ⟨h.store, h.live, h.branches⟩
  | reset stack checkpoint =>
    obtain ⟨s, hs, stepped⟩ := Option.bind_eq_some_iff.mp stepped
    obtain ⟨c, hc, stepped⟩ := Option.bind_eq_some_iff.mp stepped
    obtain ⟨⟨store, s'⟩, reset, stepped⟩ := Option.bind_eq_some_iff.mp stepped
    cases stepped
    have reset := toOption_eq_some reset
    obtain ⟨wf, level⟩ := Stack.wellFormed_reset h.store reset
    have replaced := h.withStore wf (Nat.le_of_eq (size_reset reset).symm)
    exact replaced.withStack hs level
  | branch stack =>
    obtain ⟨s, hs, stepped⟩ := Option.bind_eq_some_iff.mp stepped
    cases stepped
    refine ⟨h.store, h.live, fun b hb => ?_⟩
    rcases List.mem_append.mp hb with old | new
    · exact h.branches b old
    · rw [List.mem_singleton.mp new]
      exact h.live s (List.mem_of_getElem? hs)
  | indent stack c =>
    obtain ⟨s, hs, stepped⟩ := Option.bind_eq_some_iff.mp stepped
    cases stepped
    exact h.withStack hs rfl
  | dedent stack =>
    obtain ⟨s, hs, stepped⟩ := Option.bind_eq_some_iff.mp stepped
    obtain ⟨s', dedent, stepped⟩ := Option.bind_eq_some_iff.mp stepped
    cases stepped
    have dedent := toOption_eq_some dedent
    have level : s'.level = s.level := by
      unfold Stack.dedent at dedent
      split at dedent <;> cases dedent
      rfl
    exact h.withStack hs level
  | drop stack =>
    obtain ⟨s, hs, stepped⟩ := Option.bind_eq_some_iff.mp stepped
    cases stepped
    have dropped := h.withStore (Stack.wellFormed_drop (s := s) h.store)
      (by simp [Stack.drop])
    exact ⟨dropped.store, fun t ht => dropped.live t (List.mem_of_mem_eraseIdx ht),
      dropped.branches⟩

theorem step_sound {sys : System α} (h : sys.Sound) (op : Operation α) : (sys.step op).Sound := by
  unfold step
  cases stepped : sys.step? op with
  | none => exact h
  | some sys' => exact step?_sound h stepped

theorem run_sound (ops : List (Operation α)) : (run ops).Sound := by
  suffices ∀ sys : System α, sys.Sound → (ops.foldl step sys).Sound from this _ sound_empty
  induction ops with
  | nil => intro sys h; exact h
  | cons op ops ih => intro sys h; exact ih _ (step_sound h op)

end System

/-! ### Reading a stack -/

namespace Level

/-- Every position that the index of a level or a binding of it leads to is one of its own, and a
shadowed one comes before the binding that shadows it. -/
structure InRange (l : Level α) : Prop where
  latest : ∀ (name : String) (i : Nat), l.latest[name]? = some i →
    l.trunkLength ≤ i ∧ i < l.length
  shadowed : ∀ (k : Nat) (b : Binding α) (i : Nat), l.bindings[k]? = some b →
    b.shadowed = some i → l.trunkLength ≤ i ∧ i < l.trunkLength + k

theorem Indexed.inRange {l : Level α} (h : l.Indexed) : l.InRange := by
  constructor
  · intro name i found
    rw [h.latest] at found
    obtain ⟨k, last, rfl⟩ := Option.map_eq_some_iff.mp found
    have := lastOwn_lt last
    simp only [length]
    omega
  · intro k b i hb found
    rw [h.shadowed k b hb] at found
    obtain ⟨j, last, rfl⟩ := Option.map_eq_some_iff.mp found
    have := lastOwn_lt last
    omega

end Level

/-- The number of bindings of a level itself. -/
def Store.ownLength (σ : Store α) (id : Nat) : Nat := (σ.levels[id]?.map (·.bindings.size)).getD 0

namespace Stack

variable {σ : Store α} {s : Stack}

theorem length_eq (s : Stack) (σ : Store α) :
    s.length σ = s.trunkLength σ + σ.ownLength s.level := by
  unfold length trunkLength Store.length Store.trunkLength Store.ownLength
  cases σ.levels[s.level]? <;> rfl

theorem get?_eq_some_iff (wf : σ.WellFormed) {i : Nat} {value : α} :
    s.get? σ i = some value ↔ i < s.length σ ∧ ∃ name, σ.Binds s.level i name value := by
  unfold get?
  split
  · next inside =>
    simp [inside, Store.get?_eq_bindingAt?, ← Store.bindingAt?_eq_some_iff wf]
  · next outside => simp [outside]

theorem find?_eq_some_iff (wf : σ.WellFormed) {name : String} {i : Nat} {value : α} :
    s.find? σ name = some (i, value) ↔ i < s.length σ ∧ σ.Binds s.level i name value ∧
      ∀ j, i < j → j < s.length σ → ∀ other, ¬ σ.Binds s.level j name other := by
  unfold find?
  rw [Store.find?_eq_scan wf, Store.scan_eq_some_iff]
  simp only [ne_eq, Store.bindingAt?_eq_some_iff wf]
  rfl

theorem find?_eq_none_iff (wf : σ.WellFormed) {name : String} :
    s.find? σ name = none ↔
      ∀ i < s.length σ, ∀ value, ¬ σ.Binds s.level i name value := by
  unfold find?
  rw [Store.find?_eq_scan wf, Store.scan_eq_none_iff]
  simp only [ne_eq, Store.bindingAt?_eq_some_iff wf]
  rfl

end Stack

/-- After any operations, a stack is as long as its trunk and its own bindings together, has the
values of its positions as they are now, finds under a name the last position that binds it, and is
led to positions of a level only that the level has. -/
theorem run_lookup (ops : List (Operation α)) (s : Stack) (hs : s ∈ (System.run ops).live) :
    let σ := (System.run ops).store
    s.length σ = s.trunkLength σ + σ.ownLength s.level ∧
    (∀ i value, s.get? σ i = some value ↔
      i < s.length σ ∧ ∃ name, σ.Binds s.level i name value) ∧
    (∀ name i value, s.find? σ name = some (i, value) ↔
      i < s.length σ ∧ σ.Binds s.level i name value ∧
        ∀ j, i < j → j < s.length σ → ∀ other, ¬ σ.Binds s.level j name other) ∧
    (∀ name, s.find? σ name = none ↔
      ∀ i < s.length σ, ∀ value, ¬ σ.Binds s.level i name value) ∧
    s.level < σ.levels.size ∧ ∀ (id : Nat) (l : Level α), σ.levels[id]? = some l → l.InRange := by
  have sound := System.run_sound ops
  exact ⟨s.length_eq _, fun i value => Stack.get?_eq_some_iff sound.store,
    fun name i value => Stack.find?_eq_some_iff sound.store,
    fun name => Stack.find?_eq_none_iff sound.store, sound.live s hs,
    fun id l h => (sound.store.indexed id l h).inRange⟩

/-- A stack grows on a branch; then the trunk loses a position and binds another name there. -/
def refilledTrunk : List (Operation Nat) :=
  [.new, .push 0 "a" 1, .push 0 "b" 2, .branch 0, .onBranch 0 "", .push 1 "a" 3, .pop 0,
    .push 0 "c" 4]

theorem run_lookup_refilledTrunk :
    let s : Stack := ⟨1, "\n"⟩
    let σ := (System.run refilledTrunk).store
    s ∈ (System.run refilledTrunk).live ∧ s.find? σ "c" = some (1, 4) ∧ s.find? σ "b" = none := by
  intro s σ
  have member : s ∈ (System.run refilledTrunk).live := by decide
  have wf := (System.run_sound refilledTrunk).store
  have length : s.length σ = 3 := by decide
  have first : σ.bindingAt? 1 0 = some ("a", 1) := by decide +kernel
  have second : σ.bindingAt? 1 1 = some ("c", 4) := by decide +kernel
  have third : σ.bindingAt? 1 2 = some ("a", 3) := by decide +kernel
  obtain ⟨_, _, found, absent, _⟩ := run_lookup refilledTrunk s member
  refine ⟨member, (found "c" 1 4).mpr ⟨?_, ?_, fun j after inside other binds => ?_⟩,
    (absent "b").mpr fun i inside other binds => ?_⟩
  · rw [length]; decide
  · exact (Store.bindingAt?_eq_some_iff wf).mp second
  · change j < s.length σ at inside
    obtain rfl : j = 2 := by omega
    rw [← Store.bindingAt?_eq_some_iff wf, third] at binds
    simp at binds
  · change i < s.length σ at inside
    have unbound : ∀ k < 3, σ.bindingAt? 1 k ≠ some ("b", other) := by
      intro k below
      obtain rfl | rfl | rfl : k = 0 ∨ k = 1 ∨ k = 2 := by omega
      · rw [first]; simp
      · rw [second]; simp
      · rw [third]; simp
    exact unbound i (length ▸ inside) ((Store.bindingAt?_eq_some_iff wf).mpr binds)

end MarkupTemplate.Scope

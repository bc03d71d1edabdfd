import MarkupTemplate.Proofs.Placement.State

/-!
# What a translation leaves of its scopes

A translation only adds bindings on top of its own stack, and what closes a scope takes them away again.
On other levels it works on stacks that it has started itself. So a state grows from one step to the
next, and is balanced where a scope was opened and closed.
-/

namespace MarkupTemplate

namespace Scope

variable {α : Type}

/-! ### Levels -/

/-- A level starts with all bindings of another one, on the same trunk. -/
structure Level.Starts (l l' : Level α) : Prop where
  trunk : l'.trunk = l.trunk
  size : l.bindings.size ≤ l'.bindings.size
  bindings : ∀ k < l.bindings.size, l'.bindings[k]? = l.bindings[k]?

namespace Level.Starts

variable {l l₁ l₂ : Level α}

theorem refl (l : Level α) : l.Starts l := ⟨rfl, Nat.le_refl _, fun _ _ => rfl⟩

theorem trans (h : l.Starts l₁) (h' : l₁.Starts l₂) : l.Starts l₂ :=
  ⟨h'.trunk.trans h.trunk, Nat.le_trans h.size h'.size, fun k below =>
    (h'.bindings k (Nat.lt_of_lt_of_le below h.size)).trans (h.bindings k below)⟩

theorem trunkLength (h : l.Starts l₁) : l₁.trunkLength = l.trunkLength := by
  rw [Level.trunkLength, Level.trunkLength, h.trunk]

theorem push (h : l.Starts l₁) (name : String) (value : α) : l.Starts (l₁.push name value) := by
  refine h.trans ⟨rfl, by simp [Level.push], fun k below => ?_⟩
  simp [Level.push, Array.getElem?_push, Nat.ne_of_lt below]

theorem set (h : l.Starts l₁) {index : Nat} (above : l.length ≤ index) (value : α) :
    l.Starts (l₁.set index value) := by
  refine ⟨h.trunk, by simpa [Level.set] using h.size, fun k below => ?_⟩
  have trunk := h.trunkLength
  have other : index - l₁.trunkLength ≠ k := by
    simp only [Level.length] at above
    omega
  rw [bindings_set, if_neg other, h.bindings k below]

/-- Popping as many bindings as there are more. -/
theorem popMany (h : l.Starts l₁) : l.Starts (l₁.popMany (l₁.length - l.length)) ∧
    (l₁.popMany (l₁.length - l.length)).length = l.length := by
  have trunk := h.trunkLength
  have more := h.size
  have left : l₁.bindings.size - (l₁.length - l.length) = l.bindings.size := by
    simp only [Level.length]
    omega
  refine ⟨⟨(l₁.trunk_popMany _).trans h.trunk, ?_, fun k below => ?_⟩, ?_⟩
  · exact Nat.le_of_eq (by rw [size_popMany, left])
  · rw [bindings_popMany, left, if_pos below, h.bindings k below]
  · have same : (l₁.popMany (l₁.length - l.length)).trunkLength = l.trunkLength := by
      rw [Level.trunkLength, l₁.trunk_popMany]
      exact trunk
    rw [Level.length, size_popMany, left, same]
    rfl

end Level.Starts

/-! ### Stores -/

/-- A store differs from another one in new levels and on top of the level `id` only. -/
structure Store.Grows (id : Nat) (σ σ' : Store α) : Prop where
  size : σ.levels.size ≤ σ'.levels.size
  others : ∀ k < σ.levels.size, k ≠ id → σ'.levels[k]? = σ.levels[k]?
  level : ∀ l, σ.levels[id]? = some l → ∃ l', σ'.levels[id]? = some l' ∧ l.Starts l'

namespace Store.Grows

variable {id : Nat} {σ σ₁ σ₂ : Store α}

theorem refl (id : Nat) (σ : Store α) : σ.Grows id σ :=
  ⟨Nat.le_refl _, fun _ _ _ => rfl, fun l hl => ⟨l, hl, .refl l⟩⟩

theorem trans (h : σ.Grows id σ₁) (h' : σ₁.Grows id σ₂) : σ.Grows id σ₂ := by
  refine ⟨Nat.le_trans h.size h'.size, fun k inside other => ?_, fun l hl => ?_⟩
  · exact (h'.others k (Nat.lt_of_lt_of_le inside h.size) other).trans (h.others k inside other)
  · obtain ⟨l₁, hl₁, first⟩ := h.level l hl
    obtain ⟨l₂, hl₂, second⟩ := h'.level l₁ hl₁
    exact ⟨l₂, hl₂, first.trans second⟩

/-- Work on the level that keeps what it started with. -/
theorem modify (h : σ.Grows id σ₁) {f : Level α → Level α}
    (keeps : ∀ l l₁, σ.levels[id]? = some l → σ₁.levels[id]? = some l₁ → l.Starts l₁ →
      l.Starts (f l₁)) : σ.Grows id (σ₁.modify id f) := by
  refine ⟨by simpa using h.size, fun k inside other => ?_, fun l hl => ?_⟩
  · rw [levels_modify, if_neg (Ne.symm other), h.others k inside other]
  · obtain ⟨l₁, hl₁, starts⟩ := h.level l hl
    exact ⟨f l₁, by rw [levels_modify, if_pos rfl, hl₁, Option.map_some], keeps l l₁ hl hl₁ starts⟩

theorem length_le (h : σ.Grows id σ₁) : σ.length id ≤ σ₁.length id := by
  cases hl : σ.levels[id]? with
  | none => simp [Store.length, hl]
  | some l =>
    obtain ⟨l₁, hl₁, starts⟩ := h.level l hl
    rw [length_of_level hl, length_of_level hl₁, starts.trunkLength]
    exact Nat.add_le_add_left starts.size _

/-- A position of an old level shows what it showed, unless the level `id` has gained it. -/
theorem bindingAt?_cases (h : σ.Grows id σ₁) {k : Nat} (inside : k < σ.levels.size) (i : Nat) :
    σ₁.bindingAt? k i = σ.bindingAt? k i ∨
      σ.bindingAt? k i = none ∧ σ.length id ≤ i ∧ i < σ₁.length id := by
  induction k using Nat.strongRecOn with
  | ind k ih =>
    have hl := Array.getElem?_eq_getElem inside
    generalize σ.levels[k] = l at hl
    obtain ⟨l₁, hl₁, starts, only⟩ : ∃ l₁, σ₁.levels[k]? = some l₁ ∧ l.Starts l₁ ∧
        (l₁ = l ∨ k = id) := by
      by_cases same : k = id
      · obtain ⟨l₁, hl₁, starts⟩ := h.level l (same ▸ hl)
        exact ⟨l₁, same ▸ hl₁, starts, .inr same⟩
      · exact ⟨l, (h.others k inside same).trans hl, .refl l, .inl rfl⟩
    by_cases own : l.trunkLength ≤ i
    · rw [bindingAt?_own hl own, bindingAt?_own hl₁ (starts.trunkLength.symm ▸ own),
        starts.trunkLength]
      by_cases there : i - l.trunkLength < l.bindings.size
      · rw [starts.bindings _ there]
        exact .inl rfl
      · rw [Array.getElem?_eq_none (Nat.le_of_not_lt there)]
        by_cases gained : i - l.trunkLength < l₁.bindings.size
        · rcases only with rfl | rfl
          · exact absurd gained there
          · refine .inr ⟨rfl, ?_, ?_⟩
            · rw [length_of_level hl]
              omega
            · rw [length_of_level hl₁, starts.trunkLength]
              omega
        · rw [Array.getElem?_eq_none (Nat.le_of_not_lt gained)]
          exact .inl rfl
    · have low : i < l.trunkLength := Nat.lt_of_not_le own
      rw [bindingAt?, bindingAt?, hl, hl₁]
      simp only [starts.trunkLength, starts.trunk, low, if_true]
      cases l.trunk with
      | none => exact .inl rfl
      | some b =>
        dsimp only
        split
        · next older => exact ih b.level older (Nat.lt_trans older inside)
        · exact .inl rfl

end Store.Grows

/-- Going back to a position of the same indentation keeps the indentation. -/
theorem Stack.eq_of_reset {σ σ' : Store α} {s s' : Stack} {c : Checkpoint}
    (done : s.reset c σ = .ok (σ', s')) (indent : c.indentLength = s.indent.utf8ByteSize) :
    s' = s := by
  unfold reset at done
  split at done
  · cases done
  · split at done
    · cases done
    · split at done
      · cases done
      · next lead rest cut =>
        cases done
        obtain ⟨text, size⟩ := Text.of_splitAtByte? cut
        have whole : lead = s.indent.toList := by
          refine Text.eq_of_lead ⟨rest, text.symm⟩ (Nat.le_of_eq ?_)
          rw [size, indent, Text.byteLength_toList]
        rw [whole, String.ofList_toList]

end Scope

namespace Translate

open Scope

variable {κ : Type} {s s₁ s₂ : State κ}

/-- The stack of a state is one of its store. -/
def State.Rooted (s : State κ) : Prop := s.stack.level < s.store.levels.size

/-- A state goes on with the same stack, on top of what it had. -/
structure State.Grows (s s' : State κ) : Prop where
  stack : s'.stack = s.stack
  store : s.store.Grows s.stack.level s'.store

/-- A state goes on with the same stack as it was. -/
structure State.Balanced (s s' : State κ) : Prop extends State.Grows s s' where
  length : s'.stack.length s'.store = s.stack.length s.store

namespace State.Grows

theorem refl (s : State κ) : s.Grows s := ⟨rfl, .refl _ _⟩

theorem trans (h : s.Grows s₁) (h' : s₁.Grows s₂) : s.Grows s₂ :=
  ⟨h'.stack.trans h.stack, h.store.trans (h.stack ▸ h'.store)⟩

theorem rooted (h : s.Grows s₁) (rooted : s.Rooted) : s₁.Rooted := by
  unfold State.Rooted
  rw [h.stack]
  exact Nat.lt_of_lt_of_le rooted h.store.size

/-- Going on with something that scopes do not hold. -/
theorem of_same (h : s.Grows s₁) (stack : s₂.stack = s₁.stack) (store : s₂.store = s₁.store) :
    s.Grows s₂ :=
  ⟨stack.trans h.stack, store ▸ h.store⟩

theorem push (h : s.Grows s₁) (name : String) (v : Value κ) : s.Grows (s₁.push name v) := by
  refine ⟨h.stack, ?_⟩
  rw [State.push, Stack.push, h.stack]
  exact h.store.modify fun l l₁ _ _ starts => starts.push name v

/-- Replacing a value that is above where the state started. -/
theorem set (h : s.Grows s₁) {index : Nat} (above : s.stack.length s.store ≤ index) {v : Value κ}
    (done : s₁.set index v = .ok s₂) : s.Grows s₂ := by
  unfold State.set at done
  obtain ⟨store, done, same⟩ := bind_eq_ok.mp done
  cases same
  refine ⟨h.stack, ?_⟩
  unfold Stack.set at done
  split at done
  · cases done
  · split at done
    · cases done
      rw [h.stack]
      refine h.store.modify fun l l₁ hl _ starts => starts.set ?_ v
      rwa [Stack.length, Store.length_of_level hl] at above
    · cases done

/-- Going back to where the state started. -/
theorem reset (h : s.Grows s₁) (rooted : s.Rooted) (done : s₁.reset s.mark = .ok s₂) :
    s.Balanced s₂ := by
  unfold State.reset at done
  obtain ⟨⟨store, stack⟩, undone, same⟩ := bind_eq_ok.mp done
  cases same
  have kept : stack = s.stack := by
    rw [← h.stack]
    exact Stack.eq_of_reset undone (by rw [h.stack]; rfl)
  obtain ⟨-, -, -, popped⟩ := Stack.reset_cases undone
  rw [h.stack] at popped
  obtain ⟨l, hl, length, -⟩ := Stack.exists_level rooted
  obtain ⟨l₁, hl₁, starts⟩ := h.store.level l hl
  have length₁ : s.stack.length s₁.store = l₁.length := Store.length_of_level hl₁
  have more : s.stack.length s₁.store - s.mark.checkpoint.length = l₁.length - l.length := by
    rw [length₁, show s.mark.checkpoint.length = l.length from length]
  rw [more] at popped
  subst popped
  refine ⟨⟨kept, h.store.modify fun m m₁ hm hm₁ _ => ?_⟩, ?_⟩
  · obtain rfl := Option.some.inj (hl.symm.trans hm)
    obtain rfl := Option.some.inj (hl₁.symm.trans hm₁)
    exact starts.popMany.1
  · change stack.length _ = _
    rw [kept, Stack.length, Store.length_modify hl₁, starts.popMany.2, length]
    rfl

end State.Grows

namespace State.Balanced

/-- All old levels stay as they were. -/
theorem of_levels (rooted : s.Rooted) (stack : s₁.stack = s.stack)
    (size : s.store.levels.size ≤ s₁.store.levels.size)
    (levels : ∀ k < s.store.levels.size, s₁.store.levels[k]? = s.store.levels[k]?) :
    s.Balanced s₁ := by
  have own := levels _ rooted
  refine ⟨⟨stack, size, fun k inside _ => levels k inside, fun l hl => ⟨l, ?_, .refl l⟩⟩, ?_⟩
  · rw [own, hl]
  · rw [stack, Stack.length, Stack.length, Store.length, Store.length, own]

theorem refl (s : State κ) : s.Balanced s := ⟨.refl s, rfl⟩

theorem trans (h : s.Balanced s₁) (h' : s₁.Balanced s₂) : s.Balanced s₂ :=
  ⟨h.toGrows.trans h'.toGrows, h'.length.trans h.length⟩

theorem atIndent {indent : String} (h : (s.atIndent indent).Balanced s₁) :
    s.Balanced (s₁.atIndent s.stack.indent) := by
  obtain ⟨⟨stack, store⟩, length⟩ := h
  refine ⟨⟨?_, store⟩, length⟩
  rw [State.atIndent, stack]
  rfl

end State.Balanced

theorem State.Rooted.atIndent (rooted : s.Rooted) (indent : String) : (s.atIndent indent).Rooted :=
  rooted

variable [Closing κ]

/-- What is left of the stack of a closure when it is given up: a new level. -/
theorem State.Grows.leave {c : κ} {indent : String} (rooted : s.Rooted)
    (h : (s.enter c indent).Grows s₁) : s.Balanced (s₁.leave s.mark) := by
  have inside : s.store.levels.size < (s.enter c indent).store.levels.size := by
    simp [State.enter, Store.stackOn]
  have level : s₁.stack.level = s.store.levels.size := congrArg Stack.level h.stack
  refine .of_levels rooted rfl ?_ fun k below => ?_
  · have size := h.store.size
    simp only [State.leave, Stack.drop, Store.size_modify]
    omega
  · have apart : k ≠ s.store.levels.size := Nat.ne_of_lt below
    have kept := h.store.others k (Nat.lt_trans below inside) apart
    rw [State.leave, Stack.drop, Store.levels_modify, level, if_neg apart.symm, kept]
    exact (Stack.levels_stackOn _ _ indent k).trans (if_neg apart)

theorem State.rooted_enter (s : State κ) (c : κ) (indent : String) : (s.enter c indent).Rooted := by
  simp [State.Rooted, State.enter, Store.stackOn, Store.add]

/-! ### Runs -/

/-- A run whose result, if there is one, has a state with a property. -/
abbrev Gives (p : State κ → Prop) : Run (Output (State κ) κ) → Prop :=
  Ends (fun _ => True) fun o => p o.1

/-- Taking as many characters of the indentation away as a part of it has. -/
theorem eq_of_dedentBy {lead added : List Char} (text : s.stack.indent.toList = lead ++ added)
    (done : dedentBy added.length s = .ok s₁) : s₁ = s.atIndent (String.ofList lead) := by
  induction added using List.reverseRecOn generalizing s with
  | nil =>
    cases done
    rw [List.append_nil] at text
    rw [← text, String.ofList_toList]
    rfl
  | append_singleton cs c ih =>
    rw [List.length_append, List.length_singleton, dedentBy] at done
    obtain ⟨s₂, dedented, done⟩ := bind_eq_ok.mp done
    have dedented : State.dedent s = .ok s₂ := ofExcept_eq_ok.mp dedented
    obtain ⟨stack, shorter, same⟩ := bind_eq_ok.mp dedented
    cases same
    unfold Stack.dedent at shorter
    split at shorter
    · cases shorter
    · cases shorter
      let shorter := s.atIndent (String.ofList s.stack.indent.toList.dropLast)
      have text' : shorter.stack.indent.toList = lead ++ cs := by
        change (String.ofList s.stack.indent.toList.dropLast).toList = lead ++ cs
        rw [String.toList_ofList, text, ← List.append_assoc, List.dropLast_concat]
      have cut := ih text' done
      exact cut

theorem indented_balanced {layout : Layout}
    {run : State κ → Option String → Run (Output (State κ) κ)}
    (inner : ∀ indent place,
      Gives (s.atIndent indent).Balanced (run (s.atIndent indent) place)) :
    Gives s.Balanced (indented s layout run) := by
  unfold indented
  split
  · exact inner s.stack.indent none
  · split
    · trivial
    · simp only [s.indentBy_all]
      refine Ends.bind (inner _ _) fun ⟨s₁, nodes⟩ balanced => ?_
      refine Ends.bind_of_ok (.any _) fun s₂ undone _ => ?_
      have text : s₁.stack.indent.toList = s.stack.indent.toList ++ layout.indent.toList := by
        rw [balanced.stack]
        simp [State.atIndent]
      rw [eq_of_dedentBy text undone, String.ofList_toList]
      exact balanced.atIndent

theorem confined_balanced (rooted : s.Rooted) {run : State κ → Run (Output (State κ) κ)}
    (inner : Gives s.Grows (run s)) : Gives s.Balanced (confined s run) := by
  unfold confined
  refine Ends.bind inner fun ⟨s₁, nodes⟩ grows => ?_
  exact Ends.bind_of_ok (.any _) fun s₂ undone _ => grows.reset rooted undone

/-- A loop replaces a value above where it started, and nothing below. -/
theorem forEach_grows {index : Nat} (above : s.stack.length s.store ≤ index) (rooted : s.Rooted)
    {run : State κ → Run (Output (State κ) κ)}
    (inner : ∀ s' : State κ, s'.Rooted → Gives s'.Grows (run s')) (values : List (Value κ))
    (h : s.Grows s₁) : Gives s.Grows (forEach index run s₁ values) := by
  induction values generalizing s₁ with
  | nil => exact h
  | cons v vs ih =>
    unfold forEach
    refine Ends.bind_of_ok (.any _) fun s₂ replaced _ => ?_
    have bound := h.set above (ofExcept_eq_ok.mp replaced)
    have ran := confined_balanced (bound.rooted rooted) (inner s₂ (bound.rooted rooted))
    refine Ends.bind ran ?_
    rintro ⟨s₃, nodes⟩ balanced
    refine Ends.bind (ih (bound.trans balanced.toGrows)) ?_
    rintro ⟨s₄, rest⟩ grows
    exact grows

end Translate

end MarkupTemplate

import MarkupTemplate.Proofs.Result

/-!
# Runs in several worlds

A family of runs, one for each world, is uniform if all of them are read off one run. It accords if it
is uniform or a run stops in a way that is exempt from this.
-/

namespace MarkupTemplate

variable {ω ε α β γ δ : Type}

/-- Computations that are all read off one, whose result has a property. -/
def Uniform (f : ω → α → β) (p : α → Prop) (x : ω → Except ε β) : Prop :=
  ∃ z : Except ε α, (∀ w, x w = f w <$> z) ∧ ∀ a, z = .ok a → p a

namespace Uniform

variable {f : ω → α → β} {g : ω → γ → δ} {p : α → Prop} {q : γ → Prop} {x : ω → Except ε β}

theorem ok {a : α} (h : p a) : Uniform f p fun w => (.ok (f w a) : Except ε β) :=
  ⟨.ok a, fun _ => rfl, fun _ same => Except.ok.inj same ▸ h⟩

theorem error (e : ε) : Uniform f p fun _ => .error e := ⟨.error e, fun _ => rfl, nofun⟩

theorem bind {k : ω → β → Except ε δ} (h : Uniform f p x)
    (next : ∀ a, p a → Uniform g q fun w => k w (f w a)) : Uniform g q fun w => x w >>= k w := by
  obtain ⟨z, same, holds⟩ := h
  obtain rfl : x = fun w => f w <$> z := funext same
  cases z with
  | error e => exact .error e
  | ok a => exact next a (holds a rfl)

theorem imp {p' : α → Prop} (h : Uniform f p x) (weaker : ∀ a, p a → p' a) : Uniform f p' x := by
  obtain ⟨z, same, holds⟩ := h
  exact ⟨z, same, fun a ok => weaker a (holds a ok)⟩

theorem lift {x : ω → Except Error β} (h : Uniform f p x) :
    Uniform f p fun w => (liftM (x w) : Run β) := by
  obtain ⟨z, same, holds⟩ := h
  obtain rfl : x = fun w => f w <$> z := funext same
  cases z with
  | error e => exact .error _
  | ok a => exact .ok (holds a rfl)

theorem locate {x : ω → Except Error β} (h : Uniform f p x) (source : String) (span : Span) :
    Uniform f p fun w => MarkupTemplate.locate source span (x w) := by
  obtain ⟨z, same, holds⟩ := h
  obtain rfl : x = fun w => f w <$> z := funext same
  cases z with
  | error e => exact .error _
  | ok a => exact .ok (holds a rfl)

end Uniform

/-- Runs that are uniform, unless one of them stops in a way that is exempt in its world. -/
def Accord (exempt : ω → Stop → Prop) (f : ω → α → β) (p : α → Prop) (x : ω → Run β) : Prop :=
  (∃ w stop, exempt w stop ∧ x w = .error stop) ∨ Uniform f p x

namespace Accord

variable {exempt : ω → Stop → Prop} {f : ω → α → β} {g : ω → γ → δ} {p : α → Prop} {q : γ → Prop}
  {x : ω → Run β}

theorem ok {a : α} (h : p a) : Accord exempt f p fun w => (.ok (f w a) : Run β) := .inr (.ok h)

theorem error (stop : Stop) : Accord exempt f p fun _ => .error stop := .inr (.error stop)

theorem bind {k : ω → β → Run δ} (h : Accord exempt f p x)
    (next : ∀ a, p a → Accord exempt g q fun w => k w (f w a)) :
    Accord exempt g q fun w => x w >>= k w := by
  rcases h with ⟨w, stop, allowed, stopped⟩ | ⟨z, same, holds⟩
  · exact .inl ⟨w, stop, allowed, by simp only [stopped, error_bind]⟩
  · obtain rfl : x = fun w => f w <$> z := funext same
    cases z with
    | error stop => exact .error stop
    | ok a => exact next a (holds a rfl)

/-- What is uniform without exemption comes first. -/
theorem after {x : ω → Except Error β} {k : ω → β → Run δ} (h : Uniform f p x)
    (next : ∀ a, p a → Accord exempt g q fun w => k w (f w a)) :
    Accord exempt g q fun w => (liftM (x w) : Run β) >>= k w :=
  bind (.inr h.lift) next

theorem imp {p' : α → Prop} (h : Accord exempt f p x) (weaker : ∀ a, p a → p' a) :
    Accord exempt f p' x :=
  h.imp_right (·.imp weaker)

end Accord

end MarkupTemplate

import MarkupTemplate.Stop

/-!
# Results

How computations that may fail go on: after a result, after an error, and after a result that is
seen through a function.
-/

namespace MarkupTemplate

variable {ε α α' β β' γ : Type}

@[simp] theorem ok_bind (a : α) (k : α → Except ε β) : (Except.ok a >>= k) = k a := rfl

@[simp] theorem error_bind (e : ε) (k : α → Except ε β) : (Except.error e >>= k) = .error e := rfl

@[simp] theorem map_ok (f : α → β) (a : α) : (f <$> (.ok a : Except ε α)) = .ok (f a) := rfl

@[simp] theorem map_error (f : α → β) (e : ε) : (f <$> (.error e : Except ε α)) = .error e := rfl

theorem bind_eq_ok {x : Except ε α} {k : α → Except ε β} {b : β} :
    (x >>= k) = .ok b ↔ ∃ a, x = .ok a ∧ k a = .ok b := by
  cases x <;> simp

theorem bind_eq_error {x : Except ε α} {k : α → Except ε β} {e : ε} :
    (x >>= k) = .error e ↔ x = .error e ∨ ∃ a, x = .ok a ∧ k a = .error e := by
  cases x <;> simp

theorem map_eq_ok {x : Except ε α} {f : α → β} {b : β} :
    f <$> x = .ok b ↔ ∃ a, x = .ok a ∧ f a = b := by
  cases x <;> simp

theorem map_eq_error {x : Except ε α} {f : α → β} {e : ε} :
    f <$> x = .error e ↔ x = .error e := by
  cases x <;> simp

@[simp] theorem mapError_ok {ε' : Type} (f : ε → ε') (a : α) :
    (Except.ok a : Except ε α).mapError f = .ok a := rfl

@[simp] theorem mapError_error {ε' : Type} (f : ε → ε') (e : ε) :
    (Except.error e : Except ε α).mapError f = .error (f e) := rfl

theorem mapError_eq_ok {ε' : Type} {x : Except ε α} {f : ε → ε'} {a : α} :
    x.mapError f = .ok a ↔ x = .ok a := by
  cases x <;> simp

theorem mapError_eq_error {ε' : Type} {x : Except ε α} {f : ε → ε'} {e' : ε'} :
    x.mapError f = .error e' ↔ ∃ e, x = .error e ∧ f e = e' := by
  cases x <;> simp

/-! ### Errors with causes -/

@[simp] theorem map_fail (f : α → β) (c : Cause) : f <$> (fail c : Except Error α) = fail c := rfl

theorem locate_map (source : String) (span : Span) (f : α → β) (x : Except Error α) :
    locate source span (f <$> x) = f <$> locate source span x := by
  cases x <;> rfl

@[simp] theorem locate_eq_ok {source : String} {span : Span} {x : Except Error α} {a : α} :
    locate source span x = .ok a ↔ x = .ok a := by
  cases x <;> simp [locate]

@[simp] theorem lift_eq_ofExcept (x : Except Error α) : (liftM x : Run α) = Run.ofExcept x := rfl

@[simp] theorem ofExcept_ok (a : α) : Run.ofExcept (.ok a) = .ok a := rfl

@[simp] theorem ofExcept_eq_ok {x : Except Error α} {a : α} :
    Run.ofExcept x = .ok a ↔ x = .ok a := by
  cases x <;> simp [Run.ofExcept]

end MarkupTemplate

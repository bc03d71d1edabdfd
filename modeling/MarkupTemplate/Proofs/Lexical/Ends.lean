import MarkupTemplate.Proofs.Resolved.Failures
import MarkupTemplate.Proofs.Scoping.Indent
import MarkupTemplate.Proofs.Scoping.Lexical

/-!
# How lexical runs end

A run ends with a result of some kind or stops in an allowed way. Whatever only opens a scope and
closes it again gives the state back that it was started in.
-/

namespace MarkupTemplate

variable {α β : Type}

/-- A run that gives a result with a property, or stops in an allowed way. -/
def Ends (allowed : Stop → Prop) (p : α → Prop) : Run α → Prop
  | .ok a => p a
  | .error stop => allowed stop

namespace Ends

variable {allowed : Stop → Prop} {p : α → Prop} {q : β → Prop}

theorem bind {r : Run α} {k : α → Run β} (h : Ends allowed p r)
    (next : ∀ a, p a → Ends allowed q (k a)) : Ends allowed q (r >>= k) := by
  cases r with
  | error stop => exact h
  | ok a => exact next a h

theorem bind_of_ok {r : Run α} {k : α → Run β} (h : Ends allowed p r)
    (next : ∀ a, r = .ok a → p a → Ends allowed q (k a)) : Ends allowed q (r >>= k) := by
  cases r with
  | error stop => exact h
  | ok a => exact next a rfl h

theorem imp {p' : α → Prop} {r : Run α} (h : Ends allowed p r) (weaker : ∀ a, p a → p' a) :
    Ends allowed p' r := by
  cases r with
  | error stop => exact h
  | ok a => exact weaker a h

theorem lift {x : Except Error α} (fails : ∀ e, x = .error e → allowed (.error e))
    (holds : ∀ a, x = .ok a → p a) : Ends allowed p (liftM x : Run α) := by
  cases x with
  | error e => exact fails e rfl
  | ok a => exact holds a rfl

theorem of_ok {r : Run α} {a : α} (h : Ends allowed p r) (done : r = .ok a) : p a := by
  subst done
  exact h

theorem allowed_of_error {r : Run α} {stop : Stop} (h : Ends allowed p r)
    (stopped : r = .error stop) : allowed stop := by
  subst stopped
  exact h

/-- A run ends in some way. -/
theorem any (r : Run α) : Ends (fun _ => True) (fun _ => True) r := by
  cases r <;> trivial

/-- What goes before does not matter to what holds after any of its results. -/
theorem after (r : Run α) {k : α → Run β} (next : ∀ a, Ends (fun _ => True) q (k a)) :
    Ends (fun _ => True) q (r >>= k) :=
  (any r).bind fun a _ => next a

end Ends

namespace Translate

theorem Lexical.dedent_push (bindings : List (String × Value Capture)) {indent : String} (c : Char)
    (nonempty : indent ≠ "") :
    Scoping.dedent (⟨bindings, indent.push c⟩ : Lexical) = .ok ⟨bindings, indent⟩ := by
  change Lexical.dedent _ = _
  rw [Lexical.dedent, if_neg (Nat.not_le.mpr (push_utf8ByteSize nonempty c)), dropLast_push]

/-- Replacing the last binding is binding the name anew. -/
theorem Lexical.set_push (s : Lexical) (name : String) (w v : Value Capture) :
    Scoping.set (Scoping.length s) v (Scoping.push name w s) = .ok (Scoping.push name v s) := by
  change Lexical.set s.bindings.length v ⟨s.bindings ++ [(name, w)], s.indent⟩ =
    .ok ⟨s.bindings ++ [(name, v)], s.indent⟩
  rw [Lexical.set, if_pos (by simp)]
  simp [List.modify_eq_take_cons_drop]

/-- A translation that leaves the state as it was. -/
abbrev Returns (allowed : Stop → Prop) (s : Lexical) : Run (Output Lexical Capture) → Prop :=
  Ends allowed fun o => o.1 = s

variable {allowed : Stop → Prop} {p : Output Lexical Capture → Prop} {s : Lexical}

theorem Returns.keeps {q : Lexical → Prop} {r : Run (Output Lexical Capture)}
    (returns : Returns allowed s r) (h : q s) : Ends allowed (fun o => q o.1) r := by
  refine Ends.imp returns fun o same => ?_
  rw [same]
  exact h

/-! ### Scopes -/

theorem confined_returns {run : Lexical → Run (Output Lexical Capture)}
    (h : Ends allowed p (run s)) : Returns allowed s (confined s run) := by
  unfold confined
  refine Ends.bind h fun o _ => ?_
  exact rfl

/-- A loop that runs over values finds each of them bound on top of the state before it. -/
theorem forEach_ends (name : String) (w : Value Capture) (values : List (Value Capture))
    {run : Lexical → Run (Output Lexical Capture)}
    (h : ∀ v ∈ values, Ends allowed p (run (Scoping.push name v s))) :
    Ends allowed (fun _ => True) (forEach (Scoping.length s) run (Scoping.push name w s) values) := by
  induction values generalizing w with
  | nil => exact trivial
  | cons v vs ih =>
    obtain ⟨first, others⟩ := List.forall_mem_cons.mp h
    unfold forEach
    rw [Lexical.set_push]
    change Ends allowed _ (confined (Scoping.push name v s) run >>= _)
    refine Ends.bind (confined_returns first) fun o same => ?_
    simp only [same]
    exact Ends.bind (ih v others) fun _ _ => trivial

variable (tolerant : ∀ e : Error, e.Plain → allowed (.error e))

include tolerant

theorem ends_of_plain {x : Except Error α} (plain : Plain x) {p : α → Prop}
    (holds : ∀ a, x = .ok a → p a) : Ends allowed p (liftM x : Run α) :=
  .lift (fun e failed => tolerant e (plain e failed)) holds

theorem indented_returns (nonempty : s.indent ≠ "") (layout : Layout)
    {run : Lexical → Option String → Run (Output Lexical Capture)}
    (h : ∀ indent place, indent ≠ "" →
      Returns allowed { s with indent } (run { s with indent } place)) :
    Returns allowed s (indented s layout run) := by
  unfold indented
  split
  · exact h s.indent none nonempty
  · split
    · exact tolerant _ rfl
    · have extended := indentBy_all (w := fun indent => { s with indent }) (fun _ _ => rfl)
        s.indent layout.indent.toList
      have undone := dedentBy_all (w := fun indent => { s with indent })
        (fun _ c nonempty => Lexical.dedent_push s.bindings c nonempty) nonempty layout.indent.toList
      rw [String.ofList_toList] at extended undone
      simp only [extended]
      have longer : s.indent ++ layout.indent ≠ "" := by
        intro empty
        exact nonempty (by simpa using congrArg String.toList empty : _ ∧ layout.indent = "").1
      refine Ends.bind (h _ _ longer) fun o same => ?_
      rw [same, undone]
      exact rfl

/-! ### Blocks that make nodes -/

variable {env : Env}

theorem text_returns [Host] {parts : List Part} (place : Option String)
    (written : Ends allowed (fun _ => True) (liftM (writeParts env s parts) : Run String)) :
    Returns allowed s (text env s parts place) := by
  unfold text
  refine Ends.bind written fun text _ => ?_
  cases place with
  | none => exact rfl
  | some indent =>
    exact Ends.bind (ends_of_plain tolerant (Node.group_plain _ _ _) fun _ _ => trivial)
      fun _ _ => rfl

theorem embed_returns (nodes : List (Node Capture)) (place : Option String) :
    Returns allowed s (embed s nodes place) := by
  unfold embed
  exact Ends.bind (ends_of_plain tolerant (startLine_plain _ _) fun _ _ => trivial) fun _ _ => rfl

theorem finishCall_returns {call : Caller Lexical Capture} {name : Ident} {target : Tag ⊕ Capture}
    {args : List (Value Capture)} {named : List (String × Value Capture)}
    {body : List (Node Capture)} {indent : Option String} {place : String}
    (calls : ∀ c, target = .inr c →
      Returns allowed s (call s c ⟨args, named, body, place, name.span⟩)) :
    Returns allowed s (finishCall env call s name target args named body indent place) := by
  unfold finishCall
  cases target with
  | inl tag =>
    have plain := (Node.ofHead_plain ⟨some tag, args, named, indent.isSome⟩
      (indent.map .absolute) body).locate env.source name.span
    exact Ends.bind (ends_of_plain tolerant plain fun _ _ => trivial) fun _ _ => rfl
  | inr c =>
    refine Ends.bind (calls c rfl) fun o same => ?_
    exact Ends.bind (ends_of_plain tolerant (startLine_plain _ _) fun _ _ => trivial) fun _ _ => same

end Translate

end MarkupTemplate

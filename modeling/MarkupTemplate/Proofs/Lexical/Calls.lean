import MarkupTemplate.Proofs.Held
import MarkupTemplate.Proofs.Lexical.Ends
import MarkupTemplate.Proofs.Resolved.Reads
import MarkupTemplate.Proofs.Scoping.View

/-!
# Lexical calls

A call runs the body of the definition on the captured bindings, with the parameters and the body
parameter added. What it adds holds closures of the arguments and of the captured bindings only.
-/

namespace MarkupTemplate

namespace Translate

variable {allowed : Stop → Prop} (tolerant : ∀ e : Error, e.Plain → allowed (.error e))
  {env : Env} {P : Capture → Prop} {s s' s'' : Lexical} {names : List String}

/-- A state with more bindings than another one, which have some names and hold closures with some
property. -/
structure Adds (P : Capture → Prop) (s : Lexical) (names : List String) (s' : Lexical) : Prop where
  indent : s'.indent = s.indent
  bindings : ∃ more, s'.bindings = s.bindings ++ more ∧ more.map (·.1) = names ∧
    ∀ b ∈ more, b.2.Holds P

/-- Every visible binding holds closures with a property only. -/
structure Lexical.Holds (P : Capture → Prop) (s : Lexical) : Prop where
  held : ∀ b ∈ s.bindings, b.2.Holds P
  indent : s.indent ≠ ""

namespace Lexical.Holds

theorem sees (h : s.Holds P) : Sees P s := by
  intro name i v found
  exact h.held _ (List.mem_of_getElem? (mem_of_lastBinding? found))

theorem withIndent (h : s.Holds P) {indent : String} (nonempty : indent ≠ "") :
    Lexical.Holds P { s with indent } :=
  ⟨h.held, nonempty⟩

theorem push (h : s.Holds P) (name : String) {v : Value Capture} (holds : v.Holds P) :
    Lexical.Holds P (Scoping.push name v s) :=
  ⟨List.forall_mem_append.mpr ⟨h.held, List.forall_mem_singleton.mpr holds⟩, h.indent⟩

theorem pushAll (h : s.Holds P) (symbols : List (String × Value Empty)) :
    Lexical.Holds P (pushAll s symbols) := by
  induction symbols generalizing s with
  | nil => exact h
  | cons entry rest ih => exact ih (h.push entry.1 (Value.holds_lift entry.2))

theorem adds (h : s.Holds P) (added : Adds P s names s') : s'.Holds P := by
  obtain ⟨more, bindings, -, held⟩ := added.bindings
  refine ⟨?_, added.indent ▸ h.indent⟩
  rw [bindings]
  exact List.forall_mem_append.mpr ⟨h.held, held⟩

end Lexical.Holds

theorem Adds.none (P : Capture → Prop) (s : Lexical) : Adds P s [] s :=
  ⟨rfl, [], (List.append_nil _).symm, rfl, nofun⟩

theorem Adds.push (h : Adds P s names s') (name : String) {v : Value Capture} (holds : v.Holds P) :
    Adds P s (names ++ [name]) (Scoping.push name v s') := by
  obtain ⟨more, bindings, same, held⟩ := h.bindings
  refine ⟨h.indent, more ++ [(name, v)], ?_, ?_, ?_⟩
  · change s'.bindings ++ [(name, v)] = _
    rw [bindings, List.append_assoc]
  · rw [List.map_append, same]
    rfl
  · exact List.forall_mem_append.mpr ⟨held, List.forall_mem_singleton.mpr holds⟩

section Params

variable [Host] {c : Capture}

/-- The default of a parameter is evaluated in a way that may fail only as it is allowed to. -/
def DefaultsAllowed (allowed : Stop → Prop) (env : Env) (c : Capture) : Prop :=
  ∀ p ∈ c.definition.signature.params, ∀ e, p.default = some e → ∀ err,
    e.eval env.source (fun name => (lastBinding? name c.bindings).map (·.2)) = .error err →
    allowed (.error err)

variable [Host.HandsOn] (captured : ∀ b ∈ c.bindings, b.2.Holds P) (defaults : DefaultsAllowed allowed env c)

include tolerant captured defaults

theorem slotValue_ends (span : Span) (s : Lexical) (index : Nat) {p : Param}
    (param : p ∈ c.definition.signature.params) {slot : Option (Value Capture)}
    (holds : ∀ v, slot = some v → v.Holds P) :
    Ends allowed (fun o => o.1.Holds P ∧ o.2 = s) (slotValue env c span s index p slot) := by
  unfold slotValue
  cases slot with
  | some v => exact ⟨holds v rfl, rfl⟩
  | none =>
    cases hasDefault : p.default with
    | none => exact tolerant _ ((Cause.toError_plain rfl).placed env.source span)
    | some e =>
      refine Ends.bind (p := (Value.Holds P)) (.lift (defaults p param e hasDefault) ?_)
        fun v value => ⟨value, rfl⟩
      intro v evaluated
      refine Expr.eval_holds (fun symbol w found => ?_) e v evaluated
      obtain ⟨⟨i, w⟩, last, rfl⟩ := Option.map_eq_some_iff.mp found
      exact captured _ (List.mem_of_getElem? (mem_of_lastBinding? last))

theorem bindParams_ends (span : Span) (index : Nat) {slots : List (Param × Option (Value Capture))}
    (h : Adds P s names s') (params : ∀ slot ∈ slots, slot.1 ∈ c.definition.signature.params)
    (hold : Call.SlotsHold P slots) :
    Ends allowed (Adds P s (names ++ slots.map (varSymbol ·.1.name.name)))
      (bindParams env c span s' index slots) := by
  induction slots generalizing s' names index with
  | nil => simpa [bindParams, Ends] using h
  | cons entry rest ih =>
    obtain ⟨p, slot⟩ := entry
    obtain ⟨param, others⟩ := List.forall_mem_cons.mp params
    unfold bindParams
    refine Ends.bind (slotValue_ends tolerant captured defaults span s' index param
      fun v same => hold p v (same ▸ List.mem_cons_self)) fun ⟨v, s₁⟩ ⟨holds, same⟩ => ?_
    obtain rfl : s₁ = s' := same
    have later := ih (index + 1) (h.push (varSymbol p.name.name) holds) others
      fun q w member => hold q w (List.mem_cons_of_mem _ member)
    rw [List.append_assoc] at later
    exact later

omit [Host] captured defaults in
theorem bindBody_ends (h : Adds P s names s') (call : Call Capture) (param : Option Ident) :
    Ends allowed (Adds P s (names ++ param.toList.map (varSymbol ·.name)))
      (bindBody s' call param) := by
  unfold bindBody
  cases param with
  | none => simpa [Ends] using h
  | some name =>
    refine Ends.bind (p := fun _ => True) (ends_of_plain tolerant (demoteAll_fails (by rfl) _ _)
      fun _ _ => trivial) fun body _ => ?_
    exact h.push (varSymbol name.name) (Value.holds_nodes body)

/-- A call gives the state back if its body ends well on the captured bindings with what the call
binds. -/
theorem invoke_returns {call : Caller Lexical Capture} {k : Call Capture}
    (args : ArgsHold P k.positional k.named)
    (body : ∀ s', Adds P ⟨c.bindings, Scope.withNewline k.indent⟩ c.definition.signature.bound s' →
      Ends allowed (fun _ => True)
        (blocks env call (c.definition.depth + 1) s' c.definition.body)) :
    Returns allowed s (invoke env call s c k) := by
  unfold invoke
  refine Ends.bind (p := fun slots => slots.map (·.1) = c.definition.signature.params ∧
    Call.SlotsHold P slots) (ends_of_plain tolerant
      ((Call.arguments_fails (by rfl) (by rfl) k c.definition.signature).locate env.source k.span) ?_) ?_
  · intro slots ok
    exact Call.arguments_spec args.1 args.2 (mapError_eq_ok.mp (locate_eq_ok.mp ok))
  · intro slots ⟨params, hold⟩
    have listed : ∀ slot ∈ slots, slot.1 ∈ c.definition.signature.params := by
      intro slot member
      rw [← params]
      exact List.mem_map_of_mem member
    let entered : Lexical := ⟨c.bindings, Scope.withNewline k.indent⟩
    change Ends allowed _ (bindParams env c k.span entered 0 slots >>= _)
    refine Ends.bind (bindParams_ends tolerant captured defaults k.span 0 (.none P entered) listed
      hold) fun s₂ h₂ => ?_
    refine Ends.bind (bindBody_ends tolerant h₂ k c.definition.signature.bodyParam)
      fun s₃ h₃ => ?_
    have bound : [] ++ slots.map (varSymbol ·.1.name.name) ++
        c.definition.signature.bodyParam.toList.map (varSymbol ·.name) =
          c.definition.signature.bound := by
      rw [List.nil_append, Signature.bound, ← params, List.map_map]
      rfl
    exact Ends.bind (body s₃ (bound ▸ h₃)) fun _ _ => rfl

end Params

end Translate

end MarkupTemplate

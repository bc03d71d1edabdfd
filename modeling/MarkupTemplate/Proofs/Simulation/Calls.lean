import MarkupTemplate.Proofs.Simulation.Blocks

/-!
# Calls in simulations

Expanding a closure enters its scope, binds the arguments and defaults, translates the body and
leaves. All of this is read through a simulation, for any limit on nested calls.
-/

namespace MarkupTemplate

namespace Translate

/-! ### Going into a closure -/

section Binding

variable {σ κ μ : Type} [Host] [Defined κ] [Scoping σ κ μ]

/-- The state that the body of a closure finds: in its scope, with the parameters bound. -/
def bindCall (env : Env) (s : σ) (c : κ) (call : Call κ) : Run σ := do
  let signature := (Defined.definition c).signature
  let slots ← locate env.source call.span <| (call.arguments signature).mapError Cause.toError
  let s ← Scoping.enter c call.indent s
  let s ← bindParams env c call.span s 0 slots
  bindBody s call signature.bodyParam

/-- A call binds its arguments, translates the body and goes back. -/
theorem invoke_eq (env : Env) (inner : Caller σ κ) (s : σ) (c : κ) (call : Call κ) :
    invoke env inner s c call = (do
      let s' ← bindCall env s c call
      let (s', nodes) ← blocks env inner ((Defined.definition c).depth + 1) s'
        (Defined.definition c).body
      .ok (Scoping.leave (Scoping.mark s) s', nodes)) := by
  simp only [invoke, bindCall, bind_assoc]

end Binding

variable {σ σ' κ κ' μ μ' : Type} [Host] [Defined κ] [Defined κ'] [Scoping σ κ μ] [Scoping σ' κ' μ']
  {env : Env} (S : Simulation env.source σ σ') {s s' : σ} {c : κ}

namespace Simulation

theorem slotValue_follows (h : S.Sound s) (held : S.Holds s (.closure c)) (span : Span) {index : Nat}
    {p : Param} (param : (Defined.definition c).signature.params[index]? = some p)
    {slot : Option (Value κ)} (holds : ∀ v, slot = some v → S.Holds s v) :
    Follows (Prod.map S.value S.state)
      (fun o => S.Sound o.2 ∧ S.Grows s o.2 ∧ S.Holds o.2 o.1)
      (slotValue env c span s index p slot)
      (slotValue env (S.closure c) span (S.state s) index p (slot.map S.value)) := by
  cases slot with
  | some v =>
    exact Follows.ok (f := Prod.map S.value S.state) (a := (v, s)) ⟨h, S.refl h, holds v rfl⟩
  | none =>
    cases hasDefault : p.default with
    | none =>
      have name : (Defined.definition (S.closure c)).name = (Defined.definition c).name := by
        rw [S.definition]
        rfl
      simp only [slotValue, hasDefault, Option.map_none, name]
      exact .error _
    | some e =>
      simp only [slotValue, hasDefault, Option.map_none]
      exact S.default h held param hasDefault

theorem bindParams_moves (h : S.Sound s) (held : S.Holds s (.closure c)) (span : Span)
    (done : List Param) {slots : List (Param × Option (Value κ))}
    (params : (Defined.definition c).signature.params = done ++ slots.map (·.1))
    (hold : Call.Filled (S.Holds s) slots) :
    S.Moves s (bindParams env c span s done.length slots)
      (bindParams env (S.closure c) span (S.state s) done.length
        (slots.map (mapSlot S.closure))) := by
  induction slots generalizing s done with
  | nil => exact .ok ⟨h, S.refl h⟩
  | cons entry rest ih =>
    obtain ⟨p, slot⟩ := entry
    have param : (Defined.definition c).signature.params[done.length]? = some p := by simp [params]
    simp only [List.map_cons, bindParams, mapSlot, Prod.map]
    refine Follows.bind (S.slotValue_follows h held span param
      fun v same => hold p v (same ▸ List.mem_cons_self)) fun ⟨v, s₁⟩ ⟨h₁, grows₁, holds⟩ => ?_
    obtain ⟨pushed, grows₂⟩ := S.sound_push h₁ (varSymbol p.name.name) holds
    have grows := S.trans grows₁ grows₂
    change Follows S.state _ _ (bindParams env _ span
      (Scoping.push (varSymbol p.name.name) (S.value v) (S.state s₁)) _ _)
    rw [S.push h₁]
    have next := ih pushed (S.holds_grows grows held) (done ++ [p]) (by simp [params])
      fun q w member => S.holds_grows grows (hold q w (List.mem_cons_of_mem _ member))
    rw [List.length_append, List.length_singleton] at next
    exact next.after S grows

theorem bindBody_moves (h : S.Sound s) {k : Call κ} (made : S.Made s k.body) (param : Option Ident) :
    S.Moves s (bindBody s k param) (bindBody (S.state s) (k.mapClosures S.closure) param) := by
  cases param with
  | none => exact .ok ⟨h, S.refl h⟩
  | some name =>
    simp only [bindBody, Call.mapClosures, Node.baseOf?_map, demoteAll_map]
    refine Follows.bind (f := S.nodes) (p := S.Made s)
      (.lift rfl fun _ ok => (S.kind h).demote made ok) fun body made => ?_
    have pushed := S.push h (varSymbol name.name) (.nodes body)
    rw [Value.mapClosures_nodes] at pushed
    rw [pushed]
    exact .ok (S.sound_push h _ ((S.kind h).nodes made))

/-- Every parameter of a closure has a slot on both sides, filled with the arguments. -/
theorem arguments_follow {k : Call κ} (hold : S.ArgsHold s k.positional k.named) :
    Follows (List.map (mapSlot S.closure)) (fun slots =>
        (Defined.definition c).signature.params = slots.map (·.1) ∧ Call.Filled (S.Holds s) slots)
      (liftM (locate env.source k.span
        ((k.arguments (Defined.definition c).signature).mapError Cause.toError)))
      (liftM (locate env.source k.span (((k.mapClosures S.closure).arguments
        (Defined.definition (S.closure c)).signature).mapError Cause.toError))) := by
  have signature : (k.mapClosures S.closure).arguments (Defined.definition (S.closure c)).signature =
      (k.mapClosures S.closure).arguments (Defined.definition c).signature := by
    rw [S.definition]
    rfl
  refine .lift ?_ fun slots ok => ?_
  · rw [signature, Call.arguments_mapClosures, ← locate_map]
    cases k.arguments (Defined.definition c).signature <;> rfl
  · obtain ⟨params, filled⟩ :=
      Call.arguments_inherit hold.1 hold.2 (mapError_eq_ok.mp (locate_eq_ok.mp ok))
    exact ⟨params.symm, filled⟩

theorem bindCall_follows (h : S.Sound s) (held : S.Holds s (.closure c)) {k : Call κ}
    (hold : S.ArgsHold s k.positional k.named) (made : S.Made s k.body) :
    Follows S.state (fun s' => S.Sound s' ∧ ∃ s₁, S.Enters s s₁ ∧ S.Grows s₁ s')
      (bindCall env s c k)
      (bindCall env (S.state s) (S.closure c) (k.mapClosures S.closure)) := by
  apply Follows.bind (S.arguments_follow hold)
  rintro slots ⟨params, filled⟩
  apply Follows.bind (S.enter h held k.indent)
  rintro s₁ ⟨h₁, enters⟩
  apply Follows.bind (S.bindParams_moves h₁ (S.holds_enters h enters held) k.span [] params
    fun p v member => S.holds_enters h enters (filled p v member))
  rintro s₂ ⟨h₂, grows₂⟩
  have bodyParam : (Defined.definition (S.closure c)).signature.bodyParam =
      (Defined.definition c).signature.bodyParam := by
    rw [S.definition]
    rfl
  rw [bodyParam]
  apply (S.bindBody_moves h₂ (S.made_grows grows₂ (S.made_enters h enters made)) _).imp
  rintro s₃ ⟨h₃, grows₃⟩
  exact ⟨h₃, s₁, enters, S.trans grows₂ grows₃⟩

/-- A call is read through a simulation if the calls in its body are. -/
theorem invoke_answers {call : Caller σ κ} {call' : Caller σ' κ'} (answers : S.Answers call call') :
    S.Answers (invoke env call) (invoke env call') := by
  intro s c k h held hold made
  have definition := S.definition c
  rw [invoke_eq, invoke_eq, definition]
  apply Follows.bind (S.bindCall_follows h held hold made)
  rintro s₂ ⟨h₂, s₁, enters, grows⟩
  apply Follows.bind (S.blocks_translates answers _ h₂ _)
  rintro ⟨s₃, ns⟩ ⟨h₃, grows₃, made₃⟩
  obtain ⟨same, sound, back, kept⟩ := S.leave h enters h₃ (S.trans grows grows₃)
  simp only [Prod.map, same]
  exact Follows.ok (f := S.output) (a := (_, ns)) ⟨sound, back, kept ns made₃⟩

theorem expand_answers (limit : Nat) : S.Answers (expand env limit) (expand env limit) := by
  induction limit with
  | zero => exact fun _ _ _ _ _ _ _ => .error _
  | succ limit ih => exact S.invoke_answers ih

/-- Translating a script is read through a simulation. -/
theorem script_eq (h : S.Sound s) (limit : Nat) (bs : List Block) :
    script env limit (S.state s) (S.recast.blocks bs) =
      Document.mapClosures S.closure <$> script env limit s bs := by
  have follows : Follows (Document.mapClosures S.closure) (fun _ => True) (script env limit s bs)
      (script env limit (S.state s) (S.recast.blocks bs)) := by
    refine Follows.bind (f := id) (p := fun _ => True) (.lift (by simp) fun _ _ => trivial)
      fun symbols _ => ?_
    obtain ⟨same, sound, -⟩ := S.pushAll_moves h symbols
    simp only [id, same]
    refine Follows.bind (S.blocks_translates (S.expand_answers limit) 1 sound bs)
      fun ⟨s, ns⟩ _ => ?_
    exact .lift (Document.ofNodes_map S.closure ns) fun _ _ => trivial
  exact follows.2

end Simulation

end Translate

end MarkupTemplate

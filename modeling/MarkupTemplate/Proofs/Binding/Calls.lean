import MarkupTemplate.Proofs.Binding.Once
import MarkupTemplate.Proofs.Binding.Parameters
import MarkupTemplate.Proofs.Placement.Malformed
import MarkupTemplate.Proofs.Scoping.Forget

/-!
# Binding arguments

What every call that a translation comes to does with its arguments: when it binds them, what its body
sees then, which defaults it evaluates, and how it fails otherwise.
-/

namespace MarkupTemplate

open Scope

namespace Translate

/-! ### Defaults that a call does not evaluate -/

section Watching

variable {κ : Type} [Host] [Closing κ] {env : Env} {s : Watched κ} {c : κ} {span : Span} {index : Nat}

omit [Host] in
theorem Watched.default_follows (allowed : s.forbidden (Closing.closure c).id index = false)
    (compute : (String → Option (Value κ)) → Except Error (Value κ)) :
    Follows (Prod.map id Watched.state)
      (fun o => ∀ j, index < j → o.2.forbidden (Closing.closure c).id j =
        s.forbidden (Closing.closure c).id j)
      (s.default c index compute) (Run.ofExcept (s.state.default c index compute)) := by
  rw [State.default_eq]
  rcases here : s.state.cells (Closing.closure c).id index with ⟨_ | v⟩
  · rw [Watched.default_pending here allowed]
    simp only [Option.elim]
    cases compute (s.state.look (Closing.closure c).branch) with
    | error e => exact .error _
    | ok v =>
      refine Follows.ok (f := Prod.map id Watched.state) (a := (v, _)) fun j later => ?_
      simp [Watched.forbid, Nat.ne_of_gt later]
  · rw [Watched.default_computed here]
    exact Follows.ok (f := Prod.map id Watched.state) (a := (v, _)) fun _ _ => rfl

/-- Parameters are bound without the defaults of those that have arguments. -/
theorem bindParams_watched (slots : List (Param × Option (Value κ)))
    (allowed : ∀ i p, slots[i]? = some (p, none) →
      s.forbidden (Closing.closure c).id (index + i) = false) :
    Watched.state <$> bindParams env c span s index slots =
      bindParams env c span s.state index slots := by
  induction slots generalizing s index with
  | nil => rfl
  | cons entry rest ih =>
    obtain ⟨p, slot⟩ := entry
    have value : Follows (Prod.map id Watched.state)
        (fun o => ∀ j, index < j → o.2.forbidden (Closing.closure c).id j =
          s.forbidden (Closing.closure c).id j)
        (slotValue env c span s index p slot) (slotValue env c span s.state index p slot) := by
      cases slot with
      | some v =>
        refine Follows.ok (f := Prod.map id Watched.state) (a := (v, s)) ?_
        exact fun _ _ => rfl
      | none =>
        unfold slotValue
        cases p.default with
        | none => exact .error _
        | some e => exact Watched.default_follows (allowed 0 p rfl) _
    rw [bindParams, bindParams, value.2]
    cases found : slotValue env c span s index p slot with
    | error _ => rfl
    | ok o =>
      -- What has been forbidden on the way is at earlier places than those still to be bound.
      have later := value.1 o found
      refine ih fun i q here => ?_
      change o.2.forbidden _ _ = _
      rw [later _ (by omega), Nat.add_right_comm]
      exact allowed (i + 1) q here

omit [Host] in
theorem bindBody_watched (call : Call κ) (param : Option Ident) :
    Watched.state <$> bindBody s call param = bindBody s.state call param := by
  cases param with
  | none => rfl
  | some name =>
    simp only [bindBody]
    cases demoteAll ((Node.baseOf? call.body).getD call.indent) call.body <;> rfl

/-- A call binds its arguments without the defaults of the parameters that it supplies. -/
theorem bindCall_watched {call : Call κ}
    (distinct : ((Defined.definition c).signature.params.map (·.name.name)).Nodup)
    (void : (Defined.definition c).signature.bodyParam = none → call.body = [])
    (allowed : ∀ i p, (Defined.definition c).signature.params[i]? = some p → ¬ call.Supplies i p →
      s.forbidden (Closing.closure c).id i = false) :
    Watched.state <$> bindCall env s c call = bindCall env s.state c call := by
  simp only [bindCall]
  cases accepted : call.arguments (Defined.definition c).signature with
  | error _ => rfl
  | ok slots =>
    obtain ⟨-, rfl⟩ := (Call.arguments_eq_ok_iff distinct void).mp accepted
    let entered : Watched κ := { s with state := s.state.enter c call.indent }
    have bound : Watched.state <$> bindParams env c call.span entered 0
          (call.slots (Defined.definition c).signature.params) =
        bindParams env c call.span entered.state 0
          (call.slots (Defined.definition c).signature.params) := by
      refine bindParams_watched _ fun i p here => ?_
      obtain ⟨q, param, same⟩ := Option.map_eq_some_iff.mp (List.getElem?_mapIdx ▸ here)
      obtain ⟨rfl, missing⟩ := Prod.mk.inj same
      rw [Nat.zero_add]
      exact allowed i q param (Call.argument?_eq_none.mp missing)
    simp only [mapError_ok, locate, lift_eq_ofExcept, ofExcept_ok, ok_bind]
    change Watched.state <$> (bindParams env c call.span entered 0 _ >>= _) =
      bindParams env c call.span entered.state 0 _ >>= _
    rw [← bound]
    cases bindParams env c call.span entered 0
        (call.slots (Defined.definition c).signature.params) with
    | error _ => rfl
    | ok s' => exact bindBody_watched call _

end Watching

/-! ### Calls of a translation -/

/-- How a call of a closure binds its arguments in a state, where its body is demoted to `body`: the
body of the closure runs with the parameters bound, or the call fails and makes no nodes. -/
structure BindsArguments [Host] (env : Env) (s : State Closure) (c : Closure) (call : Call Closure)
    (body : List (Node Closure)) : Prop where
  runs : ∀ inner, invoke env inner s c call = (do
    let s' ← bindCall env s c call
    let (s', nodes) ← blocks env inner (c.depth + 1) s' c.body
    .ok (Scoping.leave (Scoping.mark s) s', nodes))
  succeeds : (∃ s', bindCall env s c call = .ok s') ↔ call.Matches c.signature.params ∧
    ∀ (i : Nat) (p : Param), c.signature.params[i]? = some p → ¬ call.Supplies i p →
      ∃ e v, p.default = some e ∧ s.defaultOf env.source c i e = .ok v
  fails : ∀ stop, bindCall env s c call = .error stop →
    (∀ inner, invoke env inner s c call = .error stop) ∧
      ∃ e, stop = .error e ∧ (e.category = .type ∨
        ∃ (i : Nat) (p : Param) (default : Expr), c.signature.params[i]? = some p ∧
          ¬ call.Supplies i p ∧ p.default = some default ∧
          default.eval env.source (s.look c.branch) = .error e)
  /-- The defaults that the call needs are kept. -/
  binds : ∀ s', bindCall env s c call = .ok s' →
    ∃ vs, Fills (s.defaultOf env.source c) call c.signature.params vs ∧
      s'.visible = s.store.bindings c.branch ++ c.signature.bindings vs body ∧
      ∀ (i : Nat) (p : Param), c.signature.params[i]? = some p → ¬ call.Supplies i p →
        s'.cells c.id i = ⟨vs[i]?⟩
  /-- The defaults of parameters that the call supplies may all be forbidden. -/
  spares : ∀ forbidden alarm, (∀ (i : Nat) (p : Param), c.signature.params[i]? = some p →
      ¬ call.Supplies i p → forbidden c.id i = false) →
    Watched.state <$> bindCall env ⟨s, forbidden, alarm⟩ c call = bindCall env s c call

section Reading

variable [Host] {env : Env} {s : State Closure} {c : Closure} {call : Call Closure}
  {body : List (Node Closure)} (h : s.InRange) (held : s.Bounded (.closure c))
  (positional : ∀ v ∈ call.positional, s.Bounded v)
  (named : ∀ entry ∈ call.named, s.Bounded entry.2)
  (distinct : (c.signature.params.map (·.name.name)).Nodup)
  (void : c.signature.bodyParam = none → call.body = [])
  (demotes : demoteAll ((Node.baseOf? call.body).getD call.indent) call.body = .ok body)

/-- A default that fails is one that is not kept. -/
theorem eval_of_defaultOf_error {index : Nat} {default : Expr} {e : Error}
    (failed : s.defaultOf env.source c index default = .error e) :
    default.eval env.source (s.look c.branch) = .error e := by
  unfold State.defaultOf at failed
  cases kept : (s.cells c.id index).value? with
  | none => rwa [kept] at failed
  | some v =>
    rw [kept] at failed
    cases failed

include h held positional named distinct void demotes

theorem binds_of_bindCall {s' : State Closure} (bound : bindCall env s c call = .ok s') :
    call.Matches c.signature.params ∧
      ∃ vs, Fills (s.defaultOf env.source c) call c.signature.params vs ∧
        s'.visible = s.store.bindings c.branch ++ c.signature.bindings vs body ∧
        ∀ (i : Nat) (p : Param), c.signature.params[i]? = some p → ¬ call.Supplies i p →
          s'.cells c.id i = ⟨vs[i]?⟩ := by
  rcases bindCall_cases env h held positional named with
    ⟨stop, failed, -⟩ | ⟨_, bs, done, binds, inside⟩
  · rw [failed] at bound
    cases bound
  · rw [done] at bound
    obtain rfl := Except.ok.inj bound
    obtain ⟨matching, vs, values, rfl⟩ := (callBindings_eq_ok distinct void demotes).mp binds
    refine ⟨matching, vs, fills_of_values matching values, inside.visible, fun i p here missing => ?_⟩
    refine inside.kept _ vs ((Call.arguments_eq_ok_iff distinct void).mpr ⟨matching, rfl⟩) values i p ?_
    rw [getElem?_slots, here, Option.map_some, Call.argument?_eq_none.mpr missing]

theorem exists_bindCall (matching : call.Matches c.signature.params)
    (defaults : ∀ (i : Nat) (p : Param), c.signature.params[i]? = some p → ¬ call.Supplies i p →
      ∃ e v, p.default = some e ∧ s.defaultOf env.source c i e = .ok v) :
    ∃ s', bindCall env s c call = .ok s' := by
  obtain ⟨vs, values⟩ : ∃ vs, paramValues env c.name call.span (s.defaultOf env.source c) 0
      (call.slots c.signature.params) = .ok vs := exists_paramValues defaults
  have binds := (callBindings_eq_ok (d := c.toDefinition) distinct void demotes).mpr
    ⟨matching, vs, values, rfl⟩
  rcases bindCall_cases env h held positional named with
    ⟨stop, -, failed⟩ | ⟨s', _, done, -⟩
  · rw [failed] at binds
    cases binds
  · exact ⟨s', done⟩

theorem bindsArguments : BindsArguments env s c call body where
  runs inner := invoke_eq env inner s c call
  succeeds := by
    constructor
    · rintro ⟨s', bound⟩
      obtain ⟨matching, vs, fills, -⟩ :=
        binds_of_bindCall h held positional named distinct void demotes bound
      refine ⟨matching, fun i p here missing => ?_⟩
      obtain ⟨e, v, hasDefault, value, -⟩ := fills.default i p here missing
      exact ⟨e, v, hasDefault, value⟩
    · rintro ⟨matching, defaults⟩
      exact exists_bindCall h held positional named distinct void demotes matching defaults
  fails stop failed := by
    refine ⟨fun inner => by rw [invoke_eq, failed, error_bind], ?_⟩
    rcases bindCall_cases env h held positional named with
      ⟨_, failed', missing⟩ | ⟨_, _, done, -⟩
    · rw [failed'] at failed
      obtain rfl := Except.error.inj failed
      obtain ⟨e, rfl, type | ⟨i, p, default, here, missing, hasDefault, value⟩⟩ :=
        callBindings_eq_error distinct void demotes missing
      · exact ⟨e, rfl, .inl type⟩
      · exact ⟨e, rfl, .inr ⟨i, p, default, here, missing, hasDefault,
          eval_of_defaultOf_error value⟩⟩
    · rw [done] at failed
      cases failed
  binds s' bound := (binds_of_bindCall h held positional named distinct void demotes bound).2
  spares forbidden alarm allowed :=
    bindCall_watched (s := ⟨s, forbidden, alarm⟩) distinct void allowed

end Reading

end Translate

namespace Template

open Translate

section Hosted

variable [Host] {t : Template} {context : Dict (Value Empty)}

/-- Every stage that a translation comes to is one of a translation that is watched. -/
theorem ComesTo.watched {stage : Stage (State Closure) Closure} (comes : t.ComesTo context stage) :
    ∃ next : Stage (Watched Closure) Closure,
      (unwatched (t.env context).source).SoundAt next ∧
        (unwatched (t.env context).source).stage next = stage := by
  obtain ⟨symbols, -, reaches⟩ := comes
  let first : Stage (Watched Closure) Closure :=
    .blocks t.engine.callLimit 1 (pushAll (Watched.start .callDepth) symbols) t.script.blocks
  obtain ⟨same, sound, -⟩ := (unwatched (t.env context).source).pushAll_moves
    (Watched.Sound.start .callDepth) symbols
  have start : (unwatched (t.env context).source).stage first = t.start symbols :=
    congrArg (Stage.blocks _ _ · _) same.symm
  rw [← start] at reaches
  exact (unwatched (t.env context).source).reaches rfl first sound reaches

/-- Every stage that a translation comes to is a sound one without its copies and its book, if the host
program hands on only what it is given. -/
theorem ComesTo.sound [Host.HandsOn] {stage : Stage (State Closure) Closure}
    (comes : t.ComesTo context stage) :
    ∃ next : Stage (Audited Twin) Twin,
      (running (t.env context).source).simulation.SoundAt next ∧
        (running (t.env context).source).simulation.stage next = stage := by
  obtain ⟨symbols, -, reaches⟩ := comes
  let first : Stage (Audited Twin) Twin :=
    .blocks t.engine.callLimit 1 (pushAll (Audited.start .callDepth) symbols) t.script.blocks
  obtain ⟨same, sound, -⟩ := (running (t.env context).source).simulation.pushAll_moves
    (Sound.start (t.env context).source .callDepth) symbols
  have start : (running (t.env context).source).simulation.stage first = t.start symbols := by
    rw [Template.start, ← State.start_map Twin.closure]
    exact congrArg (Stage.blocks _ _ · _) same.symm
  rw [← start] at reaches
  exact (running (t.env context).source).simulation.reaches rfl first sound reaches

/-- A default that is kept is what it evaluates to. -/
theorem defaultOf_eq [Host.HandsOn] {limit : Nat} {s : State Closure} {c : Closure} {k : Call Closure}
    (comes : t.ComesTo context (.call limit s c k)) {i : Nat} {p : Param} {e : Expr}
    (param : c.signature.params[i]? = some p) (hasDefault : p.default = some e) :
    s.defaultOf (t.env context).source c i e = e.eval (t.env context).source (s.look c.branch) := by
  obtain ⟨next, sound, same⟩ := comes.sound
  cases next with
  | call limit' s₀ c₀ k₀ =>
    obtain ⟨h, held, -⟩ := sound
    obtain ⟨-, rfl, rfl, rfl⟩ := Stage.call.inj same
    have captured := (Value.holds_closure.mp held).1
    have natural := Expr.eval_mapClosures Twin.unseen_closure (t.env context).source
      (s₀.state.look_map Twin.closure c₀.branch) e
    rcases kept : s₀.state.cells c₀.id i with ⟨_ | v⟩
    · have cell : ((s₀.state.map Twin.closure).cells c₀.id i).value? = none := by
        simp only [State.map, kept, Option.map_none]
      exact congrArg (Option.elim · _ _) cell
    · obtain ⟨p', e', param', hasDefault', value⟩ := captured.default i v kept
      obtain rfl := Option.some.inj (param.symm.trans param')
      obtain rfl := Option.some.inj (hasDefault.symm.trans hasDefault')
      have cell : ((s₀.state.map Twin.closure).cells c₀.id i).value? =
          some (v.mapClosures Twin.closure) := by
        simp only [State.map, kept, Option.map_some]
      rw [value, map_ok] at natural
      exact (congrArg (Option.elim · _ _) cell).trans natural.symm
  | _ => cases same

/-- No default is evaluated again once it has been. And whatever call of a closure with parameters of
different names a translation comes to, with a body that the closure takes and that is demoted to
`body`: it binds its arguments, and if that fails so does the translation. If the host program hands on
only closures that it is given, then the defaults are what they evaluate to at any time. -/
theorem translate_binds (t : Template) (context : Dict (Value Empty)) :
    (∀ alarm, t.translateOnce alarm context = t.translate context) ∧
    (∀ limit s c k body, t.ComesTo context (.call (limit + 1) s c k) →
      (c.signature.params.map (·.name.name)).Nodup → (c.signature.bodyParam = none → k.body = []) →
      demoteAll ((Node.baseOf? k.body).getD k.indent) k.body = .ok body →
      BindsArguments (t.env context) s c k body ∧
        ∀ stop, bindCall (t.env context) s c k = .error stop → t.translate context = .error stop) ∧
    (Host.HandsOn → ∀ limit s c k i p e, t.ComesTo context (.call limit s c k) →
      c.signature.params[i]? = some p → p.default = some e →
      s.defaultOf (t.env context).source c i e =
        e.eval (t.env context).source (s.look c.branch)) := by
  refine ⟨t.translateOnce_eq context, fun limit s c k body comes distinct void demotes => ?_,
    fun _ limit s c k i p e comes param hasDefault => defaultOf_eq comes param hasDefault⟩
  have binds : BindsArguments (t.env context) s c k body := by
    obtain ⟨next, sound, same⟩ := comes.watched
    cases next with
    | call limit' s₀ c₀ k₀ =>
      obtain ⟨h, held, hold, -⟩ := sound
      obtain ⟨-, rfl, rfl, rfl⟩ := Stage.call.inj same
      rw [show k₀.mapClosures (unwatched _).closure = k₀ from k₀.mapClosures_id] at void demotes ⊢
      exact bindsArguments h.inRange held hold.1 hold.2 distinct void demotes
    | _ => cases same
  exact ⟨binds, fun stop failed => comes.stops ((binds.fails stop failed).1 _)⟩

end Hosted

/-! ### A definition with a default -/

/-- A parameter without a default, one with a default, and a body. -/
def greeter (readDepth : Option Nat) : Definition where
  signature := ⟨⟨"f", {}⟩, [⟨⟨"a", {}⟩, none⟩, ⟨⟨"b", {}⟩, some (.literal (.integer 1) {})⟩],
    some ⟨"x", {}⟩, readDepth⟩
  body := [.text [.expr (.var ⟨"a", {}⟩ []), .expr (.var ⟨"b", {}⟩ []), .expr (.var ⟨"x", {}⟩ [])] {}]
  depth := 1

/-- The definition, and a call that names its first argument. -/
def greeting (readDepth : Option Nat) : List Block :=
  [.define (greeter readDepth).signature (greeter readDepth).body,
    .call ⟨"f", {}⟩ [.named ⟨"a", {}⟩ (.literal (.string "p") {})] [.text [.raw "q"] {}] {}]

def greetings : Template :=
  ⟨{ modules := .ofRegistry [], callLimit := 2 }, "", greeting (some 2), some 1⟩

namespace greetings

/-- The state in which the definition has been made. -/
def defined : State Closure :=
  define 1 (pushAll .start (greetings.engine.modules.initialSymbols.toOption.getD []))
    (greeter (some 2)).signature (greeter (some 2)).body

def closure : Closure := ⟨greeter (some 2), 0, ⟨0, 10⟩⟩

def call : Call Closure :=
  ⟨[], [("a", .string "p")], [.text "q"], Scoping.indent defined, {}⟩

theorem comesTo_call :
    letI := Host.passing
    ∃ s, greetings.ComesTo [] (.call 2 s closure call) := by
  let := Host.passing
  let symbols := greetings.engine.modules.initialSymbols.toOption.getD []
  have starts : greetings.ComesTo [] (greetings.start symbols) := ⟨_, rfl, .refl⟩
  have inRange : (pushAll (.start : State Closure) symbols).InRange := by
    obtain ⟨next, sound, same⟩ := starts.watched
    cases next with
    | blocks limit depth s₀ bs =>
      obtain ⟨-, -, same, -⟩ := Stage.blocks.inj same
      exact same ▸ sound.1
    | _ => cases same
  have calls : called (greetings.env []) defined ⟨"f", {}⟩ = .ok (.inr closure) :=
    inRange.called_define rfl
  have passes : evalArgs (greetings.env []) defined [.named ⟨"a", {}⟩ (.literal (.string "p") {})] =
      .ok ([], [("a", .string "p")]) := rfl
  have opens : opened defined {} = .ok (defined, none) := rfl
  have inner : Prod.snd <$> confined defined (fun s => blocks (greetings.env [])
      (expand (greetings.env []) 2) 1 s [.text [.raw "q"] {}]) = .ok [.text "q"] := rfl
  obtain ⟨⟨s, nodes⟩, done, rfl⟩ := map_eq_ok.mp inner
  have defines : Leads (greetings.env []) (greetings.start _)
      (.blocks 2 1 defined [(greeting (some 2))[1]]) := .next rfl
  exact ⟨s, _, rfl, .tail (.single defines) (.call calls passes opens done)⟩

theorem eq_one_of_not_supplies {i : Nat} {p : Param} (here : closure.signature.params[i]? = some p)
    (missing : ¬ call.Supplies i p) : i = 1 ∧ p.default = some (.literal (.integer 1) {}) := by
  rcases i with _ | _ | i
  · obtain rfl := Option.some.inj here
    exact absurd (.inr (List.mem_singleton.mpr rfl)) missing
  · obtain rfl := Option.some.inj here
    exact ⟨rfl, rfl⟩
  · cases here

end greetings

theorem translate_binds_greetings :
    letI := Host.passing
    greetings.engine.compile ⟨"", greeting none⟩ = .ok greetings ∧
      ∃ s s', greetings.ComesTo [] (.call 2 s greetings.closure greetings.call) ∧
        bindCall (greetings.env []) s greetings.closure greetings.call = .ok s' ∧
        s'.visible = s.store.bindings greetings.closure.branch ++
          [("$a", .string "p"), ("$b", .integer 1), ("$x", .nodes [.text "q"])] := by
  let := Host.passing
  have := Host.handsOn_passing
  have compiled : greetings.engine.compile ⟨"", greeting none⟩ = .ok greetings := by
    rw [Engine.compile, Script.resolve_eq_resolveDeclared]
    rfl
  obtain ⟨s, comes⟩ := greetings.comesTo_call
  have binds := ((translate_binds greetings []).2.1 1 s greetings.closure greetings.call [.text "q"]
    comes (by decide) (by simp [greetings.closure, greeter]) rfl).1
  have default : ∀ {i p e}, greetings.closure.signature.params[i]? = some p → p.default = some e →
      s.defaultOf (greetings.env []).source greetings.closure i e =
        e.eval (greetings.env []).source (s.look greetings.closure.branch) :=
    fun here hasDefault => (translate_binds greetings []).2.2 inferInstance 2 s _ greetings.call
      _ _ _ comes here hasDefault
  have matching : greetings.call.Matches greetings.closure.signature.params :=
    ⟨by decide, by decide, by decide, by decide⟩
  obtain ⟨s', bound⟩ := binds.succeeds.mpr ⟨matching, fun i p here missing => by
    have hasDefault := (greetings.eq_one_of_not_supplies here missing).2
    exact ⟨_, .integer 1, hasDefault, (default here hasDefault).trans rfl⟩⟩
  obtain ⟨vs, fills, visible, -⟩ := binds.binds s' bound
  obtain ⟨v, w, rfl⟩ := List.length_eq_two.mp fills.length
  have first : v = .string "p" := by
    obtain ⟨i, p, here, name, there⟩ := fills.named "a" (.string "p") List.mem_cons_self
    rcases i with _ | _ | i
    · exact Option.some.inj there
    · obtain rfl := Option.some.inj here
      simp at name
    · cases here
  have second : w = .integer 1 := by
    obtain ⟨e, u, hasDefault, value, there⟩ := fills.default 1 _ rfl (by
      simp [Call.Supplies, greetings.call])
    rw [default rfl hasDefault] at value
    obtain rfl := Option.some.inj hasDefault
    obtain rfl := Except.ok.inj value
    exact Option.some.inj there
  subst first second
  exact ⟨compiled, s, s', comes, bound, visible⟩

end Template

end MarkupTemplate

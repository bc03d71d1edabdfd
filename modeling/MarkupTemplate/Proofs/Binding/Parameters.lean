import MarkupTemplate.Proofs.Binding.Arguments
import MarkupTemplate.Proofs.Simulation.Calls
import MarkupTemplate.Proofs.Simulation.Levels

/-!
# Values of parameters

What a call binds the parameters of a definition to, as a computation on the slots alone: it sees
bindings only through the defaults, which may have been kept from earlier calls. Going into a closure
appends what is computed here to what the closure sees.
-/

namespace MarkupTemplate

open Scope

/-! ### Arguments -/

namespace Call

variable {κ : Type} {call : Call κ} {params : List Param}

/-- The call has an argument for a parameter and its place. -/
def Supplies (call : Call κ) (i : Nat) (p : Param) : Prop :=
  i < call.positional.length ∨ p.name.name ∈ call.named.map (·.1)

theorem argument?_eq_none {i : Nat} {p : Param} : call.argument? i p = none ↔ ¬ call.Supplies i p := by
  have unnamed : (∀ entry ∈ call.named, (p.name.name != entry.1) = true) ↔
      p.name.name ∉ call.named.map (·.1) := by
    simp only [bne_iff_ne, List.mem_map, not_exists, not_and]
    exact forall₂_congr fun _ _ => not_congr eq_comm
  rw [argument?, Supplies, not_or, Nat.not_lt, ← List.getElem?_eq_none_iff, ← unnamed,
    ← List.lookup_eq_none_iff]
  cases call.positional[i]? <;> simp

theorem params_slots : (call.slots params).map (·.1) = params := by
  refine List.ext_getElem? fun i => ?_
  rw [List.getElem?_map, slots, List.getElem?_mapIdx, Option.map_map]
  cases params[i]? <;> rfl

theorem argument?_positional {i : Nat} {v : Value κ} (p : Param) (here : call.positional[i]? = some v) :
    call.argument? i p = some v := by
  rw [argument?, here]
  rfl

theorem Matches.argument?_named (h : call.Matches params) {key : String} {v : Value κ}
    (member : (key, v) ∈ call.named) :
    ∃ i p, params[i]? = some p ∧ p.name.name = key ∧ call.argument? i p = some v := by
  obtain ⟨p, there, rfl⟩ := List.mem_map.mp (h.known _ member)
  obtain ⟨i, here⟩ := List.mem_iff_getElem?.mp there
  refine ⟨i, p, here, rfl, ?_⟩
  have later : call.positional.length ≤ i := by
    refine Nat.not_lt.mp fun first => h.free _ member (List.mem_map.mpr ⟨p, ?_, rfl⟩)
    exact List.mem_iff_getElem?.mpr ⟨i, by rw [List.getElem?_take_of_lt first, here]⟩
  obtain ⟨before, after, split⟩ := List.append_of_mem member
  have only : ∀ entry ∈ before, (p.name.name != entry.1) = true := by
    intro entry earlier
    have distinct := h.distinct
    rw [split, List.map_append, List.nodup_append] at distinct
    refine bne_iff_ne.mpr fun same => ?_
    exact distinct.2.2 _ (List.mem_map_of_mem earlier) _ List.mem_cons_self same.symm
  rw [argument?, List.getElem?_eq_none later, List.lookup_eq_some_iff.mpr ⟨before, after, split, only⟩]
  rfl

end Call

/-! ### Bindings -/

/-- Parameters and their values, in order. -/
def paramBindings {κ : Type} (params : List Param) (vs : List (Value κ)) : List (String × Value κ) :=
  params.zipWith (fun p v => (varSymbol p.name.name, v)) vs

/-- The parameters with their values, in order, and after them the body parameter with the body. -/
def Signature.bindings {κ : Type} (signature : Signature) (vs : List (Value κ))
    (body : List (Node κ)) : List (String × Value κ) :=
  paramBindings signature.params vs ++
    (signature.bodyParam.map fun name => (varSymbol name.name, Value.nodes body)).toList

namespace Translate

/-! ### Values -/

section Values

variable {κ : Type} {env : Env} {tag : String} {span : Span}
  {defaultOf : Nat → Expr → Except Error (Value κ)}

/-- The value for the parameter at a place: its argument, or else its default. -/
def paramValue (env : Env) (tag : String) (span : Span)
    (defaultOf : Nat → Expr → Except Error (Value κ)) (index : Nat) :
    Param × Option (Value κ) → Run (Value κ)
  | (_, some v) => .ok v
  | (p, none) =>
    match p.default with
    | some e => Run.ofExcept (defaultOf index e)
    | none => .failAt env.source span (.missingArgument tag p.name.name)

/-- The values for parameters from a place on, one after the other. -/
def paramValues (env : Env) (tag : String) (span : Span)
    (defaultOf : Nat → Expr → Except Error (Value κ)) :
    Nat → List (Param × Option (Value κ)) → Run (List (Value κ))
  | _, [] => .ok []
  | index, slot :: rest => do
    let v ← paramValue env tag span defaultOf index slot
    let vs ← paramValues env tag span defaultOf (index + 1) rest
    .ok (v :: vs)

/-- What the body parameter is bound to: the body, demoted below the shortest indentation in it. -/
def bodyBindings (call : Call κ) : Option Ident → Run (List (String × Value κ))
  | none => .ok []
  | some name => do
    let body ← demoteAll ((Node.baseOf? call.body).getD call.indent) call.body
    .ok [(varSymbol name.name, .nodes body)]

/-- What a call binds in the scope of a definition. -/
def callBindings (env : Env) (defaultOf : Nat → Expr → Except Error (Value κ)) (d : Definition)
    (call : Call κ) : Run (List (String × Value κ)) := do
  let slots ← locate env.source call.span <| (call.arguments d.signature).mapError Cause.toError
  let vs ← paramValues env d.name call.span defaultOf 0 slots
  let body ← bodyBindings call d.signature.bodyParam
  .ok (paramBindings (slots.map (·.1)) vs ++ body)

variable {index : Nat} {slots : List (Param × Option (Value κ))} {vs : List (Value κ)}

/-- The values are those of the slots at the same places. -/
theorem paramValues_spec (values : paramValues env tag span defaultOf index slots = .ok vs) :
    vs.length = slots.length ∧ ∀ i slot, slots[i]? = some slot →
      ∃ v, vs[i]? = some v ∧ paramValue env tag span defaultOf (index + i) slot = .ok v := by
  induction slots generalizing index vs with
  | nil =>
    obtain rfl := Except.ok.inj values
    exact ⟨rfl, nofun⟩
  | cons slot rest ih =>
    obtain ⟨v, first, values⟩ := bind_eq_ok.mp values
    obtain ⟨vs, others, values⟩ := bind_eq_ok.mp values
    obtain rfl := Except.ok.inj values
    obtain ⟨length, each⟩ := ih others
    refine ⟨congrArg (· + 1) length, fun i slot' here => ?_⟩
    cases i with
    | zero =>
      obtain rfl := Option.some.inj here
      exact ⟨v, rfl, first⟩
    | succ i =>
      rw [← Nat.add_assoc, Nat.add_right_comm]
      exact each i slot' here

theorem paramValues_eq_error {stop : Stop}
    (failed : paramValues env tag span defaultOf index slots = .error stop) :
    ∃ i slot, slots[i]? = some slot ∧
      paramValue env tag span defaultOf (index + i) slot = .error stop := by
  induction slots generalizing index with
  | nil => cases failed
  | cons slot rest ih =>
    rcases bind_eq_error.mp failed with here | ⟨v, -, failed⟩
    · exact ⟨0, slot, rfl, here⟩
    · rcases bind_eq_error.mp failed with later | ⟨vs, -, impossible⟩
      · obtain ⟨i, slot, there, failed⟩ := ih later
        exact ⟨i + 1, slot, there, by rwa [← Nat.add_assoc, Nat.add_right_comm]⟩
      · cases impossible

/-- Defaults at earlier places have no part in the values. -/
theorem paramValues_congr {defaultOf' : Nat → Expr → Except Error (Value κ)}
    (same : ∀ i ≥ index, ∀ e, defaultOf' i e = defaultOf i e) :
    paramValues env tag span defaultOf' index slots =
      paramValues env tag span defaultOf index slots := by
  induction slots generalizing index with
  | nil => rfl
  | cons slot rest ih =>
    have first : paramValue env tag span defaultOf' index slot =
        paramValue env tag span defaultOf index slot := by
      obtain ⟨p, _ | v⟩ := slot
      · simp only [paramValue, same index (Nat.le_refl _)]
      · rfl
    rw [paramValues, paramValues, first, ih fun i later => same i (by omega)]

/-- A parameter without an argument takes the value of its default. -/
theorem paramValue_none_eq_ok {p : Param} {v : Value κ} :
    paramValue env tag span defaultOf index (p, none) = .ok v ↔
      ∃ e, p.default = some e ∧ defaultOf index e = .ok v := by
  rw [paramValue]
  cases p.default with
  | none => simp [Run.failAt]
  | some e => simp

/-- A value is missing for want of an argument, or because of what a default fails with. -/
theorem paramValue_eq_error {p : Param} {slot : Option (Value κ)} {stop : Stop}
    (failed : paramValue env tag span defaultOf index (p, slot) = .error stop) :
    ∃ e, stop = .error e ∧ (e.category = .type ∨
      slot = none ∧ ∃ d, p.default = some d ∧ defaultOf index d = .error e) := by
  cases slot with
  | some v => cases failed
  | none =>
    unfold paramValue at failed
    dsimp only at failed
    split at failed
    · next d hasDefault =>
      cases value : defaultOf index d with
      | ok v =>
        rw [value] at failed
        cases failed
      | error e =>
        rw [value] at failed
        exact ⟨e, (Except.error.inj failed).symm, .inr ⟨rfl, d, hasDefault, value⟩⟩
    · exact ⟨_, (Except.error.inj failed).symm, .inl (Error.placed_category _ _ _)⟩

end Values

/-! ### Calls -/

/-- Values for the parameters of a call: the arguments for them, and for all others their defaults. -/
structure Fills {κ : Type} (defaultOf : Nat → Expr → Except Error (Value κ)) (call : Call κ)
    (params : List Param) (vs : List (Value κ)) : Prop where
  length : vs.length = params.length
  positional : ∀ (i : Nat) (v : Value κ), call.positional[i]? = some v → vs[i]? = some v
  named : ∀ key v, (key, v) ∈ call.named →
    ∃ (i : Nat) (p : Param), params[i]? = some p ∧ p.name.name = key ∧ vs[i]? = some v
  default : ∀ (i : Nat) (p : Param), params[i]? = some p → ¬ call.Supplies i p →
    ∃ e v, p.default = some e ∧ defaultOf i e = .ok v ∧ vs[i]? = some v

section Calls

variable {κ : Type} {env : Env} {tag : String} {defaultOf : Nat → Expr → Except Error (Value κ)}
  {call : Call κ} {params : List Param} {vs : List (Value κ)}

theorem getElem?_slots (i : Nat) :
    (call.slots params)[i]? = params[i]?.map fun p => (p, call.argument? i p) :=
  List.getElem?_mapIdx

theorem fills_of_values (matching : call.Matches params)
    (values : paramValues env tag call.span defaultOf 0 (call.slots params) = .ok vs) :
    Fills defaultOf call params vs := by
  obtain ⟨length, each⟩ := paramValues_spec values
  -- A parameter and the value for it are at the same place.
  have place : ∀ i p, params[i]? = some p → ∃ v, vs[i]? = some v ∧
      paramValue env tag call.span defaultOf i (p, call.argument? i p) = .ok v := by
    intro i p here
    obtain ⟨v, there, value⟩ := each i _ (by rw [getElem?_slots, here, Option.map_some])
    exact ⟨v, there, by rwa [Nat.zero_add] at value⟩
  have supplied : ∀ i p v, params[i]? = some p → call.argument? i p = some v → vs[i]? = some v := by
    intro i p v here argument
    obtain ⟨w, there, value⟩ := place i p here
    rw [argument] at value
    cases value
    exact there
  refine ⟨length.trans List.length_mapIdx, fun i v here => ?_, fun key v member => ?_,
    fun i p here missing => ?_⟩
  · have inside := Nat.lt_of_lt_of_le (List.getElem?_eq_some_iff.mp here).1 matching.positional
    exact supplied i _ v (List.getElem?_eq_getElem inside) (Call.argument?_positional _ here)
  · obtain ⟨i, p, here, name, argument⟩ := matching.argument?_named member
    exact ⟨i, p, here, name, supplied i p v here argument⟩
  · obtain ⟨v, there, value⟩ := place i p here
    rw [Call.argument?_eq_none.mpr missing] at value
    obtain ⟨e, hasDefault, value⟩ := paramValue_none_eq_ok.mp value
    exact ⟨e, v, hasDefault, value, there⟩

/-- There are values for all parameters if those without an argument have defaults. -/
theorem exists_paramValues (defaults : ∀ i p, params[i]? = some p → ¬ call.Supplies i p →
    ∃ e v, p.default = some e ∧ defaultOf i e = .ok v) :
    ∃ vs, paramValues env tag call.span defaultOf 0 (call.slots params) = .ok vs := by
  cases values : paramValues env tag call.span defaultOf 0 (call.slots params) with
  | ok vs => exact ⟨vs, rfl⟩
  | error stop =>
    obtain ⟨i, slot, there, failed⟩ := paramValues_eq_error values
    rw [getElem?_slots] at there
    obtain ⟨p, here, rfl⟩ := Option.map_eq_some_iff.mp there
    rw [Nat.zero_add] at failed
    cases argument : call.argument? i p with
    | some v =>
      rw [argument] at failed
      cases failed
    | none =>
      obtain ⟨e, v, hasDefault, value⟩ := defaults i p here (Call.argument?_eq_none.mp argument)
      rw [argument, paramValue_none_eq_ok.mpr ⟨e, hasDefault, value⟩] at failed
      cases failed

variable {d : Definition} {body : List (Node κ)}

variable (distinct : (d.signature.params.map (·.name.name)).Nodup)
  (void : d.signature.bodyParam = none → call.body = [])
  (demotes : demoteAll ((Node.baseOf? call.body).getD call.indent) call.body = .ok body)

include distinct void demotes

theorem callBindings_eq_ok {bs : List (String × Value κ)} :
    callBindings env defaultOf d call = .ok bs ↔ call.Matches d.signature.params ∧
      ∃ vs, paramValues env d.name call.span defaultOf 0 (call.slots d.signature.params) = .ok vs ∧
        bs = d.signature.bindings vs body := by
  have bodies : bodyBindings call d.signature.bodyParam =
      .ok (d.signature.bodyParam.map fun name => (varSymbol name.name, Value.nodes body)).toList := by
    cases d.signature.bodyParam with
    | none => rfl
    | some name => simp [bodyBindings, demotes]
  simp only [callBindings, lift_eq_ofExcept, bind_eq_ok, ofExcept_eq_ok, locate_eq_ok,
    mapError_eq_ok, Call.arguments_eq_ok_iff distinct void, bodies, Except.ok.injEq]
  constructor
  · rintro ⟨_, ⟨matching, rfl⟩, vs, values, _, rfl, rfl⟩
    exact ⟨matching, vs, values, by rw [Signature.bindings, Call.params_slots]⟩
  · rintro ⟨matching, vs, values, rfl⟩
    exact ⟨_, ⟨matching, rfl⟩, vs, values, _, rfl, by rw [Signature.bindings, Call.params_slots]⟩

/-- A call that cannot bind its parameters fails with an error of types or with that of a default. -/
theorem callBindings_eq_error {stop : Stop}
    (failed : callBindings env defaultOf d call = .error stop) :
    ∃ e, stop = .error e ∧ (e.category = .type ∨
      ∃ (i : Nat) (p : Param) (default : Expr), d.signature.params[i]? = some p ∧
        ¬ call.Supplies i p ∧ p.default = some default ∧ defaultOf i default = .error e) := by
  rcases bind_eq_error.mp failed with refused | ⟨slots, accepted, failed⟩
  · cases arguments : call.arguments d.signature with
    | ok _ =>
      rw [arguments] at refused
      cases refused
    | error cause =>
      rw [arguments] at refused
      have type := Call.arguments_eq_error void arguments
      exact ⟨_, (Except.error.inj refused).symm, .inl ((Error.placed_category _ _ _).trans type)⟩
  · have accepted := mapError_eq_ok.mp (locate_eq_ok.mp (ofExcept_eq_ok.mp accepted))
    obtain ⟨-, rfl⟩ := (Call.arguments_eq_ok_iff distinct void).mp accepted
    rcases bind_eq_error.mp failed with missing | ⟨vs, -, failed⟩
    · obtain ⟨i, slot, there, failed⟩ := paramValues_eq_error missing
      rw [getElem?_slots] at there
      obtain ⟨p, here, rfl⟩ := Option.map_eq_some_iff.mp there
      rw [Nat.zero_add] at failed
      obtain ⟨e, rfl, type | ⟨none, default, hasDefault, value⟩⟩ := paramValue_eq_error failed
      · exact ⟨e, rfl, .inl type⟩
      · exact ⟨e, rfl, .inr ⟨i, p, default, here, Call.argument?_eq_none.mp none, hasDefault, value⟩⟩
    · rcases bind_eq_error.mp failed with failed | ⟨_, -, impossible⟩
      · cases param : d.signature.bodyParam <;> simp [param, bodyBindings, demotes] at failed
      · cases impossible

end Calls

/-! ### Binding in the scope of a closure -/

/-- The visible bindings in order. -/
def State.visible {κ : Type} (s : State κ) : List (String × Value κ) := s.store.bindings s.branch

section Scopes

variable {s s' : State Closure} {c : Closure} {index : Nat}

theorem State.InRange.visible_push (h : s.InRange) (name : String)
    (v : Value Closure) : (s.push name v).visible = s.visible ++ [(name, v)] :=
  Stack.bindings_push h.store h.level name v

/-- Pushing leaves what lower levels look like. -/
theorem State.InRange.look_push (h : s.InRange) {b : Branch}
    (above : b.level < s.stack.level) (name : String) (v : Value Closure) :
    (s.push name v).look b = s.look b := by
  have agree : s.store.Agree (s.push name v).store b :=
    (Stack.agree_push h.level name v).mono (.inl above) (Nat.lt_trans above h.level)
  funext symbol
  exact congrArg (Option.map (·.2))
    (agree.findOn?_eq h.store (Stack.wellFormed_push h.store name v) symbol)

/-- The state in which a parameter has its value. Its default is kept if that is what it is. -/
def State.afterSlot (s : State Closure) (c : Closure) (index : Nat) (slot : Option (Value Closure))
    (v : Value Closure) : State Closure :=
  if slot.isSome then s else s.keep c.id index ⟨some v⟩

/-- Keeping a default changes nothing but the place where it is kept. -/
theorem State.InRange.afterSlot (h : s.InRange) (c : Closure) (index : Nat)
    (slot : Option (Value Closure)) {v : Value Closure} (bounded : s.Bounded v) :
    (s.afterSlot c index slot v).InRange ∧
      (s.afterSlot c index slot v).store = s.store ∧ (s.afterSlot c index slot v).stack = s.stack ∧
      (∀ i ≠ index, (s.afterSlot c index slot v).cells c.id i = s.cells c.id i) ∧
      (slot = none → (s.afterSlot c index slot v).cells c.id index = ⟨some v⟩) := by
  cases slot with
  | some w => exact ⟨h, rfl, rfl, fun _ _ => rfl, nofun⟩
  | none =>
    refine ⟨h.keep c.id index bounded, rfl, rfl, fun i other => ?_, fun _ => ?_⟩
    · exact if_neg fun same => other same.2
    · exact if_pos ⟨rfl, rfl⟩

/-- Parameters from a place on have been bound in a scope above that of the closure. -/
structure BoundFrom (index : Nat) (slots : List (Param × Option (Value Closure)))
    (vs : List (Value Closure)) (c : Closure) (s s' : State Closure) : Prop where
  inRange : s'.InRange
  visible : s'.visible = s.visible ++ paramBindings (slots.map (·.1)) vs
  earlier : ∀ i < index, s'.cells c.id i = s.cells c.id i
  kept : ∀ i p, slots[i]? = some (p, none) → s'.cells c.id (index + i) = ⟨vs[i]?⟩

theorem BoundFrom.cons (h : s.InRange) {p : Param} {slot : Option (Value Closure)} {v : Value Closure}
    (bounded : s.Bounded v) {rest : List (Param × Option (Value Closure))} {vs : List (Value Closure)}
    (bound : BoundFrom (index + 1) rest vs c
      ((s.afterSlot c index slot v).push (varSymbol p.name.name) v) s') :
    BoundFrom index ((p, slot) :: rest) (v :: vs) c s s' := by
  obtain ⟨h₁, store, stack, others, kept⟩ := h.afterSlot c index slot bounded
  refine ⟨bound.inRange, ?_, fun i early => ?_, fun i q here => ?_⟩
  · have visible : (s.afterSlot c index slot v).visible = s.visible := by
      rw [State.visible, State.branch, store, stack]
      rfl
    rw [bound.visible, h₁.visible_push, visible, List.append_assoc]
    rfl
  · rw [bound.earlier i (by omega)]
    exact others i (by omega)
  · cases i with
    | zero =>
      obtain ⟨-, rfl⟩ := Prod.mk.inj (Option.some.inj here)
      rw [Nat.add_zero, bound.earlier index (by omega)]
      exact kept rfl
    | succ i =>
      rw [← Nat.add_assoc, Nat.add_right_comm]
      exact bound.kept i q here

theorem bindBody_cases (h : s.InRange) (call : Call Closure) (param : Option Ident) :
    (∃ stop, bindBody s call param = .error stop ∧ bodyBindings call param = .error stop) ∨
    ∃ s' bs, bindBody s call param = .ok s' ∧ bodyBindings call param = .ok bs ∧
      s'.visible = s.visible ++ bs ∧ s'.cells = s.cells := by
  cases param with
  | none => exact .inr ⟨s, [], rfl, rfl, (List.append_nil _).symm, rfl⟩
  | some name =>
    simp only [bindBody, bodyBindings]
    cases demoteAll ((Node.baseOf? call.body).getD call.indent) call.body with
    | error e => exact .inl ⟨.error e, rfl, rfl⟩
    | ok body => exact .inr ⟨_, _, rfl, rfl, h.visible_push _ _, rfl⟩

end Scopes

section Binding

variable [Host] {env : Env} {s s' : State Closure} {c : Closure} {span : Span} {index : Nat}

theorem slotValue_eq (index : Nat) (p : Param) (slot : Option (Value Closure)) :
    slotValue env c span s index p slot = (fun v => (v, s.afterSlot c index slot v)) <$>
      paramValue env c.name span (s.defaultOf env.source c) index (p, slot) := by
  cases slot with
  | some v => rfl
  | none =>
    cases hasDefault : p.default with
    | none =>
      simp only [slotValue, paramValue, hasDefault]
      rfl
    | some e =>
      simp only [slotValue, paramValue, hasDefault]
      change Run.ofExcept (s.default c index fun look => e.eval env.source look) = _
      rw [State.default_eq_defaultOf]
      cases s.defaultOf env.source c index e <;> rfl

theorem State.InRange.paramValue (h : s.InRange) {p : Param} {slot : Option (Value Closure)}
    {v : Value Closure} (hold : ∀ w, slot = some w → s.Bounded w)
    (value : paramValue env c.name span (s.defaultOf env.source c) index (p, slot) = .ok v) :
    s.Bounded v := by
  cases slot with
  | some w =>
    obtain rfl := Except.ok.inj value
    exact hold w rfl
  | none =>
    obtain ⟨e, -, value⟩ := paramValue_none_eq_ok.mp value
    exact h.defaultOf value

variable (env span) in
/-- Binding the parameters gives them their values, or fails as finding the values does. -/
theorem bindParams_cases {slots : List (Param × Option (Value Closure))} (index : Nat)
    (h : s.InRange) (above : c.branch.level < s.stack.level) (hold : Call.Filled s.Bounded slots) :
    (∃ stop, bindParams env c span s index slots = .error stop ∧
      paramValues env c.name span (s.defaultOf env.source c) index slots = .error stop) ∨
    ∃ s' vs, bindParams env c span s index slots = .ok s' ∧
      paramValues env c.name span (s.defaultOf env.source c) index slots = .ok vs ∧
      BoundFrom index slots vs c s s' := by
  induction slots generalizing s index with
  | nil =>
    refine .inr ⟨s, [], rfl, rfl, h, ?_, fun _ _ => rfl, nofun⟩
    simp [paramBindings]
  | cons entry rest ih =>
    obtain ⟨p, slot⟩ := entry
    rw [bindParams, paramValues, slotValue_eq]
    cases value : paramValue env c.name span (s.defaultOf env.source c) index (p, slot) with
    | error stop => exact .inl ⟨stop, rfl, rfl⟩
    | ok v =>
      have bounded : s.Bounded v :=
        h.paramValue (fun w same => hold p w (same ▸ List.mem_cons_self)) value
      obtain ⟨h₁, store, stack, others, -⟩ := h.afterSlot c index slot bounded
      let s₂ := (s.afterSlot c index slot v).push (varSymbol p.name.name) v
      have size : s.size = (s.afterSlot c index slot v).size := congrArg (·.levels.size) store.symm
      obtain ⟨h₂, grows⟩ := h₁.push (varSymbol p.name.name) (bounded.below (Nat.le_of_eq size))
      have above₁ : c.branch.level < (s.afterSlot c index slot v).stack.level := stack ▸ above
      -- The defaults to come are as they were: what the closure sees is on a lower level.
      have later : ∀ i ≥ index + 1, ∀ e, s₂.defaultOf env.source c i e =
          s.defaultOf env.source c i e := by
        intro i late e
        have cell : s₂.cells c.id i = s.cells c.id i := others i (by omega)
        have look : s₂.look c.branch = s.look c.branch := by
          rw [h₁.look_push above₁]
          funext symbol
          rw [State.look, State.look, store]
        rw [State.defaultOf, State.defaultOf, cell, look]
      have hold₂ : Call.Filled s₂.Bounded rest := fun q w member =>
        (hold q w (List.mem_cons_of_mem _ member)).below (Nat.le_trans (Nat.le_of_eq size) grows.size)
      have next := ih (index + 1) h₂ (grows.level ▸ above₁) hold₂
      rw [paramValues_congr later] at next
      simp only [map_ok, ok_bind]
      rcases next with ⟨stop, failed, missing⟩ | ⟨s', vs, done, values, bound⟩
      · exact .inl ⟨stop, failed, by rw [missing, error_bind]⟩
      · exact .inr ⟨s', v :: vs, done, by rw [values, ok_bind], bound.cons h bounded⟩

/-- The state in which a call has bound some values in the scope of a closure. -/
structure BoundIn (env : Env) (s : State Closure) (c : Closure) (call : Call Closure)
    (bs : List (String × Value Closure)) (s' : State Closure) : Prop where
  visible : s'.visible = s.store.bindings c.branch ++ bs
  kept : ∀ slots vs, call.arguments c.signature = .ok slots →
    paramValues env c.name call.span (s.defaultOf env.source c) 0 slots = .ok vs →
    ∀ i p, slots[i]? = some (p, none) → s'.cells c.id i = ⟨vs[i]?⟩

variable (env) in
/-- Going into a closure adds what the call binds to what the closure sees. -/
theorem bindCall_cases {call : Call Closure} (h : s.InRange) (held : s.Bounded (.closure c))
    (positional : ∀ v ∈ call.positional, s.Bounded v)
    (named : ∀ entry ∈ call.named, s.Bounded entry.2) :
    (∃ stop, bindCall env s c call = .error stop ∧
      callBindings env (s.defaultOf env.source c) c.toDefinition call = .error stop) ∨
    ∃ s' bs, bindCall env s c call = .ok s' ∧
      callBindings env (s.defaultOf env.source c) c.toDefinition call = .ok bs ∧
      BoundIn env s c call bs s' := by
  have definition : Defined.definition c = c.toDefinition := rfl
  simp only [bindCall, callBindings, definition]
  cases accepted : call.arguments c.signature with
  | error cause => exact .inl ⟨_, rfl, rfl⟩
  | ok slots =>
    obtain ⟨-, filled⟩ := Call.arguments_inherit positional named accepted
    have below : c.Below s.size := Value.throughout_closure.mp held
    let s₁ := s.enter c call.indent
    have h₁ : s₁.InRange := h.enter held call.indent
    have deeper := s.size_le_enter c call.indent
    have agree : s.store.Agree s₁.store c.branch := Store.agree_add below _
    have defaults : s₁.defaultOf env.source c = s.defaultOf env.source c := by
      have look : s₁.look c.branch = s.look c.branch := by
        funext symbol
        exact congrArg (Option.map (·.2)) (agree.findOn?_eq h.store h₁.store symbol)
      funext i e
      rw [State.defaultOf, State.defaultOf, look]
      rfl
    have seen : s₁.visible = s.store.bindings c.branch := by
      have branch : s₁.branch = ⟨s.size, c.branch.length⟩ :=
        congrArg (Branch.mk _) (Stack.length_stackOn s.store c.branch call.indent)
      rw [State.visible, branch]
      exact Store.bindings_congr fun i inside =>
        Stack.bindingAt?_stackOn h.store below call.indent inside
    have bound := bindParams_cases env call.span 0 h₁ below
      fun p v member => (filled p v member).below deeper
    rw [defaults] at bound
    simp only [mapError_ok, locate, lift_eq_ofExcept, ofExcept_ok, ok_bind]
    change (∃ stop, (bindParams env c call.span s₁ 0 slots >>= _) = _ ∧ _) ∨
      ∃ s' bs, (bindParams env c call.span s₁ 0 slots >>= _) = _ ∧ _
    rcases bound with ⟨stop, failed, missing⟩ | ⟨s₂, vs, done, values, bound⟩
    · exact .inl ⟨stop, by rw [failed, error_bind], by rw [missing, error_bind]⟩
    · rw [done, values, ok_bind, ok_bind]
      rcases bindBody_cases bound.inRange call c.signature.bodyParam with
        ⟨stop, failed, missing⟩ | ⟨s₃, bs, done, body, visible, cells⟩
      · exact .inl ⟨stop, failed, by rw [missing, error_bind]⟩
      · refine .inr ⟨s₃, _, done, by rw [body, ok_bind], ?_, fun slots' vs' accepted' values' => ?_⟩
        · rw [visible, bound.visible, seen, List.append_assoc]
        · rw [accepted] at accepted'
          obtain rfl := Except.ok.inj accepted'
          rw [values] at values'
          obtain rfl := Except.ok.inj values'
          intro i p here
          rw [cells, ← bound.kept i p here, Nat.zero_add]

end Binding

end Translate

end MarkupTemplate

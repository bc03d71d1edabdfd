import MarkupTemplate.Proofs.Result
import MarkupTemplate.Script.Resolve
import MarkupTemplate.Script.Translate

/-!
# Properties that values inherit

Whatever a script makes of values consists of their parts, of literals and of scalars. A property that
lists and maps have with their elements, and that scalars have, is passed on by functions,
expressions and arguments.
-/

namespace MarkupTemplate

variable {κ : Type}

theorem Dict.mem_of_get? {α : Type} {key : String} {v : α} {entries : Dict α}
    (h : Dict.get? key entries = some v) : (key, v) ∈ entries := by
  induction entries with
  | nil => cases h
  | cons entry rest ih =>
    obtain ⟨k, w⟩ := entry
    simp only [get?] at h
    split at h
    · next same =>
      obtain rfl := Option.some.inj h
      simp [same]
    · exact List.mem_cons_of_mem _ (ih h)

section Functions

variable [Host] [Shows κ]

/-- A property that lists and maps have if and only if all their elements do, that scalars which
functions may give have anyway, and that functions of the host program keep. -/
structure Value.Hereditary (Q : Value κ → Prop) : Prop where
  none : Q .none
  bool (b : Bool) : Q (.bool b)
  integer (i : Int64) : Q (.integer i)
  string (s : String) : Q (.string s)
  list {items : List (Value κ)} : Q (.list items) ↔ ∀ v ∈ items, Q v
  map {entries : List (String × Value κ)} : Q (.map entries) ↔ ∀ entry ∈ entries, Q entry.2
  host (serial : Nat) {args : List (Value κ)} {w : Value κ} : (∀ v ∈ args, Q v) →
    (Host.function serial).call Shows.shown args = .ok w → Q w

/-- Two properties at once. -/
theorem Value.Hereditary.and {Q R : Value κ → Prop} (her : Hereditary Q) (her' : Hereditary R) :
    Hereditary fun v => Q v ∧ R v where
  none := ⟨her.none, her'.none⟩
  bool b := ⟨her.bool b, her'.bool b⟩
  integer i := ⟨her.integer i, her'.integer i⟩
  string s := ⟨her.string s, her'.string s⟩
  list {items} := by
    rw [her.list, her'.list]
    simp only [forall_and]
  map {entries} := by
    rw [her.map, her'.map]
    simp only [forall_and]
  host serial _ _ h ok :=
    ⟨her.host serial (fun v member => (h v member).1) ok,
      her'.host serial (fun v member => (h v member).2) ok⟩

namespace Builtin

open Value

variable {Q : Value κ → Prop} (her : Hereditary Q)

include her

theorem firstOf_inherits {v w : Value κ} (h : Q v) (ok : firstOf v = .ok w) : Q w := by
  cases v with
  | list items =>
    obtain rfl := Except.ok.inj ok
    cases items with
    | nil => exact her.none
    | cons item rest => exact her.list.mp h item (by simp)
  | _ => cases ok

theorem lastOf_inherits {v w : Value κ} (h : Q v) (ok : lastOf v = .ok w) : Q w := by
  cases v with
  | list items =>
    obtain rfl := Except.ok.inj ok
    cases last : items.getLast? with
    | none => exact her.none
    | some item => exact her.list.mp h item (List.mem_of_getLast? last)
  | _ => cases ok

theorem lengthOf_inherits {v w : Value κ} (ok : lengthOf v = .ok w) : Q w := by
  cases v <;> simp only [lengthOf] at ok <;>
    first | (cases ok; done) | (obtain rfl := Except.ok.inj ok; exact her.integer _)

theorem reversed_inherits {v w : Value κ} (h : Q v) (ok : reversed v = .ok w) : Q w := by
  cases v with
  | string s => obtain rfl := Except.ok.inj ok; exact her.string _
  | list items =>
    obtain rfl := Except.ok.inj ok
    exact her.list.mpr fun item member => her.list.mp h item (List.mem_reverse.mp member)
  | _ => cases ok

omit [Host] [Shows κ] her in
theorem orDefault_inherits {v d : Value κ} (h : Q v) (hd : Q d) : Q (orDefault v d) := by
  cases v <;> first | exact hd | exact h

theorem element_inherits {v key w : Value κ} (h : Q v) (ok : element v key = .ok w) :
    Q w := by
  cases v with
  | none => obtain rfl := Except.ok.inj ok; exact her.none
  | list items =>
    cases key with
    | integer i =>
      obtain rfl := Except.ok.inj ok
      split
      · cases found : items[i.toInt.toNat]? with
        | none => exact her.none
        | some item => exact her.list.mp h item (List.mem_of_getElem? found)
      · exact her.none
    | _ => cases ok
  | map entries =>
    cases key with
    | string s =>
      obtain rfl := Except.ok.inj ok
      cases found : Dict.get? s entries with
      | none => exact her.none
      | some item => exact her.map.mp h _ (Dict.mem_of_get? found)
    | _ => cases ok
  | _ => cases ok

theorem joined_inherits {v separator w : Value κ} (ok : joined v separator = .ok w) : Q w := by
  obtain ⟨s, -, ok⟩ := bind_eq_ok.mp ok
  cases v with
  | list items =>
    obtain ⟨texts, -, ok⟩ := bind_eq_ok.mp ok
    obtain rfl := Except.ok.inj ok
    exact her.string _
  | _ => cases ok

theorem onText_inherits {g : Builtin} {t : List Char → List Char} {v w : Value κ}
    (ok : g.onText t v = .ok w) : Q w := by
  obtain ⟨s, -, ok⟩ := bind_eq_ok.mp ok
  obtain rfl := Except.ok.inj ok
  exact her.string _

/-- The value of a function consists of parts of its arguments and of scalars. -/
theorem call_inherits {g : Builtin} {args : List (Value κ)} {w : Value κ}
    (h : ∀ v ∈ args, Q v) (ok : g.call args = .ok w) : Q w := by
  unfold call at ok
  split at ok
  · exact onText_inherits her ok
  · exact onText_inherits her ok
  · obtain ⟨s, -, ok⟩ := bind_eq_ok.mp ok
    obtain ⟨pattern, -, ok⟩ := bind_eq_ok.mp ok
    obtain ⟨replacement, -, ok⟩ := bind_eq_ok.mp ok
    obtain rfl := Except.ok.inj ok
    exact her.string _
  · exact firstOf_inherits her (h _ (by simp)) ok
  · exact lastOf_inherits her (h _ (by simp)) ok
  · exact lengthOf_inherits her ok
  · exact reversed_inherits her (h _ (by simp)) ok
  · obtain rfl := Except.ok.inj ok
    exact orDefault_inherits (h _ (by simp)) (h _ (by simp))
  · exact element_inherits her (h _ (by simp)) ok
  · exact joined_inherits her ok
  · cases ok

end Builtin

theorem Function.call_inherits {Q : Value κ → Prop} (her : Value.Hereditary Q) {f : Function}
    {args : List (Value κ)} {w : Value κ} (h : ∀ v ∈ args, Q v) (ok : f.call args = .ok w) : Q w := by
  cases f with
  | builtin f => exact Builtin.call_inherits her h ok
  | host serial _ => exact her.host serial h ok

end Functions

/-! ### Expressions -/

mutual

/-- Every literal of the expression has a property. -/
def Expr.Writes (literal : Value Empty → Prop) : Expr → Prop
  | .literal value _ => literal value
  | .var .. | .tagRef _ => True
  | .list items | .concat items => Expr.AllWrite literal items
  | .not e => e.Writes literal
  | .filter receiver _ args => receiver.Writes literal ∧ Expr.AllWrite literal args

def Expr.AllWrite (literal : Value Empty → Prop) : List Expr → Prop
  | [] => True
  | e :: es => e.Writes literal ∧ Expr.AllWrite literal es

end

mutual

theorem Expr.writes_of_forall {literal : Value Empty → Prop} (all : ∀ v, literal v) :
    ∀ e : Expr, e.Writes literal
  | .literal value _ => all value
  | .var .. | .tagRef _ => trivial
  | .list items | .concat items => Expr.allWrite_of_forall all items
  | .not e => Expr.writes_of_forall all e
  | .filter receiver _ args =>
    ⟨Expr.writes_of_forall all receiver, Expr.allWrite_of_forall all args⟩

theorem Expr.allWrite_of_forall {literal : Value Empty → Prop} (all : ∀ v, literal v) :
    ∀ es : List Expr, Expr.AllWrite literal es
  | [] => trivial
  | e :: es => ⟨Expr.writes_of_forall all e, Expr.allWrite_of_forall all es⟩

end

section Eval

variable {Q : Value κ → Prop} {source : String} {look : String → Option (Value κ)}

theorem valueOf_inherits (h : ∀ symbol v, look symbol = some v → Q v) {symbol : String}
    {span : Span} {w : Value κ}
    (ok : valueOf source look symbol span = .ok w) : Q w := by
  unfold valueOf at ok
  split at ok
  · next found => obtain rfl := Except.ok.inj ok; exact h _ _ found
  · cases ok

variable [Host] [Shows κ]

theorem Value.step_inherits (her : Value.Hereditary Q) {v w : Value κ} {key : Key} (h : Q v)
    (ok : v.step source key = .ok w) : Q w := by
  unfold step at ok
  split at ok
  · split at ok
    · next found =>
      obtain rfl := Except.ok.inj ok
      exact her.list.mp h _ (List.mem_of_getElem? found)
    · cases ok
  · cases ok
  · split at ok
    · next found =>
      obtain rfl := Except.ok.inj ok
      exact her.map.mp h _ (Dict.mem_of_get? found)
    · cases ok
  · cases ok
  · cases ok

theorem Value.follow_inherits (her : Value.Hereditary Q) {v w : Value κ} {path : List Key} (h : Q v)
    (ok : v.follow source path = .ok w) : Q w := by
  induction path generalizing v with
  | nil => obtain rfl := Except.ok.inj ok; exact h
  | cons key rest ih =>
    obtain ⟨part, found, ok⟩ := bind_eq_ok.mp ok
    exact ih (step_inherits her h found) ok

mutual

theorem Expr.eval_inherits (her : Value.Hereditary Q)
    (h : ∀ symbol v, look symbol = some v → Q v) : ∀ (e : Expr) (w : Value κ),
      e.Writes (fun v => Q v.lift) → e.eval source look = .ok w → Q w
  | .literal value _, w, written, ok => by
    obtain rfl := Except.ok.inj ok
    exact written
  | .var name path, w, _, ok => by
    obtain ⟨v, found, ok⟩ := bind_eq_ok.mp ok
    exact Value.follow_inherits her (valueOf_inherits h found) ok
  | .tagRef name, w, _, ok => by
    obtain ⟨v, found, ok⟩ := bind_eq_ok.mp ok
    split at ok
    · obtain rfl := Except.ok.inj ok
      exact valueOf_inherits h found
    · cases ok
  | .list items, w, written, ok => by
    obtain ⟨vs, found, rfl⟩ := map_eq_ok.mp ok
    exact her.list.mpr (Expr.evalAll_inherits her h items vs written found)
  | .not e, w, _, ok => by
    obtain ⟨v, -, ok⟩ := bind_eq_ok.mp ok
    obtain rfl := Except.ok.inj ok
    exact her.bool _
  | .concat items, w, _, ok => by
    obtain ⟨s, -, rfl⟩ := map_eq_ok.mp ok
    exact her.string s
  | .filter receiver name args, w, ⟨received, written⟩, ok => by
    obtain ⟨g, found, ok⟩ := bind_eq_ok.mp ok
    cases g with
    | function g =>
      obtain ⟨v, evaluated, ok⟩ := bind_eq_ok.mp ok
      obtain ⟨vs, evaluatedAll, ok⟩ := bind_eq_ok.mp ok
      exact Function.call_inherits her (List.forall_mem_cons.mpr
        ⟨Expr.eval_inherits her h receiver v received evaluated,
          Expr.evalAll_inherits her h args vs written evaluatedAll⟩) (locate_eq_ok.mp ok)
    | _ => cases ok

theorem Expr.evalAll_inherits (her : Value.Hereditary Q)
    (h : ∀ symbol v, look symbol = some v → Q v) : ∀ (es : List Expr) (ws : List (Value κ)),
      Expr.AllWrite (fun v => Q v.lift) es → Expr.evalAll source look es = .ok ws → ∀ w ∈ ws, Q w
  | [], ws, _, ok => by
    obtain rfl := Except.ok.inj ok
    nofun
  | e :: es, ws, ⟨first, rest⟩, ok => by
    obtain ⟨v, evaluated, ok⟩ := bind_eq_ok.mp ok
    obtain ⟨vs, evaluatedAll, ok⟩ := bind_eq_ok.mp ok
    obtain rfl := Except.ok.inj ok
    exact List.forall_mem_cons.mpr ⟨Expr.eval_inherits her h e v first evaluated,
      Expr.evalAll_inherits her h es vs rest evaluatedAll⟩

end

end Eval

/-! ### Arguments and names -/

namespace Call

variable {Q : Value κ → Prop}

/-- The slots of a call are filled with values of some kind. -/
def Filled (Q : Value κ → Prop) (slots : List (Param × Option (Value κ))) : Prop :=
  ∀ p v, (p, some v) ∈ slots → Q v

theorem fillPositional_inherits (params : List Param) {vs : List (Value κ)} (hold : ∀ v ∈ vs, Q v) :
    (fillPositional params vs).map (·.1) = params ∧ Filled Q (fillPositional params vs) := by
  induction params generalizing vs with
  | nil => exact ⟨rfl, nofun⟩
  | cons p ps ih =>
    cases vs with
    | nil =>
      have none : ∀ v ∈ ([] : List (Value κ)), Q v := nofun
      obtain ⟨names, rest⟩ := ih none
      exact ⟨by rw [fillPositional, List.map_cons, names], fun q v member => by
        rcases List.mem_cons.mp member with same | later
        · cases same
        · exact rest q v later⟩
    | cons w ws =>
      obtain ⟨first, others⟩ := List.forall_mem_cons.mp hold
      obtain ⟨names, rest⟩ := ih others
      exact ⟨by rw [fillPositional, List.map_cons, names], fun q v member => by
        rcases List.mem_cons.mp member with same | later
        · cases same; exact first
        · exact rest q v later⟩

theorem setNamed_inherits {name key : String} {w : Value κ} (holds : Q w)
    {slots slots' : List (Param × Option (Value κ))} (hold : Filled Q slots)
    (ok : setNamed name key w slots = .ok slots') :
    slots'.map (·.1) = slots.map (·.1) ∧ Filled Q slots' := by
  induction slots generalizing slots' with
  | nil => cases ok
  | cons entry rest ih =>
    obtain ⟨p, slot⟩ := entry
    have others : Filled Q rest := fun q v member => hold q v (List.mem_cons_of_mem _ member)
    simp only [setNamed] at ok
    split at ok
    · cases slot with
      | some v => cases ok
      | none =>
        obtain rfl := Except.ok.inj ok
        refine ⟨rfl, fun q v member => ?_⟩
        rcases List.mem_cons.mp member with same | later
        · cases same; exact holds
        · exact others q v later
    · obtain ⟨slots, set, rfl⟩ := map_eq_ok.mp ok
      obtain ⟨names, more⟩ := ih others set
      refine ⟨by rw [List.map_cons, names, List.map_cons], fun q v member => ?_⟩
      rcases List.mem_cons.mp member with same | later
      · exact hold q v (same ▸ List.mem_cons_self)
      · exact more q v later

theorem setAllNamed_inherits {name : String} {named : List (String × Value κ)}
    (holds : ∀ entry ∈ named, Q entry.2) {slots slots' : List (Param × Option (Value κ))}
    (hold : Filled Q slots) (ok : setAllNamed name slots named = .ok slots') :
    slots'.map (·.1) = slots.map (·.1) ∧ Filled Q slots' := by
  induction named generalizing slots with
  | nil =>
    obtain rfl := Except.ok.inj ok
    exact ⟨rfl, hold⟩
  | cons entry rest ih =>
    obtain ⟨first, others⟩ := List.forall_mem_cons.mp holds
    obtain ⟨slots₁, set, ok⟩ := bind_eq_ok.mp ok
    obtain ⟨names, hold₁⟩ := setNamed_inherits first hold set
    obtain ⟨names', hold'⟩ := ih others hold₁ ok
    exact ⟨names'.trans names, hold'⟩

/-- Every parameter has a slot, in order, and the slots are filled with the arguments. -/
theorem arguments_inherit {call : Call κ} {signature : Signature}
    {slots : List (Param × Option (Value κ))} (positional : ∀ v ∈ call.positional, Q v)
    (named : ∀ entry ∈ call.named, Q entry.2) (ok : call.arguments signature = .ok slots) :
    slots.map (·.1) = signature.params ∧ Filled Q slots := by
  obtain ⟨names, hold⟩ := fillPositional_inherits signature.params positional
  simp only [arguments] at ok
  split at ok
  · cases ok
  · split at ok
    · cases ok
    · obtain ⟨names', hold'⟩ := setAllNamed_inherits named hold ok
      exact ⟨names'.trans names, hold'⟩

end Call

namespace Translate

theorem called.eq_closure_of_callable? {v : Value κ} {c : κ}
    (h : called.callable? v = some (.inr c)) : v = .closure c := by
  cases v <;> simp [called.callable?] at h
  exact congrArg _ h

variable {σ μ : Type} [Scoping σ κ μ] {Q : Value κ → Prop} {env : Env} {s : σ}

/-- A closure that was bound later than any variable of its name is called by that name. -/
theorem called_of_latest {name : Ident} {i : Nat} {c : κ}
    (tag : Scoping.find? (tagSymbol name.name) s = some (i, .closure c))
    (later : ∀ j v, Scoping.find? (varSymbol name.name) s = some (j, v) → j ≤ i) :
    called env s name = .ok (.inr c) := by
  have itself : called.callable? (.closure c) = some (Sum.inr c) := rfl
  rw [called, tag]
  cases var : Scoping.find? (varSymbol name.name) s with
  | none => rfl
  | some found =>
    obtain ⟨j, v⟩ := found
    simp only [itself]
    cases called.callable? v with
    | none => rfl
    | some t => simp only [if_neg (Nat.not_lt.mpr (later j v var))]

/-- Every visible value has a property. -/
def AllVisible (Q : Value κ → Prop) (s : σ) : Prop :=
  ∀ name i v, Scoping.find? name s = some (i, v) → Q v

namespace AllVisible

section Called

variable (visible : AllVisible Q s)

include visible

/-- What a name stands for when it is called is a visible value. -/
theorem called_inherits {name : Ident} {c : κ} (ok : called env s name = .ok (.inr c)) :
    Q (.closure c) := by
  have callable : ∀ {symbol i v}, Scoping.find? symbol s = some (i, v) →
      called.callable? v = some (.inr c) → Q (.closure c) := by
    intro symbol i v found closure
    exact called.eq_closure_of_callable? closure ▸ visible symbol i v found
  unfold called at ok
  split at ok
  · next i defined j held found found' =>
    split at ok
    · next t u isTag isVar =>
      split at ok
      · obtain rfl := Except.ok.inj ok; exact callable found' isVar
      · obtain rfl := Except.ok.inj ok; exact callable found isTag
    · next isTag _ => obtain rfl := Except.ok.inj ok; exact callable found isTag
    · next isVar => obtain rfl := Except.ok.inj ok; exact callable found' isVar
    · cases ok
  · next found _ =>
    split at ok
    · next isTag => obtain rfl := Except.ok.inj ok; exact callable found isTag
    · cases ok
  · next found =>
    split at ok
    · next isVar => obtain rfl := Except.ok.inj ok; exact callable found isVar
    · cases ok
  · cases ok

end Called

variable [Host] [Defined κ] (visible : AllVisible Q s) (her : Value.Hereditary Q)

include visible her

theorem eval_inherits {e : Expr} (written : e.Writes fun v => Q v.lift) {v : Value κ}
    (ok : eval env s e = .ok v) : Q v := by
  refine Expr.eval_inherits her (fun name w found => ?_) e v written ok
  obtain ⟨⟨i, w⟩, here, rfl⟩ := Option.map_eq_some_iff.mp found
  exact visible name i w here

theorem evalArgs_inherit {args : List Arg} {vs : List (Value κ)} {named : List (String × Value κ)}
    (written : Expr.AllWrite (fun v => Q v.lift) (Resolve.argExprs args))
    (ok : evalArgs env s args = .ok (vs, named)) :
    (∀ v ∈ vs, Q v) ∧ ∀ entry ∈ named, Q entry.2 := by
  induction args generalizing vs named with
  | nil =>
    obtain ⟨rfl, rfl⟩ := Prod.mk.inj (Except.ok.inj ok)
    exact ⟨nofun, nofun⟩
  | cons arg rest ih =>
    cases arg with
    | positional e =>
      obtain ⟨v, value, ok⟩ := bind_eq_ok.mp ok
      obtain ⟨⟨vs', named'⟩, values, ok⟩ := bind_eq_ok.mp ok
      obtain ⟨rfl, rfl⟩ := Prod.mk.inj (Except.ok.inj ok)
      obtain ⟨positional, byName⟩ := ih written.2 values
      exact ⟨List.forall_mem_cons.mpr
        ⟨visible.eval_inherits her written.1 value, positional⟩, byName⟩
    | named name e =>
      obtain ⟨v, value, ok⟩ := bind_eq_ok.mp ok
      obtain ⟨⟨vs', named'⟩, values, ok⟩ := bind_eq_ok.mp ok
      obtain ⟨rfl, rfl⟩ := Prod.mk.inj (Except.ok.inj ok)
      obtain ⟨positional, byName⟩ := ih written.2 values
      exact ⟨positional, List.forall_mem_cons.mpr
        ⟨visible.eval_inherits her written.1 value, byName⟩⟩

end AllVisible

end Translate

end MarkupTemplate

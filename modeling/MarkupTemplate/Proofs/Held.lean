import MarkupTemplate.Proofs.Hereditary
import MarkupTemplate.Proofs.Replace.Script

/-!
# Closures that values hold

The closures that a script can get at through a value. Every closure that an expression evaluates
to or that an argument holds comes from a binding that the expressions read. Closures in the
attributes of nodes are out of reach.
-/

namespace MarkupTemplate

variable {κ μ : Type}

mutual

/-- The closures that a value holds. -/
def Value.closures : Value κ → List κ
  | .closure c => [c]
  | .list items => Value.closuresList items
  | .map entries => Value.closuresEntries entries
  | _ => []

def Value.closuresList : List (Value κ) → List κ
  | [] => []
  | v :: vs => v.closures ++ Value.closuresList vs

def Value.closuresEntries : List (String × Value κ) → List κ
  | [] => []
  | (_, v) :: rest => v.closures ++ Value.closuresEntries rest

end

namespace Value

@[simp] theorem mem_closuresList {c : κ} {vs : List (Value κ)} :
    c ∈ closuresList vs ↔ ∃ v ∈ vs, c ∈ v.closures := by
  induction vs with
  | nil => simp [closuresList]
  | cons v vs ih => simp [closuresList, ih]

@[simp] theorem mem_closuresEntries {c : κ} {entries : List (String × Value κ)} :
    c ∈ closuresEntries entries ↔ ∃ entry ∈ entries, c ∈ entry.2.closures := by
  induction entries with
  | nil => simp [closuresEntries]
  | cons entry rest ih => simp [closuresEntries, ih]

mutual

theorem closures_mapClosures (f : κ → μ) :
    ∀ v : Value κ, (v.mapClosures f).closures = v.closures.map f
  | .list items => by simpa [mapClosures, closures] using closuresList_map f items
  | .map entries => by simpa [mapClosures, closures] using closuresEntries_map f entries
  | .none | .bool _ | .integer _ | .float _ | .string _ | .tag _ | .closure _ | .function _
  | .nodes _ => rfl

theorem closuresList_map (f : κ → μ) :
    ∀ vs : List (Value κ), closuresList (vs.map (mapClosures f)) = (closuresList vs).map f
  | [] => rfl
  | v :: vs => by simp [closuresList, closures_mapClosures f v, closuresList_map f vs]

theorem closuresEntries_map (f : κ → μ) : ∀ entries : List (String × Value κ),
    closuresEntries (entries.map (Prod.map id (mapClosures f))) = (closuresEntries entries).map f
  | [] => rfl
  | (_, v) :: rest => by
    simp [closuresEntries, closures_mapClosures f v, closuresEntries_map f rest]

end

@[simp] theorem closures_lift (v : Value Empty) : (v.lift : Value κ).closures = [] := by
  rw [lift, closures_mapClosures]
  cases v.closures with
  | nil => rfl
  | cons c rest => exact c.elim

/-! ### Values that come from values -/

/-- A property of closures, of all that a value holds. -/
def Holds (P : κ → Prop) (v : Value κ) : Prop := ∀ c ∈ v.closures, P c

variable {P : κ → Prop}

theorem holds_list {items : List (Value κ)} : (list items).Holds P ↔ ∀ v ∈ items, v.Holds P := by
  simp only [Holds, closures, mem_closuresList]
  constructor
  · intro h v member c held
    exact h c ⟨v, member, held⟩
  · intro h c ⟨v, member, held⟩
    exact h v member c held

theorem holds_map {entries : List (String × Value κ)} :
    (map entries).Holds P ↔ ∀ entry ∈ entries, entry.2.Holds P := by
  simp only [Holds, closures, mem_closuresEntries]
  constructor
  · intro h v member c held
    exact h c ⟨v, member, held⟩
  · intro h c ⟨v, member, held⟩
    exact h v member c held

@[simp] theorem holds_closure {c : κ} : (closure c).Holds P ↔ P c := by simp [Holds, closures]

@[simp] theorem holds_lift (v : Value Empty) : (v.lift : Value κ).Holds P := by simp [Holds]

@[simp] theorem holds_none : (none : Value κ).Holds P := nofun

@[simp] theorem holds_bool (b : Bool) : (bool b : Value κ).Holds P := nofun

@[simp] theorem holds_integer (i : Int64) : (integer i : Value κ).Holds P := nofun

@[simp] theorem holds_string (s : String) : (string s : Value κ).Holds P := nofun

@[simp] theorem holds_nodes (ns : List (Node κ)) : (nodes ns).Holds P := nofun

theorem Holds.mono {Q : κ → Prop} {v : Value κ} (h : v.Holds P) (imp : ∀ c, P c → Q c) :
    v.Holds Q := fun c held => imp c (h c held)

end Value

section Eval

variable [Host]

/-- The functions of the host program hand on closures that their arguments hold, and do not get at
those in the attributes of nodes. -/
class Host.HandsOn : Prop where
  held (serial : Nat) {κ : Type} (shown : κ → Shown) {args : List (Value κ)} {w : Value κ} :
    (Host.function serial).call shown args = .ok w → ∀ c ∈ w.closures, ∃ v ∈ args, c ∈ v.closures

omit [Host] in
theorem Host.handsOn_passing : @Host.HandsOn .passing := by
  let := Host.passing
  refine ⟨fun serial _ shown args w ok c held => ⟨w, ?_, held⟩⟩
  rw [HostFunction.passing_eq_ok.mp ok]
  exact List.mem_singleton_self w

variable [Shows κ] [Host.HandsOn]

/-- What closures a value holds is decided by its parts. -/
theorem Value.hereditary_holds (P : κ → Prop) : Hereditary (Holds P) where
  none := holds_none
  bool := holds_bool
  integer := holds_integer
  string := holds_string
  list := holds_list
  map := holds_map
  host serial _ _ h ok c held :=
    have ⟨v, member, inside⟩ := Host.HandsOn.held serial Shows.shown ok c held
    h v member c inside

variable {P : κ → Prop} {source : String} {look : String → Option (Value κ)}

theorem Expr.eval_holds (h : ∀ symbol v, look symbol = some v → v.Holds P) (e : Expr) (w : Value κ)
    (ok : e.eval source look = .ok w) : w.Holds P :=
  e.eval_inherits (Value.hereditary_holds P) h w (e.writes_of_forall Value.holds_lift) ok

end Eval

/-! ### Arguments and names -/

namespace Call

variable {P : κ → Prop}

/-- The slots of a call hold what its arguments hold. -/
def SlotsHold (P : κ → Prop) (slots : List (Param × Option (Value κ))) : Prop :=
  ∀ p v, (p, some v) ∈ slots → v.Holds P

/-- Every parameter has a slot, in order, and the slots hold what the arguments hold. -/
theorem arguments_spec {call : Call κ} {signature : Signature}
    {slots : List (Param × Option (Value κ))} (positional : ∀ v ∈ call.positional, v.Holds P)
    (named : ∀ entry ∈ call.named, entry.2.Holds P) (ok : call.arguments signature = .ok slots) :
    slots.map (·.1) = signature.params ∧ SlotsHold P slots :=
  arguments_inherit positional named ok

end Call

namespace Translate

variable {σ μ : Type} [Scoping σ κ μ] {P : κ → Prop} {env : Env} {s : σ}

/-- Every visible value holds closures with a property only. -/
def Sees (P : κ → Prop) (s : σ) : Prop :=
  ∀ name i v, Scoping.find? name s = some (i, v) → v.Holds P

theorem Sees.visible (h : Sees P s) : AllVisible (Value.Holds P) s := h

/-- A closure that a name stands for is one that a visible value holds. -/
theorem Sees.called_holds (h : Sees P s) {name : Ident} {c : κ}
    (ok : called env s name = .ok (.inr c)) : P c :=
  Value.holds_closure.mp (h.visible.called_inherits ok)

/-- Every argument holds closures with a property only. -/
def ArgsHold (P : κ → Prop) (args : List (Value κ)) (named : List (String × Value κ)) : Prop :=
  (∀ v ∈ args, v.Holds P) ∧ ∀ entry ∈ named, entry.2.Holds P

theorem ArgsHold.mono {Q : κ → Prop} {args : List (Value κ)} {named : List (String × Value κ)}
    (h : ArgsHold P args named) (imp : ∀ c, P c → Q c) : ArgsHold Q args named :=
  ⟨fun v member => (h.1 v member).mono imp, fun entry member => (h.2 entry member).mono imp⟩

variable [Host] [Host.HandsOn] [Defined κ]

theorem Sees.eval_holds (h : Sees P s) {e : Expr} {v : Value κ} (ok : eval env s e = .ok v) :
    v.Holds P :=
  h.visible.eval_inherits (Value.hereditary_holds P) (e.writes_of_forall Value.holds_lift) ok

theorem Sees.evalArgs_hold (h : Sees P s) {args : List Arg} {vs : List (Value κ)}
    {named : List (String × Value κ)} (ok : evalArgs env s args = .ok (vs, named)) :
    ArgsHold P vs named :=
  h.visible.evalArgs_inherit (Value.hereditary_holds P)
    (Expr.allWrite_of_forall Value.holds_lift _) ok

end Translate

end MarkupTemplate

import MarkupTemplate.Proofs.Result
import MarkupTemplate.Value.Builtin

/-!
# Replacing the closures of values

Operations on values do not look into closures: they give the same on values whose closures have
been replaced, with the closures of the result replaced too.
-/

namespace MarkupTemplate

variable {κ μ ν : Type}

/-! ### Lists and entries -/

@[simp] theorem Value.mapClosuresList_eq (f : κ → μ) (vs : List (Value κ)) :
    Value.mapClosuresList f vs = vs.map (Value.mapClosures f) := by
  induction vs with
  | nil => rfl
  | cons v vs ih => simp [Value.mapClosuresList, ih]

@[simp] theorem Value.mapClosuresEntries_eq (f : κ → μ) (entries : List (String × Value κ)) :
    Value.mapClosuresEntries f entries = entries.map (Prod.map id (Value.mapClosures f)) := by
  induction entries with
  | nil => rfl
  | cons entry rest ih => simp [Value.mapClosuresEntries, ih, Prod.map]

@[simp] theorem Node.mapClosuresList_eq (f : κ → μ) (ns : List (Node κ)) :
    Node.mapClosuresList f ns = ns.map (Node.mapClosures f) := by
  induction ns with
  | nil => rfl
  | cons n ns ih => simp [Node.mapClosuresList, ih]

theorem Dict.get?_map {α β : Type} (f : α → β) (key : String) (entries : Dict α) :
    Dict.get? key (entries.map (Prod.map id f)) = (Dict.get? key entries).map f := by
  induction entries with
  | nil => rfl
  | cons entry rest ih =>
    obtain ⟨k, v⟩ := entry
    by_cases h : key = k <;> simp [Dict.get?, h, ih]

/-! ### Replacing twice -/

mutual

theorem Value.mapClosures_mapClosures (f : κ → μ) (g : μ → ν) :
    ∀ v : Value κ, (v.mapClosures f).mapClosures g = v.mapClosures fun c => g (f c)
  | .list items => by
    simpa [Value.mapClosures] using Value.mapClosures_mapClosures_list f g items
  | .map entries => by
    simpa [Value.mapClosures] using Value.mapClosures_mapClosures_entries f g entries
  | .nodes ns => by
    simpa [Value.mapClosures] using Node.mapClosures_mapClosures_list f g ns
  | .none | .bool _ | .integer _ | .float _ | .string _ | .tag _ | .closure _ | .function _ => rfl

theorem Value.mapClosures_mapClosures_list (f : κ → μ) (g : μ → ν) :
    ∀ vs : List (Value κ), ∀ v ∈ vs,
      (v.mapClosures f).mapClosures g = v.mapClosures fun c => g (f c)
  | [] => nofun
  | v :: vs => List.forall_mem_cons.mpr
    ⟨Value.mapClosures_mapClosures f g v, Value.mapClosures_mapClosures_list f g vs⟩

theorem Value.mapClosures_mapClosures_entries (f : κ → μ) (g : μ → ν) :
    ∀ entries : List (String × Value κ), ∀ key v, (key, v) ∈ entries →
      (v.mapClosures f).mapClosures g = v.mapClosures fun c => g (f c)
  | [] => nofun
  | (_, v) :: rest => fun key v' member => by
    rcases List.mem_cons.mp member with same | later
    · obtain ⟨-, rfl⟩ := Prod.mk.inj same
      exact Value.mapClosures_mapClosures f g v'
    · exact Value.mapClosures_mapClosures_entries f g rest key v' later

theorem Node.mapClosures_mapClosures (f : κ → μ) (g : μ → ν) :
    ∀ n : Node κ, (n.mapClosures f).mapClosures g = n.mapClosures fun c => g (f c)
  | .text _ => rfl
  | .root body => by
    simpa [Node.mapClosures] using Node.mapClosures_mapClosures_list f g body
  | .element ⟨_, positional, named, _⟩ _ body => by
    simpa [Node.mapClosures] using
      ⟨⟨Value.mapClosures_mapClosures_list f g positional,
        Value.mapClosures_mapClosures_entries f g named⟩,
        Node.mapClosures_mapClosures_list f g body⟩

theorem Node.mapClosures_mapClosures_list (f : κ → μ) (g : μ → ν) :
    ∀ ns : List (Node κ), ∀ n ∈ ns,
      (n.mapClosures f).mapClosures g = n.mapClosures fun c => g (f c)
  | [] => nofun
  | n :: ns => List.forall_mem_cons.mpr
    ⟨Node.mapClosures_mapClosures f g n, Node.mapClosures_mapClosures_list f g ns⟩

end

/-! ### Replacing nothing -/

mutual

theorem Value.mapClosures_id : ∀ v : Value κ, v.mapClosures id = v
  | .list items => congrArg Value.list (Value.mapClosuresList_id items)
  | .map entries => congrArg Value.map (Value.mapClosuresEntries_id entries)
  | .nodes ns => congrArg Value.nodes (Node.mapClosuresList_id ns)
  | .none | .bool _ | .integer _ | .float _ | .string _ | .tag _ | .closure _ | .function _ => rfl

theorem Value.mapClosuresList_id : ∀ vs : List (Value κ), Value.mapClosuresList id vs = vs
  | [] => rfl
  | v :: vs => by
    rw [Value.mapClosuresList, Value.mapClosures_id v, Value.mapClosuresList_id vs]

theorem Value.mapClosuresEntries_id :
    ∀ entries : List (String × Value κ), Value.mapClosuresEntries id entries = entries
  | [] => rfl
  | (_, v) :: rest => by
    rw [Value.mapClosuresEntries, Value.mapClosures_id v, Value.mapClosuresEntries_id rest]

theorem Node.mapClosures_id : ∀ n : Node κ, n.mapClosures id = n
  | .text _ => rfl
  | .root body => congrArg Node.root (Node.mapClosuresList_id body)
  | .element ⟨_, positional, named, _⟩ _ body => by
    rw [Node.mapClosures, Value.mapClosuresList_id positional, Value.mapClosuresEntries_id named,
      Node.mapClosuresList_id body]

theorem Node.mapClosuresList_id : ∀ ns : List (Node κ), Node.mapClosuresList id ns = ns
  | [] => rfl
  | n :: ns => by
    rw [Node.mapClosuresList, Node.mapClosures_id n, Node.mapClosuresList_id ns]

end

theorem Value.mapClosures_id' : (Value.mapClosures id : Value κ → Value κ) = id :=
  funext mapClosures_id

theorem Node.mapClosures_id' : (Node.mapClosures id : Node κ → Node κ) = id :=
  funext mapClosures_id

namespace Value

@[simp] theorem mapClosures_lift (f : κ → μ) (v : Value Empty) : v.lift.mapClosures f = v.lift := by
  unfold lift
  rw [mapClosures_mapClosures]
  congr
  funext c
  exact c.elim

/-! ### Shape -/

variable (f : κ → μ)

@[simp] theorem kind_mapClosures (v : Value κ) : (v.mapClosures f).kind = v.kind := by
  cases v <;> rfl

@[simp] theorem isTruthy_mapClosures (v : Value κ) : (v.mapClosures f).isTruthy = v.isTruthy := by
  cases v <;> simp [mapClosures, isTruthy]

@[simp] theorem scalarText?_mapClosures (v : Value κ) :
    (v.mapClosures f).scalarText? = v.scalarText? := by
  cases v <;> rfl

@[simp] theorem text_mapClosures (v : Value κ) : (v.mapClosures f).text = v.text := by
  simp [text]

@[simp] theorem texts_map (vs : List (Value κ)) : texts (vs.map (mapClosures f)) = texts vs := by
  induction vs with
  | nil => rfl
  | cons v vs ih => simp [texts, ih]

@[simp] theorem mapClosures_getD_none (v : Option (Value κ)) :
    (v.getD .none).mapClosures f = (v.map (mapClosures f)).getD .none := by
  cases v <;> rfl

end Value

/-! ### Functions -/

namespace Builtin

variable (f : κ → μ)

@[simp] theorem stringArgument_mapClosures (g : Builtin) (v : Value κ) :
    g.stringArgument (v.mapClosures f) = g.stringArgument v := by
  cases v <;> rfl

theorem onText_mapClosures (g : Builtin) (h : List Char → List Char) (v : Value κ) :
    g.onText h (v.mapClosures f) = Value.mapClosures f <$> g.onText h v := by
  simp [onText, map_bind, Value.mapClosures]

theorem firstOf_mapClosures (v : Value κ) :
    firstOf (v.mapClosures f) = Value.mapClosures f <$> firstOf v := by
  cases v <;> simp [Value.mapClosures, firstOf, Value.kind]

theorem lastOf_mapClosures (v : Value κ) :
    lastOf (v.mapClosures f) = Value.mapClosures f <$> lastOf v := by
  cases v <;> simp [Value.mapClosures, lastOf, Value.kind]

theorem lengthOf_mapClosures (v : Value κ) :
    lengthOf (v.mapClosures f) = Value.mapClosures f <$> lengthOf v := by
  cases v <;> simp [Value.mapClosures, lengthOf, Value.kind, Value.ofSize]

theorem reversed_mapClosures (v : Value κ) :
    reversed (v.mapClosures f) = Value.mapClosures f <$> reversed v := by
  cases v <;> simp [Value.mapClosures, reversed, Value.kind]

theorem orDefault_mapClosures (v d : Value κ) :
    orDefault (v.mapClosures f) (d.mapClosures f) = (orDefault v d).mapClosures f := by
  cases v <;> rfl

theorem element_mapClosures (v key : Value κ) :
    element (v.mapClosures f) (key.mapClosures f) = Value.mapClosures f <$> element v key := by
  cases v <;> cases key <;>
    simp [Value.mapClosures, element, Value.kind, Dict.get?_map, apply_ite (Value.mapClosures f)]

theorem joined_mapClosures (v separator : Value κ) :
    joined (v.mapClosures f) (separator.mapClosures f) =
      Value.mapClosures f <$> joined v separator := by
  cases v <;> simp [Value.mapClosures, joined, Value.kind, map_bind]

/-- A function gives the same on arguments whose closures have been replaced. -/
theorem call_map (g : Builtin) (args : List (Value κ)) :
    g.call (args.map (Value.mapClosures f)) = Value.mapClosures f <$> g.call args := by
  -- No function takes more than three arguments.
  rcases args with _ | ⟨v, _ | ⟨w, _ | ⟨x, _ | ⟨y, rest⟩⟩⟩⟩ <;> cases g <;>
    simp [call, onText_mapClosures, firstOf_mapClosures, lastOf_mapClosures, lengthOf_mapClosures,
      reversed_mapClosures, orDefault_mapClosures, element_mapClosures, joined_mapClosures,
      map_bind, Value.mapClosures]

end Builtin

/-! ### The host program -/

theorem HostFunction.passing_eq_ok {κ : Type} {shown : κ → Shown} {args : List (Value κ)} {w : Value κ} :
    HostFunction.passing.call shown args = .ok w ↔ args = [w] := by
  match args with
  | [] | _ :: _ :: _ => simp [passing, fail]
  | [v] => simp [passing]

/-- The body of a tag, with its closures replaced twice. -/
theorem TagBody.mapClosures_mapClosures (f : κ → μ) (g : μ → ν) (body : TagBody κ) :
    (body.mapClosures f).mapClosures g = body.mapClosures fun c => g (f c) := by
  cases body with
  | text s => rfl
  | nodes ns rendered =>
    simpa [mapClosures] using Node.mapClosures_mapClosures_list f g ns

variable [Shows κ] [Shows μ] {f : κ → μ}

theorem Value.shown_mapClosures (h : ∀ c, Shows.shown (f c) = Shows.shown c) (v : Value κ) :
    (v.mapClosures f).shown = v.shown := by
  simp only [shown, mapClosures_mapClosures, h]

variable [Host]

/-- The host program does the same with closures and with what replaces them. -/
structure Host.Unseen (f : κ → μ) : Prop where
  call (serial : Nat) (args : List (Value κ)) :
    (Host.function serial).call Shows.shown (args.map (Value.mapClosures f)) =
      Value.mapClosures f <$> (Host.function serial).call Shows.shown args
  expand (serial : Nat) (body : TagBody κ) (positional : List (Value κ))
      (named : List (String × Value κ)) :
    Host.expand serial (body.mapClosures f).shown
      (positional.map fun v => (v.mapClosures f).shown)
      (named.map fun entry => (entry.1, (entry.2.mapClosures f).shown)) =
    Host.expand serial body.shown (positional.map Value.shown)
      (named.map (Prod.map id Value.shown))

/-- Closures that are seen alike replace each other. -/
theorem Host.unseen_of_shown (h : ∀ c, Shows.shown (f c) = Shows.shown c) : Host.Unseen f where
  call serial args := by
    rw [HostFunction.call_map]
    simp only [h]
  expand serial body positional named := by
    simp only [Value.shown, TagBody.shown, Value.mapClosures_mapClosures,
      TagBody.mapClosures_mapClosures, h]
    rfl

/-- The name of a closure, without what is seen of the place of its definition. -/
def Shown.nameOnly (c : Shown) : Shown := ⟨c.name, 0, 0⟩

/-- The host program tells closures apart by their names only. -/
class Host.Nominal : Prop where
  call (serial : Nat) {κ : Type} (shown : κ → Shown) (args : List (Value κ)) :
    (Host.function serial).call (fun c => (shown c).nameOnly) args =
      (Host.function serial).call shown args
  expand (serial : Nat) (body : TagBody Shown) (positional : List (Value Shown))
      (named : List (String × Value Shown)) :
    Host.expand serial (body.mapClosures Shown.nameOnly)
      (positional.map (Value.mapClosures Shown.nameOnly))
      (named.map (Prod.map id (Value.mapClosures Shown.nameOnly))) =
    Host.expand serial body positional named

omit [Host] in
theorem Value.nameOnly_shown (h : ∀ c, (Shows.shown (f c)).name = (Shows.shown c).name) (v : Value κ) :
    (v.mapClosures f).shown.mapClosures Shown.nameOnly = v.shown.mapClosures Shown.nameOnly := by
  simp only [shown, mapClosures_mapClosures, Shown.nameOnly, h]

/-- Closures with one name replace each other, if the host program looks at nothing else. -/
theorem Host.unseen_of_name [Host.Nominal]
    (h : ∀ c, (Shows.shown (f c)).name = (Shows.shown c).name) : Host.Unseen f where
  call serial args := by
    rw [HostFunction.call_map, ← Host.Nominal.call serial (fun c => Shows.shown (f c)),
      ← Host.Nominal.call serial Shows.shown]
    simp only [Shown.nameOnly, h]
  expand serial body positional named := by
    rw [← Host.Nominal.expand, ← Host.Nominal.expand serial body.shown]
    simp only [Value.shown, TagBody.shown, List.map_map, Function.comp_def, Prod.map,
      Value.mapClosures_mapClosures, TagBody.mapClosures_mapClosures, Shown.nameOnly, h, id]

theorem Function.call_map (unseen : Host.Unseen f) (g : Function) (args : List (Value κ)) :
    g.call (args.map (Value.mapClosures f)) = Value.mapClosures f <$> g.call args := by
  cases g with
  | builtin g => exact Builtin.call_map f g args
  | host serial _ => exact unseen.call serial args

end MarkupTemplate

import Mathlib.Data.List.Nodup
import MarkupTemplate.Proofs.Resolved.Failures

/-!
# Arguments for parameters

Which calls a definition accepts, and which argument each of its parameters gets. The arguments are
sorted one after the other, where each finds what those before it have left. `arguments_eq_ok_iff` says
the same of all of them at once.
-/

namespace MarkupTemplate

variable {κ : Type}

namespace Call

/-- The argument for a parameter and its place: the positional one at the place, or the one of its
name. -/
def argument? (call : Call κ) (i : Nat) (p : Param) : Option (Value κ) :=
  call.positional[i]? <|> call.named.lookup p.name.name

/-- Every argument of a call has a parameter of its own. -/
structure Matches (call : Call κ) (params : List Param) : Prop where
  positional : call.positional.length ≤ params.length
  known : ∀ entry ∈ call.named, entry.1 ∈ params.map (·.name.name)
  free : ∀ entry ∈ call.named,
    entry.1 ∉ (params.take call.positional.length).map (·.name.name)
  distinct : (call.named.map (·.1)).Nodup

/-- Each parameter with its argument. -/
def slots (call : Call κ) (params : List Param) : List (Param × Option (Value κ)) :=
  params.mapIdx fun i p => (p, call.argument? i p)

/-! ### Sorting -/

variable {slots slots' : List (Param × Option (Value κ))}

theorem fillPositional_eq (params : List Param) (vs : List (Value κ)) :
    fillPositional params vs = params.mapIdx fun i p => (p, vs[i]?) := by
  induction params generalizing vs with
  | nil => rfl
  | cons p ps ih => cases vs <;> simp [fillPositional, ih, List.mapIdx_cons]

/-- A parameter is still free for a named argument. -/
def Open (slots : List (Param × Option (Value κ))) (key : String) : Prop :=
  ∃ p, (p, none) ∈ slots ∧ p.name.name = key

/-- The slots with some named arguments in those that are free. -/
def fillNamed (slots : List (Param × Option (Value κ))) (named : List (String × Value κ)) :
    List (Param × Option (Value κ)) :=
  slots.map fun (p, slot) => (p, slot <|> named.lookup p.name.name)

theorem fillNamed_of_ne {key : String} (v : Value κ) (other : ∀ entry ∈ slots, entry.1.name.name ≠ key) :
    fillNamed slots [(key, v)] = slots := by
  refine (List.map_congr_left fun entry member => ?_).trans (List.map_id _)
  have ne : (entry.1.name.name == key) = false := beq_eq_false_iff_ne.mpr (other entry member)
  simp [List.lookup_cons, ne]

theorem fillNamed_cons (entry : String × Value κ) (named : List (String × Value κ)) :
    fillNamed (fillNamed slots [entry]) named = fillNamed slots (entry :: named) := by
  obtain ⟨key, v⟩ := entry
  rw [fillNamed, fillNamed, fillNamed, List.map_map]
  refine List.map_congr_left fun (p, slot) _ => ?_
  cases slot with
  | some v => rfl
  | none =>
    cases same : p.name.name == key <;> simp [List.lookup_cons, same]

theorem names_fillNamed (slots : List (Param × Option (Value κ))) (named : List (String × Value κ)) :
    (fillNamed slots named).map (·.1) = slots.map (·.1) := by
  rw [fillNamed, List.map_map]
  rfl

theorem setNamed_eq_ok_iff (name key : String) (v : Value κ)
    (nodup : (slots.map (·.1.name.name)).Nodup) :
    setNamed name key v slots = .ok slots' ↔ Open slots key ∧ slots' = fillNamed slots [(key, v)] := by
  induction slots generalizing slots' with
  | nil => simp [setNamed, Open]
  | cons entry rest ih =>
    obtain ⟨p, slot⟩ := entry
    rw [List.map_cons, List.nodup_cons] at nodup
    obtain ⟨fresh, nodup⟩ := nodup
    unfold setNamed
    split
    · next same =>
      subst same
      have other : ∀ entry ∈ rest, entry.1.name.name ≠ p.name.name := fun entry member same =>
        fresh (List.mem_map.mpr ⟨entry, member, same⟩)
      have filled : fillNamed ((p, slot) :: rest) [(p.name.name, v)] =
          (p, slot <|> some v) :: rest := by
        rw [fillNamed, List.map_cons, ← fillNamed, fillNamed_of_ne v other]
        simp
      rw [filled]
      cases slot with
      | none =>
        have opened : Open ((p, none) :: rest) p.name.name := ⟨p, List.mem_cons_self, rfl⟩
        simp only [opened, true_and, Except.ok.injEq]
        exact eq_comm
      | some w =>
        refine iff_of_false (by simp) ?_
        rintro ⟨⟨q, member, same⟩, -⟩
        rcases List.mem_cons.mp member with impossible | later
        · cases impossible
        · exact other _ later same
    · next ne =>
      have opened : Open ((p, slot) :: rest) key ↔ Open rest key := by
        constructor
        · rintro ⟨q, member, same⟩
          rcases List.mem_cons.mp member with here | later
          · obtain ⟨rfl, -⟩ := Prod.mk.inj here
            exact absurd same ne
          · exact ⟨q, later, same⟩
        · rintro ⟨q, member, same⟩
          exact ⟨q, List.mem_cons_of_mem _ member, same⟩
      have ne : (p.name.name == key) = false := beq_eq_false_iff_ne.mpr ne
      have filled : fillNamed ((p, slot) :: rest) [(key, v)] =
          (p, slot) :: fillNamed rest [(key, v)] := by
        simp [fillNamed, List.lookup_cons, ne]
      rw [opened, filled, map_eq_ok]
      simp only [ih nodup]
      constructor
      · rintro ⟨_, ⟨free, rfl⟩, rfl⟩
        exact ⟨free, rfl⟩
      · rintro ⟨free, rfl⟩
        exact ⟨_, ⟨free, rfl⟩, rfl⟩

theorem setAllNamed_eq_ok_iff (name : String) {named : List (String × Value κ)}
    (nodup : (slots.map (·.1.name.name)).Nodup) :
    setAllNamed name slots named = .ok slots' ↔
      ((named.map (·.1)).Nodup ∧ ∀ entry ∈ named, Open slots entry.1) ∧
        slots' = fillNamed slots named := by
  induction named generalizing slots with
  | nil =>
    have same : fillNamed slots [] = slots := by simp [fillNamed]
    simp only [setAllNamed, same, List.map_nil, List.nodup_nil, List.not_mem_nil, false_implies,
      implies_true, and_self, true_and, Except.ok.injEq]
    exact eq_comm
  | cons entry rest ih =>
    obtain ⟨key, v⟩ := entry
    have nodup' : ((fillNamed slots [(key, v)]).map (·.1.name.name)).Nodup := by
      have names := congrArg (List.map (·.name.name)) (names_fillNamed slots [(key, v)])
      rw [List.map_map, List.map_map] at names
      exact names ▸ nodup
    -- What the first argument takes is no longer free for the others.
    have opened : ∀ other, Open (fillNamed slots [(key, v)]) other ↔ Open slots other ∧ other ≠ key := by
      intro other
      constructor
      · rintro ⟨p, member, rfl⟩
        obtain ⟨⟨q, slot⟩, there, same⟩ := List.mem_map.mp member
        obtain ⟨rfl, none⟩ := Prod.mk.inj same
        cases slot with
        | some w => cases none
        | none =>
          refine ⟨⟨q, there, rfl⟩, fun same => ?_⟩
          simp [same] at none
      · rintro ⟨⟨p, member, rfl⟩, ne⟩
        refine ⟨p, List.mem_map.mpr ⟨(p, none), member, ?_⟩, rfl⟩
        have ne : (p.name.name == key) = false := beq_eq_false_iff_ne.mpr ne
        simp [List.lookup_cons, ne]
    rw [setAllNamed, bind_eq_ok]
    simp only [setNamed_eq_ok_iff name key v nodup, List.map_cons, List.nodup_cons,
      List.forall_mem_cons]
    constructor
    · rintro ⟨_, ⟨free, rfl⟩, filled⟩
      obtain ⟨⟨distinct, others⟩, rfl⟩ := (ih nodup').mp filled
      refine ⟨⟨⟨?_, distinct⟩, free, fun entry member => ((opened _).mp (others entry member)).1⟩,
        fillNamed_cons _ _⟩
      intro again
      obtain ⟨entry, member, same⟩ := List.mem_map.mp again
      exact ((opened _).mp (others entry member)).2 same
    · rintro ⟨⟨⟨fresh, distinct⟩, free, others⟩, rfl⟩
      refine ⟨_, ⟨free, rfl⟩, (ih nodup').mpr ⟨⟨distinct, fun entry member => ?_⟩,
        (fillNamed_cons _ _).symm⟩⟩
      refine (opened _).mpr ⟨others entry member, fun same => ?_⟩
      exact fresh (List.mem_map.mpr ⟨entry, member, same⟩)

/-! ### Calls -/

section Calls

variable {call : Call κ} {signature : Signature}

theorem names_fillPositional (params : List Param) (vs : List (Value κ)) :
    (fillPositional params vs).map (·.1.name.name) = params.map (·.name.name) := by
  rw [fillPositional_eq]
  refine List.ext_getElem? fun i => ?_
  rw [List.getElem?_map, List.getElem?_mapIdx, Option.map_map, List.getElem?_map]
  rfl

/-- A parameter is free for a named argument if it comes after those of the positional ones. -/
theorem open_fillPositional {params : List Param} {vs : List (Value κ)} {key : String}
    (nodup : (params.map (·.name.name)).Nodup) :
    Open (fillPositional params vs) key ↔
      key ∈ params.map (·.name.name) ∧ key ∉ (params.take vs.length).map (·.name.name) := by
  have later : Open (fillPositional params vs) key ↔
      key ∈ (params.drop vs.length).map (·.name.name) := by
    simp only [Open, fillPositional_eq, List.mem_iff_getElem?, List.getElem?_mapIdx, List.getElem?_map,
      List.getElem?_drop, Option.map_eq_some_iff, Prod.mk.injEq, List.getElem?_eq_none_iff]
    constructor
    · rintro ⟨p, ⟨i, _, here, rfl, outside⟩, same⟩
      exact ⟨i - vs.length, _, by rw [Nat.add_sub_cancel' outside]; exact here, same⟩
    · rintro ⟨i, p, here, same⟩
      exact ⟨p, ⟨vs.length + i, p, here, rfl, Nat.le_add_right _ _⟩, same⟩
  rw [← List.take_append_drop vs.length params, List.map_append] at nodup
  have disjoint := (List.nodup_append.mp nodup).2.2
  rw [later]
  conv => rhs; lhs; rw [← List.take_append_drop vs.length params, List.map_append, List.mem_append]
  constructor
  · exact fun member => ⟨.inr member, fun first => disjoint _ first _ member rfl⟩
  · rintro ⟨first | member, free⟩
    · exact absurd first free
    · exact member

/-- The arguments are accepted if and only if they match the parameters, and each parameter has the one
for it then. -/
theorem arguments_eq_ok_iff (nodup : (signature.params.map (·.name.name)).Nodup)
    (void : signature.bodyParam = none → call.body = []) :
    call.arguments signature = .ok slots ↔
      call.Matches signature.params ∧ slots = call.slots signature.params := by
  have filled : fillNamed (fillPositional signature.params call.positional) call.named =
      call.slots signature.params := by
    rw [fillNamed, fillPositional_eq, Call.slots]
    refine List.ext_getElem? fun i => ?_
    rw [List.getElem?_map, List.getElem?_mapIdx, Option.map_map, List.getElem?_mapIdx]
    rfl
  have distinct : ((fillPositional signature.params call.positional).map (·.1.name.name)).Nodup := by
    rwa [names_fillPositional]
  unfold arguments
  dsimp only
  rw [if_neg]
  · split
    · next many =>
      refine iff_of_false (by simp) fun matching => ?_
      exact absurd matching.1.positional (Nat.not_le.mpr many)
    · next few =>
      rw [setAllNamed_eq_ok_iff _ distinct, filled]
      refine and_congr_left fun _ => ⟨?_, ?_⟩
      · rintro ⟨once, free⟩
        have free := fun entry member => (open_fillPositional nodup).mp (free entry member)
        exact ⟨Nat.not_lt.mp few, fun entry member => (free entry member).1,
          fun entry member => (free entry member).2, once⟩
      · rintro ⟨-, known, free, once⟩
        exact ⟨once, fun entry member =>
          (open_fillPositional nodup).mpr ⟨known entry member, free entry member⟩⟩
  · rw [Bool.and_eq_true, not_and]
    intro none
    simp [void (Option.isNone_iff_eq_none.mp none)]

theorem arguments_eq_error (void : signature.bodyParam = none → call.body = []) {c : Cause}
    (refused : call.arguments signature = .error c) : c.category = .type := by
  unfold arguments at refused
  dsimp only at refused
  split at refused
  · next unwanted =>
    obtain ⟨none, filled⟩ := Bool.and_eq_true_iff.mp unwanted
    simp [void (Option.isNone_iff_eq_none.mp none)] at filled
  · split at refused
    · cases refused
      rfl
    · exact setAllNamed_fails _ _ _ c refused

end Calls

end Call

end MarkupTemplate

import MarkupTemplate.Proofs.Simulation.Basic

/-!
# Properties of all closures

A property that the closures in a value have wherever they are, also in the attributes of nodes. Whatever
does the same with all closures makes values of this kind of values of this kind, and so does every
host program: if marking the closures that have the property marks all closures before, then it does so
after.
-/

namespace MarkupTemplate

variable {κ μ : Type}

/-- A closure that is marked if it has a property. -/
def marked (P : κ → Prop) (c : κ) : κ × Prop := (c, P c)

/-- A closure that is marked. -/
def markedAll (c : κ) : κ × Prop := (c, True)

/-- All closures in a value have a property. -/
def Value.Throughout (P : κ → Prop) (v : Value κ) : Prop :=
  v.mapClosures (marked P) = v.mapClosures markedAll

/-- All closures in some nodes have a property. -/
def Node.Throughout (P : κ → Prop) (ns : List (Node κ)) : Prop :=
  ns.map (Node.mapClosures (marked P)) = ns.map (Node.mapClosures markedAll)

variable {P : κ → Prop}

namespace Value

/-- What is done to the closures that have the property is done to all. -/
theorem Throughout.congr {v : Value κ} (h : v.Throughout P) {f g : κ → μ}
    (same : ∀ c, P c → f c = g c) : v.mapClosures f = v.mapClosures g := by
  classical
  -- The mark tells which of the two functions to use.
  let choose (m : κ × Prop) : μ := if m.2 then f m.1 else g m.1
  have left : (v.mapClosures markedAll).mapClosures choose = v.mapClosures f := by
    rw [mapClosures_mapClosures]
    exact congrArg (v.mapClosures ·) (funext fun c => if_pos trivial)
  have right : (v.mapClosures (marked P)).mapClosures choose = v.mapClosures g := by
    rw [mapClosures_mapClosures]
    refine congrArg (v.mapClosures ·) (funext fun c => ?_)
    by_cases holds : P c
    · exact (if_pos holds).trans (same c holds)
    · exact if_neg holds
  rw [← left, ← right, h]

theorem Throughout.mono {Q : κ → Prop} {v : Value κ} (h : v.Throughout P) (imp : ∀ c, P c → Q c) :
    v.Throughout Q :=
  h.congr fun c holds => Prod.ext rfl (eq_true (imp c holds))

theorem throughout_closure {c : κ} : (closure c).Throughout P ↔ P c := by
  simp [Throughout, mapClosures, marked, markedAll]

theorem throughout_list {items : List (Value κ)} :
    (list items).Throughout P ↔ ∀ v ∈ items, v.Throughout P := by
  simp only [Throughout, mapClosures_list, list.injEq, List.map_inj_left]

theorem throughout_map {entries : List (String × Value κ)} :
    (map entries).Throughout P ↔ ∀ entry ∈ entries, entry.2.Throughout P := by
  simp only [Throughout, mapClosures, mapClosuresEntries_eq, map.injEq, List.map_inj_left, Prod.map,
    Prod.mk.injEq, true_and]

theorem throughout_nodes {ns : List (Node κ)} : (nodes ns).Throughout P ↔ Node.Throughout P ns := by
  simp only [Throughout, mapClosures_nodes, nodes.injEq]
  rfl

theorem throughout_lift (v : Value Empty) : (v.lift : Value κ).Throughout P := by
  rw [Throughout, mapClosures_lift, mapClosures_lift]

end Value

theorem Node.Throughout.mono {Q : κ → Prop} {ns : List (Node κ)} (h : Throughout P ns)
    (imp : ∀ c, P c → Q c) : Throughout Q ns :=
  Value.throughout_nodes.mp ((Value.throughout_nodes.mpr h).mono imp)

/-- Functions that do the same with whatever is computed do the same with the result. -/
theorem eq_of_map_eq {ε α β : Type} {x : Except ε α} {f g : α → β} (same : f <$> x = g <$> x) {a : α}
    (ok : x = .ok a) : f a = g a := by
  subst ok
  exact Except.ok.inj same

/-! ### Making nodes -/

namespace Node.Throughout

variable {ns ns' : List (Node κ)}

theorem nil : Throughout P ([] : List (Node κ)) := rfl

theorem append (h : Throughout P ns) (h' : Throughout P ns') : Throughout P (ns ++ ns') := by
  rw [Throughout, List.map_append, List.map_append, h, h']

theorem text (s : String) : Throughout P [(.text s : Node κ)] := rfl

theorem ofHead {head : Head (Value κ)} {indent : Option Indent} {n : Node κ}
    (positional : ∀ v ∈ head.positional, v.Throughout P)
    (named : ∀ entry ∈ head.named, entry.2.Throughout P) (body : Throughout P ns)
    (made : Node.ofHead head indent ns = .ok n) : Throughout P [n] := by
  have first : head.positional.map (Value.mapClosures (marked P)) =
      head.positional.map (Value.mapClosures markedAll) := List.map_inj_left.mpr positional
  have second : head.named.map (Prod.map id (Value.mapClosures (marked P))) =
      head.named.map (Prod.map id (Value.mapClosures markedAll)) :=
    List.map_inj_left.mpr fun entry member => congrArg (Prod.mk entry.1) (named entry member)
  have same : head.mapClosures (marked P) = head.mapClosures markedAll := by
    rw [Head.mapClosures, first, second]
    rfl
  refine congrArg ([·]) (eq_of_map_eq ?_ made)
  rw [← Node.ofHead_mapClosures, ← Node.ofHead_mapClosures, same, body]

theorem anchor (base : String) (h : Throughout P ns) : Throughout P (Node.anchorList base ns) := by
  rw [Throughout, ← Node.anchorList_map, ← Node.anchorList_map, h]

theorem startLine {place : Option String} (h : Throughout P ns)
    (started : MarkupTemplate.startLine place ns = .ok ns') : Throughout P ns' := by
  refine eq_of_map_eq ?_ started
  rw [← startLine_map, ← startLine_map, h]

theorem demote {base : String} (h : Throughout P ns) (demoted : demoteAll base ns = .ok ns') :
    Throughout P ns' := by
  refine eq_of_map_eq ?_ demoted
  rw [← demoteAll_map, ← demoteAll_map, h]

end Node.Throughout

theorem Value.Throughout.flatten {v : Value κ} {ns : List (Node κ)} (h : v.Throughout P)
    (flat : v.flatten = .ok ns) : Node.Throughout P ns := by
  refine eq_of_map_eq ?_ flat
  rw [← Value.flatten_mapClosures, ← Value.flatten_mapClosures, h]

/-! ### Evaluating -/

section Kind

variable [Host] [Shows κ]

theorem Value.hereditary_throughout (P : κ → Prop) : Hereditary (Throughout P) where
  none := rfl
  bool _ := rfl
  integer _ := rfl
  string _ := rfl
  list := throughout_list
  map := throughout_map
  host serial {args w} h ok := by
    -- Both ways to mark are seen alike, so the host program gives the same with either.
    have natural (g : κ → κ × Prop) (first : ∀ c, (g c).1 = c) :
        (Host.function serial).call (fun m => Shows.shown m.1) (args.map (mapClosures g)) =
          mapClosures g <$> (Host.function serial).call Shows.shown args := by
      rw [HostFunction.call_map]
      simp only [first]
    have same : args.map (mapClosures (marked P)) = args.map (mapClosures markedAll) :=
      List.map_inj_left.mpr h
    refine eq_of_map_eq ?_ ok
    rw [← natural (marked P) fun _ => rfl, ← natural markedAll fun _ => rfl, same]

namespace Translate

theorem Kind.throughout (P : κ → Prop) : Kind (Value.Throughout P) (Node.Throughout P) where
  inherits := Value.hereditary_throughout P
  lift := Value.throughout_lift
  nodes := Value.throughout_nodes.mpr
  flatten := Value.Throughout.flatten
  nil := .nil
  append := .append
  text := .text
  ofHead := .ofHead
  anchor base _ := .anchor base
  startLine := .startLine
  demote := .demote

end Translate

end Kind

end MarkupTemplate

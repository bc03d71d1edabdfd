import Mathlib.Data.List.TakeDrop
import MarkupTemplate.Proofs.Placement.Settled
import MarkupTemplate.Script.Call

/-!
# Nodes in attributes

Nodes hold values as attributes, and these may hold nodes again. Placing nodes changes no attribute, so
a value in which all nodes are in place, those in attributes included, stays one of this kind whatever
its nodes are put into.
-/

namespace MarkupTemplate

variable {κ μ : Type}

def Head.values (head : Head (Value κ)) : List (Value κ) :=
  head.positional ++ head.named.map (·.2)

namespace Node

mutual

/-- The attributes of a node and of the nodes below it. -/
def attributes : Node κ → List (Value κ)
  | .text _ => []
  | .root body => attributesList body
  | .element head _ body => head.values ++ attributesList body

def attributesList : List (Node κ) → List (Value κ)
  | [] => []
  | n :: ns => n.attributes ++ attributesList ns

end

theorem attributesList_append (ns ms : List (Node κ)) :
    attributesList (ns ++ ms) = attributesList ns ++ attributesList ms := by
  induction ns with
  | nil => rfl
  | cons n ns ih => rw [List.cons_append, attributesList, attributesList, ih, List.append_assoc]

mutual

theorem attributes_anchor (base : String) : ∀ n : Node κ, (n.anchor base).attributes = n.attributes
  | .text _ | .root _ | .element _ (some (.relative _)) _ | .element _ (some (.absolute _)) _ => rfl
  | .element _ none body => by rw [anchor, attributes, attributes, attributesList_anchor base body]

theorem attributesList_anchor (base : String) :
    ∀ ns : List (Node κ), attributesList (anchorList base ns) = attributesList ns
  | [] => rfl
  | n :: ns => by
    rw [anchorList, attributesList, attributesList, attributes_anchor base n,
      attributesList_anchor base ns]

end

mutual

theorem attributes_demote (parent : String) :
    ∀ n : Node κ, (n.demote parent).1.attributes = n.attributes
  | .text _ | .root _ | .element _ (some (.relative _)) _ => rfl
  | .element _ none body => by rw [demote, attributes, attributes, attributesList_demote parent body]
  | .element _ (some (.absolute _)) _ => by
    rw [demote]
    split <;> rfl

theorem attributesList_demote (parent : String) :
    ∀ ns : List (Node κ), attributesList (demoteList parent ns).1 = attributesList ns
  | [] => rfl
  | n :: ns => by
    have first := attributes_demote parent n
    rw [demoteList]
    split
    · next same =>
      rw [same] at first
      rw [attributesList, attributesList, first]
    · next same =>
      rw [same] at first
      rw [attributesList, attributesList, first, attributesList_demote parent ns]

end

theorem attributes_place (indent : String) (n : Node κ) :
    (n.place indent).1.attributes = n.attributes := by
  cases n with
  | element head before body =>
    have same := attributesList_demote indent body
    rw [place]
    split
    · split
      · next placed =>
        rw [placed] at same
        exact congrArg (head.values ++ ·) same
      · next placed =>
        rw [placed] at same
        exact congrArg (head.values ++ ·) same
    · rfl
  | _ => rfl

end Node

variable {ns ns' : List (Node κ)}

theorem attributesList_of_demoteAll {parent : String} (demoted : demoteAll parent ns = .ok ns') :
    Node.attributesList ns' = Node.attributesList ns := by
  have same := Node.attributesList_demote parent ns
  unfold demoteAll at demoted
  split at demoted
  · next here =>
    obtain rfl := Except.ok.inj demoted
    rwa [here] at same
  · cases demoted

theorem Node.attributes_of_ofHead {head : Head (Value κ)} {indent : Option Indent}
    {n : Node κ} (made : ofHead head indent ns = .ok n) :
    n.attributes = head.values ++ attributesList ns := by
  have built : ofHead.build head indent ns = .ok n := by
    unfold ofHead at made
    split at made
    · split at made
      · cases made
      · exact made
    · exact made
  unfold ofHead.build at built
  split at built
  · next indent =>
    have same := attributes_place indent (.element head none ns)
    split at built
    · next placed =>
      obtain rfl := Except.ok.inj built
      rwa [placed] at same
    · cases built
  · obtain rfl := Except.ok.inj built
    rfl

theorem attributesList_of_startLine {place : Option String} (started : startLine place ns = .ok ns') :
    Node.attributesList ns' = Node.attributesList ns := by
  unfold startLine at started
  split at started
  · obtain rfl := Except.ok.inj started
    rfl
  · next indent =>
    have parts : (ns.span (!·.isOutline)).1 ++ (ns.span (!·.isOutline)).2 = ns := by
      rw [List.span_eq_takeWhile_dropWhile, List.takeWhile_append_dropWhile]
    split at started
    · next split =>
      obtain rfl := Except.ok.inj started
      rw [← parts, split]
      rfl
    · next split =>
      obtain ⟨group, made, started⟩ := bind_eq_ok.mp started
      obtain rfl := Except.ok.inj started
      rw [← parts, split, Node.attributesList, Node.attributesList_append,
        Node.attributes_of_ofHead made]
      rfl

/-! ### Nodes anywhere in values -/

/-- A value holds some nodes, directly or in the attributes of nodes that it holds. -/
inductive Value.Contains : Value κ → List (Node κ) → Prop
  | nodes (ns : List (Node κ)) : Contains (.nodes ns) ns
  | list {items : List (Value κ)} {v : Value κ} {ns : List (Node κ)} :
    v ∈ items → Contains v ns → Contains (.list items) ns
  | map {entries : List (String × Value κ)} {entry : String × Value κ} {ns : List (Node κ)} :
    entry ∈ entries → Contains entry.2 ns → Contains (.map entries) ns
  | inside {ns ms : List (Node κ)} {v : Value κ} :
    v ∈ Node.attributesList ns → Contains v ms → Contains (.nodes ns) ms

namespace Value

/-- All nodes in a value are in place, those in the attributes of nodes included. -/
def AllSettled (v : Value κ) : Prop := ∀ ns, v.Contains ns → Settled ns

theorem allSettled_list {items : List (Value κ)} :
    (list items).AllSettled ↔ ∀ v ∈ items, v.AllSettled := by
  constructor
  · intro h v member ns inside
    exact h ns (.list member inside)
  · rintro h ns (_ | ⟨member, inside⟩)
    exact h _ member ns inside

theorem allSettled_map {entries : List (String × Value κ)} :
    (map entries).AllSettled ↔ ∀ entry ∈ entries, entry.2.AllSettled := by
  constructor
  · intro h entry member ns inside
    exact h ns (.map member inside)
  · rintro h ns (_ | _ | ⟨member, inside⟩)
    exact h _ member ns inside

theorem allSettled_nodes : (nodes ns).AllSettled ↔
    Settled ns ∧ ∀ v ∈ Node.attributesList ns, v.AllSettled := by
  constructor
  · intro h
    exact ⟨h ns (.nodes ns), fun v member ms inside => h ms (.inside member inside)⟩
  · rintro ⟨settled, h⟩ ms (_ | _ | _ | ⟨member, inside⟩)
    · exact settled
    · exact h _ member ms inside

theorem AllSettled.append (h : (nodes ns).AllSettled) (h' : (nodes ns').AllSettled) :
    (nodes (ns ++ ns')).AllSettled := by
  rw [allSettled_nodes] at h h' ⊢
  rw [Node.attributesList_append]
  exact ⟨settled_append.mpr ⟨h.1, h'.1⟩, List.forall_mem_append.mpr ⟨h.2, h'.2⟩⟩

mutual

theorem AllSettled.flatten : ∀ {v : Value κ} {ns : List (Node κ)}, v.AllSettled →
    v.flatten = .ok ns → (nodes ns).AllSettled
  | .none, _, _, flat => by
    obtain rfl := Except.ok.inj flat
    exact allSettled_nodes.mpr ⟨settled_nil, nofun⟩
  | .nodes _, _, h, flat => by
    obtain rfl := Except.ok.inj flat
    exact h
  | .list _, _, h, flat => AllSettled.flattenList (allSettled_list.mp h) flat
  | .bool _, _, _, flat | .integer _, _, _, flat | .float _, _, _, flat | .string _, _, _, flat
  | .map _, _, _, flat | .tag _, _, _, flat | .closure _, _, _, flat | .function _, _, _, flat =>
    nomatch flat

theorem AllSettled.flattenList : ∀ {vs : List (Value κ)} {ns : List (Node κ)},
    (∀ v ∈ vs, v.AllSettled) → flattenList vs = .ok ns → (nodes ns).AllSettled
  | [], _, _, flat => by
    obtain rfl := Except.ok.inj flat
    exact allSettled_nodes.mpr ⟨settled_nil, nofun⟩
  | v :: vs, _, h, flat => by
    obtain ⟨first, others⟩ := List.forall_mem_cons.mp h
    obtain ⟨ns, here, flat⟩ := bind_eq_ok.mp flat
    obtain ⟨rest, later, flat⟩ := bind_eq_ok.mp flat
    obtain rfl := Except.ok.inj flat
    exact (first.flatten here).append (AllSettled.flattenList others later)

end

end Value

end MarkupTemplate

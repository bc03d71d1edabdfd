import MarkupTemplate.Proofs.Selection.Criteria

/-!
# Document order

A node below another one is reached on a path of child numbers. Compared from the first number on, paths
have the order of the document: a path comes before those that go on from it, and these before all paths
with a greater number. `select_ordered` shows that selecting goes through all paths in this order.
-/

namespace MarkupTemplate

variable {κ : Type}

namespace Node

def children (n : Node κ) : List (Node κ) := n.body?.getD []

/-- The node that a path of child numbers leads to. -/
def at? : Node κ → List Nat → Option (Node κ)
  | n, [] => some n
  | n, i :: path => n.children[i]?.bind (·.at? path)

mutual

/-- The nodes below a node in document order, each with its path. -/
def located : Node κ → List (List Nat × Node κ)
  | .text _ => []
  | .root body => locatedFrom 0 body
  | .element _ _ body => locatedFrom 0 body

/-- Nodes of which the first is child number `i`, with those below them. -/
def locatedFrom : Nat → List (Node κ) → List (List Nat × Node κ)
  | _, [] => []
  | i, n :: ns =>
    ([i], n) :: (n.located.map (fun entry => (i :: entry.1, entry.2)) ++ locatedFrom (i + 1) ns)

end

variable {n d : Node κ} {ns : List (Node κ)} {path : List Nat} {i : Nat}

/-! ### All nodes below a node -/

theorem located_eq_locatedFrom (n : Node κ) : n.located = locatedFrom 0 n.children := by
  cases n <;> rfl

mutual

theorem map_located : ∀ n : Node κ, n.located.map (·.2) = n.descendants
  | .text _ => rfl
  | .root body => map_locatedFrom 0 body
  | .element _ _ body => map_locatedFrom 0 body

theorem map_locatedFrom : ∀ (i : Nat) (ns : List (Node κ)), (locatedFrom i ns).map (·.2) = preorder ns
  | _, [] => rfl
  | i, n :: ns => by
    rw [locatedFrom, preorder, List.map_cons, List.map_append, List.map_map, ← map_located n,
      ← map_locatedFrom (i + 1) ns]
    rfl

end

theorem at?_eq_some_iff :
    n.at? path = some d ↔ path = [] ∧ n = d ∨ path ≠ [] ∧ n.at? path = some d := by
  cases path <;> simp [at?]

theorem mem_located_of_children
    (inside : (path, d) ∈ locatedFrom 0 n.children ↔
      ∃ j rest, path = (0 + j) :: rest ∧ n.children[j]?.bind (·.at? rest) = some d) :
    (path, d) ∈ n.located ↔ path ≠ [] ∧ n.at? path = some d := by
  rw [located_eq_locatedFrom, inside]
  cases path with
  | nil => simp
  | cons i rest => simp [at?]

mutual

theorem mem_located_iff : ∀ {n : Node κ} {path : List Nat},
    (path, d) ∈ n.located ↔ path ≠ [] ∧ n.at? path = some d
  | .text _, _ => mem_located_of_children (by simp [children, body?, locatedFrom])
  | .root _, _ => mem_located_of_children mem_locatedFrom_iff
  | .element _ _ _, _ => mem_located_of_children mem_locatedFrom_iff

theorem mem_locatedFrom_iff : ∀ {i : Nat} {ns : List (Node κ)} {path : List Nat},
    (path, d) ∈ locatedFrom i ns ↔
      ∃ j rest, path = (i + j) :: rest ∧ ns[j]?.bind (·.at? rest) = some d
  | i, [], path => by simp [locatedFrom]
  | i, n :: ns, path => by
    have here : (∃ rest, path = i :: rest ∧ n.at? rest = some d) ↔
        (path, d) = ([i], n) ∨ (path, d) ∈ n.located.map fun entry => (i :: entry.1, entry.2) := by
      constructor
      · rintro ⟨rest, rfl, found⟩
        rcases at?_eq_some_iff.mp found with ⟨rfl, rfl⟩ | inside
        · exact .inl rfl
        · exact .inr (List.mem_map.mpr ⟨(rest, d), mem_located_iff.mpr inside, rfl⟩)
      · rintro (same | member)
        · obtain ⟨rfl, rfl⟩ := Prod.mk.inj same
          exact ⟨[], rfl, rfl⟩
        · obtain ⟨⟨rest, e⟩, inside, same⟩ := List.mem_map.mp member
          obtain ⟨front, last⟩ := Prod.mk.inj same
          exact ⟨rest, front.symm, (mem_located_iff.mp (last ▸ inside)).2⟩
    rw [locatedFrom, List.mem_cons, List.mem_append, ← or_assoc, ← here, mem_locatedFrom_iff]
    constructor
    · rintro (⟨rest, same, found⟩ | ⟨j, rest, same, found⟩)
      · exact ⟨0, rest, same, found⟩
      · exact ⟨j + 1, rest, by rw [same, Nat.add_assoc, Nat.add_comm 1], found⟩
    · rintro ⟨j | j, rest, same, found⟩
      · exact .inl ⟨rest, same, found⟩
      · exact .inr ⟨j, rest, by rw [same, Nat.add_assoc, Nat.add_comm 1], found⟩

end

/-! ### Paths in order -/

theorem lt_of_mem_locatedFrom {rest : List Nat} (member : path ∈ (locatedFrom (i + 1) ns).map (·.1)) :
    i :: rest < path := by
  obtain ⟨⟨_, d⟩, inside, rfl⟩ := List.mem_map.mp member
  obtain ⟨j, more, same, -⟩ := mem_locatedFrom_iff.mp inside
  rw [same, List.cons_lt_cons_iff]
  exact .inl (by omega)

mutual

theorem located_ordered : ∀ n : Node κ, (n.located.map (·.1)).Pairwise (· < ·)
  | .text _ => .nil
  | .root body => locatedFrom_ordered 0 body
  | .element _ _ body => locatedFrom_ordered 0 body

theorem locatedFrom_ordered :
    ∀ (i : Nat) (ns : List (Node κ)), ((locatedFrom i ns).map (·.1)).Pairwise (· < ·)
  | _, [] => .nil
  | i, n :: ns => by
    have behind : (n.located.map fun entry => (i :: entry.1, entry.2)).map (·.1) =
        (n.located.map (·.1)).map (i :: ·) := by
      rw [List.map_map, List.map_map]
      rfl
    rw [locatedFrom, List.map_cons, List.map_append, behind, List.pairwise_cons, List.pairwise_append,
      List.pairwise_map]
    refine ⟨fun path member => ?_, (located_ordered n).imp fun less => ?_,
      locatedFrom_ordered (i + 1) ns, fun path member later inside => ?_⟩
    · rcases List.mem_append.mp member with first | later
      · obtain ⟨rest, entered, rfl⟩ := List.mem_map.mp first
        obtain ⟨⟨_, d⟩, inside, rfl⟩ := List.mem_map.mp entered
        obtain ⟨j, more, same⟩ := List.exists_cons_of_ne_nil (mem_located_iff.mp inside).1
        rw [same, List.cons_lt_cons_iff]
        exact .inr ⟨rfl, List.nil_lt_cons _ _⟩
      · exact lt_of_mem_locatedFrom later
    · exact List.cons_lt_cons_iff.mpr (.inr ⟨rfl, less⟩)
    · obtain ⟨rest, -, rfl⟩ := List.mem_map.mp member
      exact lt_of_mem_locatedFrom inside

end

/-! ### Selecting -/

variable [BEq κ]

mutual

theorem select_eq_filter (sel : Selector κ) : ∀ n : Node κ, n.select sel = n.descendants.filter sel.matches
  | .text _ => rfl
  | .root body => selectList_eq_filter sel body
  | .element _ _ body => selectList_eq_filter sel body

theorem selectList_eq_filter (sel : Selector κ) :
    ∀ ns : List (Node κ), selectList sel ns = (preorder ns).filter sel.matches
  | [] => rfl
  | n :: ns => by
    rw [selectList, preorder, List.filter_cons, List.filter_append, select_eq_filter sel n,
      selectList_eq_filter sel ns]

end

/-- The paths to all nodes that a selector matches, in order. -/
theorem exists_paths (sel : Selector κ) (n : Node κ) :
    ∃ paths : List (List Nat), paths.Pairwise (· < ·) ∧
      (∀ path, path ∈ paths ↔ path ≠ [] ∧ ∃ d, n.at? path = some d ∧ sel.matches d = true) ∧
      paths.map n.at? = (n.select sel).map some := by
  have found : ∀ entry ∈ n.located, n.at? entry.1 = some entry.2 := fun _ member =>
    (mem_located_iff.mp member).2
  refine ⟨(n.located.filter fun entry => sel.matches entry.2).map (·.1),
    (located_ordered n).sublist (List.filter_sublist.map _), fun path => ?_, ?_⟩
  · constructor
    · intro member
      obtain ⟨⟨path, d⟩, inside, rfl⟩ := List.mem_map.mp member
      obtain ⟨inside, accepted⟩ := List.mem_filter.mp inside
      obtain ⟨nonempty, here⟩ := mem_located_iff.mp inside
      exact ⟨nonempty, d, here, accepted⟩
    · rintro ⟨nonempty, d, here, accepted⟩
      have inside : (path, d) ∈ n.located := mem_located_iff.mpr ⟨nonempty, here⟩
      exact List.mem_map.mpr ⟨(path, d), List.mem_filter.mpr ⟨inside, accepted⟩, rfl⟩
  · rw [select_eq_filter, ← map_located, List.filter_map, List.map_map, List.map_map]
    exact List.map_congr_left fun entry member => found entry (List.mem_of_mem_filter member)

/-- Selecting gives the nodes at all paths, except the empty one, that lead to an element which meets the
criteria, each once and in the order of the document. Selecting by one criterion and keeping what matches
the others comes to the same. -/
theorem select_ordered (sel : Selector κ) (n : Node κ) :
    (∃ paths : List (List Nat), paths.Pairwise (· < ·) ∧
      (∀ path, path ∈ paths ↔ path ≠ [] ∧ ∃ head indent body,
        n.at? path = some (.element head indent body) ∧ sel.Meets head) ∧
      paths.map n.at? = (n.select sel).map some) ∧
    (∀ before one after, sel.criteria = before ++ one :: after →
      n.select sel = (n.select one).filter fun d => (before ++ after).all (·.matches d)) ∧
    ∀ d : Document κ, d.select sel = d.toNode.select sel := by
  refine ⟨?_, fun before one after taken => ?_, fun _ => rfl⟩
  · obtain ⟨paths, ordered, leads, selected⟩ := exists_paths sel n
    refine ⟨paths, ordered, fun path => ?_, selected⟩
    rw [leads]
    simp only [Selector.matches_iff]
    refine and_congr_right fun _ => ⟨?_, ?_⟩
    · rintro ⟨_, here, head, indent, body, rfl, meets⟩
      exact ⟨head, indent, body, here, meets⟩
    · rintro ⟨head, indent, body, here, meets⟩
      exact ⟨_, here, head, indent, body, rfl, meets⟩
  · rw [select_eq_filter, select_eq_filter, List.filter_filter]
    refine List.filter_congr fun d _ => ?_
    rw [Selector.matches_of_criteria taken, Bool.and_comm]

/-- An element inside an inner root of an untagged one, both with the class, beside an element whose last
class attribute is another one. -/
theorem select_ordered_repeatedClass :
    let three : String × Value Empty := ("n", .integer 3)
    let inner : Node Empty := .element { named := [("class", .string "x on"), three] } none [.text "a"]
    let outer : Node Empty :=
      .element { named := [("class", .string "off"), ("class", .list [.string "on"]), three] } none
        [.root [inner]]
    let off : Node Empty :=
      .element { named := [("class", .list [.string "on"]), ("class", .string "off"), three] } none []
    let wrapper : Node Empty := .element {} none [.text "b", outer]
    let n : Node Empty := .root [wrapper, off]
    let one : Selector Empty := { className := some "on" }
    let other : Selector Empty := { attrs := [three] }
    let sel : Selector Empty := { className := some "on", attrs := [three] }
    sel.criteria = [] ++ one :: [other] ∧
      n.select sel = (n.select one).filter (fun d => ([] ++ [other]).all (·.matches d)) ∧
      n.select sel = [outer, inner] := by
  intro three inner outer off wrapper n one other sel
  have taken : sel.criteria = [] ++ one :: [other] := rfl
  have below : n.descendants =
      [wrapper, .text "b", outer, .root [inner], inner, .text "a", off] := rfl
  have accepted : sel.matches outer = true ∧ sel.matches inner = true := by decide +kernel
  have refused : sel.matches wrapper = false ∧ sel.matches off = false := by decide +kernel
  obtain ⟨-, apart, -⟩ := select_ordered sel n
  refine ⟨taken, apart [] one [other] taken, ?_⟩
  rw [select_eq_filter, below]
  simp only [List.filter_cons, accepted, refused]
  rfl

end Node

end MarkupTemplate

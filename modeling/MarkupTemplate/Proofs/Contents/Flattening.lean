import Mathlib.Data.List.Basic
import MarkupTemplate.Document.Content
import MarkupTemplate.Proofs.Result

/-!
# Flattening contents

Contents are groups inside groups, and what they come to is the row of their leaves. `flattenList_eq_mapM`
reads flattening off that row, so `flattenList_regrouped` shows that no grouping makes a difference.
-/

namespace MarkupTemplate

variable {κ : Type}

/-- What contents come to when all groups are taken apart: nodes, and values that are none. -/
inductive Leaf (κ : Type) where
  | node (n : Node κ)
  | value (v : Value κ)

mutual

def Value.leaves : Value κ → List (Leaf κ)
  | .none => []
  | .nodes ns => ns.map .node
  | .list items => Value.allLeaves items
  | v => [.value v]

def Value.allLeaves : List (Value κ) → List (Leaf κ)
  | [] => []
  | v :: vs => v.leaves ++ Value.allLeaves vs

end

namespace Content

mutual

/-- The leaves of contents, from left to right. -/
def leaves : Content κ → List (Leaf κ)
  | .none => []
  | .node n => [.node n]
  | .nodes ns => ns.map .node
  | .list items => allLeaves items
  | .value v => v.leaves

def allLeaves : List (Content κ) → List (Leaf κ)
  | [] => []
  | c :: cs => c.leaves ++ allLeaves cs

end

/-- The value is a content, or an item of a list that is reached. -/
inductive Reaches : Content κ → Value κ → Prop where
  | value (v : Value κ) : Reaches (.value v) v
  | list {items : List (Content κ)} {c : Content κ} {v : Value κ} :
    c ∈ items → Reaches c v → Reaches (.list items) v
  | item {c : Content κ} {items : List (Value κ)} {v : Value κ} :
    Reaches c (.list items) → v ∈ items → Reaches c v

/-- Contents that differ only in how they are grouped, and in `none` among them. -/
inductive Regrouped : List (Content κ) → List (Content κ) → Prop where
  | refl (cs : List (Content κ)) : Regrouped cs cs
  | symm {cs ds : List (Content κ)} : Regrouped cs ds → Regrouped ds cs
  | trans {cs ds es : List (Content κ)} : Regrouped cs ds → Regrouped ds es → Regrouped cs es
  | append {cs cs' ds ds' : List (Content κ)} :
    Regrouped cs cs' → Regrouped ds ds' → Regrouped (cs ++ ds) (cs' ++ ds')
  | none : Regrouped [.none] []
  | nodes (ns : List (Node κ)) : Regrouped [.nodes ns] (ns.map .node)
  | list (items : List (Content κ)) : Regrouped [.list items] items
  | noneValue : Regrouped [.value .none] []
  | nodesValue (ns : List (Node κ)) : Regrouped [.value (.nodes ns)] [.nodes ns]
  | listValue (items : List (Value κ)) : Regrouped [.value (.list items)] (items.map .value)

end Content

variable {cs ds : List (Content κ)}

/-! ### Reading leaves -/

namespace Leaf

def read : Leaf κ → Except Error (Node κ)
  | .node n => .ok n
  | .value v => fail (.notNodes v.kind)

theorem mapM_read_nodes (ns : List (Node κ)) (rest : List (Leaf κ)) :
    (ns.map Leaf.node ++ rest).mapM read = (ns ++ ·) <$> rest.mapM read := by
  induction ns with
  | nil => simp
  | cons n ns ih =>
    rw [List.map_cons, List.cons_append, List.mapM_cons, ih]
    cases rest.mapM read <;> rfl

/-- Leaves start with nodes, and end there or go on with a value that is none. -/
theorem exists_nodes (row : List (Leaf κ)) :
    (∃ ns : List (Node κ), row = ns.map .node) ∨
      ∃ (ns : List (Node κ)) (v : Value κ) (rest : List (Leaf κ)),
        row = ns.map .node ++ .value v :: rest := by
  induction row with
  | nil => exact .inl ⟨[], rfl⟩
  | cons leaf row ih =>
    cases leaf with
    | value v => exact .inr ⟨[], v, row, rfl⟩
    | node n =>
      rcases ih with ⟨ns, rfl⟩ | ⟨ns, v, rest, rfl⟩
      · exact .inl ⟨n :: ns, rfl⟩
      · exact .inr ⟨n :: ns, v, rest, rfl⟩

theorem mapM_read_map_node (ns : List (Node κ)) : (ns.map Leaf.node).mapM read = .ok ns := by
  have whole := mapM_read_nodes ns []
  rw [List.append_nil] at whole
  rw [whole, List.mapM_nil]
  exact congrArg Except.ok (List.append_nil ns)

theorem mapM_read_value (ns : List (Node κ)) (v : Value κ) (rest : List (Leaf κ)) :
    (ns.map Leaf.node ++ .value v :: rest).mapM read = fail (.notNodes v.kind) := by
  rw [mapM_read_nodes, List.mapM_cons]
  rfl

theorem mapM_read_eq_ok {row : List (Leaf κ)} {ns : List (Node κ)} :
    row.mapM read = .ok ns ↔ row = ns.map .node := by
  constructor
  · intro read
    rcases exists_nodes row with ⟨all, rfl⟩ | ⟨before, v, rest, rfl⟩
    · rw [mapM_read_map_node] at read
      rw [Except.ok.inj read]
    · rw [mapM_read_value] at read
      cases read
  · rintro rfl
    exact mapM_read_map_node ns

theorem mapM_read_eq_error {row : List (Leaf κ)} {e : Error} :
    row.mapM read = .error e ↔
      ∃ (ns : List (Node κ)) (v : Value κ) (rest : List (Leaf κ)),
        row = ns.map .node ++ .value v :: rest ∧ e = (Cause.notNodes v.kind).toError := by
  constructor
  · intro failed
    rcases exists_nodes row with ⟨all, rfl⟩ | ⟨ns, v, rest, rfl⟩
    · rw [mapM_read_map_node] at failed
      cases failed
    · rw [mapM_read_value] at failed
      exact ⟨ns, v, rest, rfl, (Except.error.inj failed).symm⟩
  · rintro ⟨ns, v, rest, rfl, rfl⟩
    exact mapM_read_value ns v rest

end Leaf

/-! ### Leaves -/

theorem Value.allLeaves_eq_flatMap (vs : List (Value κ)) : allLeaves vs = vs.flatMap leaves := by
  induction vs with
  | nil => rfl
  | cons v vs ih => rw [allLeaves, ih, List.flatMap_cons]

theorem Value.leaves_of_kind {v : Value κ} (single : v.kind ∉ [.none, .nodes, .list]) :
    v.leaves = [.value v] := by
  cases v with
  | none | nodes _ | list _ => exact absurd (by simp [kind]) single
  | _ => rfl

mutual

theorem Value.flatten_eq_mapM : ∀ v : Value κ, v.flatten = v.leaves.mapM Leaf.read
  | .nodes ns => (Leaf.mapM_read_map_node ns).symm
  | .list items => Value.flattenList_eq_mapM items
  | .none | .bool _ | .integer _ | .float _ | .string _ | .map _ | .tag _ | .closure _
  | .function _ => rfl

theorem Value.flattenList_eq_mapM :
    ∀ vs : List (Value κ), Value.flattenList vs = (Value.allLeaves vs).mapM Leaf.read
  | [] => rfl
  | v :: vs => by
    rw [Value.flattenList, Value.allLeaves, List.mapM_append, Value.flatten_eq_mapM v,
      Value.flattenList_eq_mapM vs]
    rfl

end

namespace Content

theorem allLeaves_eq_flatMap (cs : List (Content κ)) : allLeaves cs = cs.flatMap leaves := by
  induction cs with
  | nil => rfl
  | cons c cs ih => rw [allLeaves, ih, List.flatMap_cons]

theorem allLeaves_append (cs ds : List (Content κ)) :
    allLeaves (cs ++ ds) = allLeaves cs ++ allLeaves ds := by
  simp only [allLeaves_eq_flatMap, List.flatMap_append]

@[simp] theorem allLeaves_singleton (c : Content κ) : allLeaves [c] = c.leaves := by
  rw [allLeaves_eq_flatMap, List.flatMap_singleton]

theorem allLeaves_nodes (ns : List (Node κ)) : allLeaves (ns.map .node) = ns.map .node := by
  rw [allLeaves_eq_flatMap, List.flatMap_map]
  exact List.flatMap_pure_eq_map _ _

theorem allLeaves_values (vs : List (Value κ)) : allLeaves (vs.map .value) = Value.allLeaves vs := by
  rw [allLeaves_eq_flatMap, List.flatMap_map, Value.allLeaves_eq_flatMap]
  rfl

mutual

theorem flatten_eq_mapM : ∀ c : Content κ, c.flatten = c.leaves.mapM Leaf.read
  | .none => rfl
  | .node _ => rfl
  | .nodes ns => (Leaf.mapM_read_map_node ns).symm
  | .list items => flattenList_eq_mapM items
  | .value v => v.flatten_eq_mapM

/-- Contents are flattened as their leaves are read, up to the first one that is no node. -/
theorem flattenList_eq_mapM :
    ∀ cs : List (Content κ), flattenList cs = (allLeaves cs).mapM Leaf.read
  | [] => rfl
  | c :: cs => by
    rw [flattenList, allLeaves, List.mapM_append, flatten_eq_mapM c, flattenList_eq_mapM cs]
    rfl

end

/-! ### Values that are reached -/

theorem Reaches.leaves_subset {c : Content κ} {v : Value κ} (reached : c.Reaches v) :
    v.leaves ⊆ c.leaves := by
  induction reached with
  | value v => exact List.Subset.refl _
  | @list items c v member _ ih =>
    refine List.Subset.trans ih fun leaf inside => ?_
    rw [leaves, allLeaves_eq_flatMap]
    exact List.mem_flatMap.mpr ⟨c, member, inside⟩
  | @item c items v _ member ih =>
    refine List.Subset.trans (fun leaf inside => ?_) ih
    rw [Value.leaves, Value.allLeaves_eq_flatMap]
    exact List.mem_flatMap.mpr ⟨v, member, inside⟩

mutual

theorem Reaches.of_mem_leaves {c : Content κ} {w : Value κ} : ∀ {v : Value κ},
    c.Reaches v → .value w ∈ v.leaves → c.Reaches w ∧ w.kind ∉ [.none, .nodes, .list]
  | .none, _, inside => nomatch inside
  | .nodes ns, _, inside => by
    obtain ⟨_, -, same⟩ := List.mem_map.mp inside
    cases same
  | .list items, reached, inside =>
    Reaches.of_mem_allLeaves (fun _ member => .item reached member) inside
  | .bool _, reached, inside | .integer _, reached, inside | .float _, reached, inside
  | .string _, reached, inside | .map _, reached, inside | .tag _, reached, inside
  | .closure _, reached, inside | .function _, reached, inside => by
    obtain ⟨⟩ := List.mem_singleton.mp inside
    exact ⟨reached, by simp [Value.kind]⟩

theorem Reaches.of_mem_allLeaves {c : Content κ} {w : Value κ} : ∀ {vs : List (Value κ)},
    (∀ v ∈ vs, c.Reaches v) → .value w ∈ Value.allLeaves vs →
      c.Reaches w ∧ w.kind ∉ [.none, .nodes, .list]
  | [], _, inside => nomatch inside
  | v :: vs, reached, inside => by
    obtain ⟨here, later⟩ := List.forall_mem_cons.mp reached
    rcases List.mem_append.mp inside with first | rest
    · exact Reaches.of_mem_leaves here first
    · exact Reaches.of_mem_allLeaves later rest

end

mutual

theorem reaches_of_mem_leaves {w : Value κ} : ∀ {c : Content κ},
    .value w ∈ c.leaves → c.Reaches w ∧ w.kind ∉ [.none, .nodes, .list]
  | .none, inside => nomatch inside
  | .node n, inside => nomatch List.mem_singleton.mp inside
  | .nodes ns, inside => by
    obtain ⟨_, -, same⟩ := List.mem_map.mp inside
    cases same
  | .list items, inside => by
    obtain ⟨c, member, reached, single⟩ := reaches_of_mem_allLeaves inside
    exact ⟨.list member reached, single⟩
  | .value v, inside => Reaches.of_mem_leaves (.value v) inside

theorem reaches_of_mem_allLeaves {w : Value κ} : ∀ {cs : List (Content κ)},
    .value w ∈ allLeaves cs → ∃ c ∈ cs, c.Reaches w ∧ w.kind ∉ [.none, .nodes, .list]
  | [], inside => nomatch inside
  | c :: cs, inside => by
    rcases List.mem_append.mp inside with here | later
    · exact ⟨c, List.mem_cons_self, reaches_of_mem_leaves here⟩
    · obtain ⟨d, member, reached⟩ := reaches_of_mem_allLeaves later
      exact ⟨d, List.mem_cons_of_mem _ member, reached⟩

end

/-- The values among the leaves are those that are reached and hold no nodes. -/
theorem value_mem_allLeaves {w : Value κ} :
    .value w ∈ allLeaves cs ↔ (∃ c ∈ cs, c.Reaches w) ∧ w.kind ∉ [.none, .nodes, .list] := by
  constructor
  · intro inside
    obtain ⟨c, member, reached, single⟩ := reaches_of_mem_allLeaves inside
    exact ⟨⟨c, member, reached⟩, single⟩
  · rintro ⟨⟨c, member, reached⟩, single⟩
    rw [allLeaves_eq_flatMap]
    refine List.mem_flatMap.mpr ⟨c, member, reached.leaves_subset ?_⟩
    rw [Value.leaves_of_kind single]
    exact List.mem_singleton.mpr rfl

theorem flattenList_returns_iff :
    (∃ ns, flattenList cs = .ok ns) ↔
      ∀ c ∈ cs, ∀ v, c.Reaches v → v.kind ∈ [.none, .nodes, .list] := by
  -- Lists and `none` are reached without being leaves, so what is reached is compared with leaves only.
  rw [flattenList_eq_mapM]
  simp only [Leaf.mapM_read_eq_ok]
  constructor
  · rintro ⟨ns, row⟩ c member v reached
    by_contra single
    have inside := value_mem_allLeaves.mpr ⟨⟨c, member, reached⟩, single⟩
    rw [row] at inside
    obtain ⟨_, -, same⟩ := List.mem_map.mp inside
    cases same
  · intro groups
    rcases Leaf.exists_nodes (allLeaves cs) with all | ⟨ns, v, rest, row⟩
    · exact all
    · have inside : .value v ∈ allLeaves cs := by simp [row]
      obtain ⟨⟨c, member, reached⟩, single⟩ := value_mem_allLeaves.mp inside
      exact absurd (groups c member v reached) single

/-! ### Regrouping -/

namespace Regrouped

theorem leaves_eq (h : Regrouped cs ds) : allLeaves cs = allLeaves ds := by
  induction h with
  | refl cs => rfl
  | symm _ ih => exact ih.symm
  | trans _ _ ih ih' => exact ih.trans ih'
  | append _ _ ih ih' => rw [allLeaves_append, allLeaves_append, ih, ih']
  | none => rfl
  | nodes ns => rw [allLeaves_singleton, leaves, allLeaves_nodes]
  | list items => rw [allLeaves_singleton, leaves]
  | noneValue => rfl
  | nodesValue ns => rw [allLeaves_singleton, allLeaves_singleton, leaves, leaves, Value.leaves]
  | listValue items => rw [allLeaves_singleton, leaves, Value.leaves, allLeaves_values]

end Regrouped

def ofLeaf : Leaf κ → Content κ
  | .node n => .node n
  | .value v => .value v

mutual

theorem regrouped_value : ∀ v : Value κ, Regrouped [.value v] (v.leaves.map ofLeaf)
  | .none => .noneValue
  | .nodes ns => by
    have apart := (Regrouped.nodesValue ns).trans (.nodes ns)
    rwa [Value.leaves, List.map_map]
  | .list items => (Regrouped.listValue items).trans (regrouped_values items)
  | .bool _ | .integer _ | .float _ | .string _ | .map _ | .tag _ | .closure _ | .function _ =>
    .refl _

theorem regrouped_values :
    ∀ vs : List (Value κ), Regrouped (vs.map .value) ((Value.allLeaves vs).map ofLeaf)
  | [] => .refl _
  | v :: vs => by
    rw [Value.allLeaves, List.map_append]
    exact .append (regrouped_value v) (regrouped_values vs)

end

mutual

theorem regrouped_leaves : ∀ c : Content κ, Regrouped [c] (c.leaves.map ofLeaf)
  | .none => .none
  | .node n => .refl _
  | .nodes ns => by
    have apart := Regrouped.nodes ns
    rwa [leaves, List.map_map]
  | .list items => (Regrouped.list items).trans (regrouped_allLeaves items)
  | .value v => regrouped_value v

/-- Contents can be regrouped into the row of their leaves. -/
theorem regrouped_allLeaves :
    ∀ cs : List (Content κ), Regrouped cs ((allLeaves cs).map ofLeaf)
  | [] => .refl _
  | c :: cs => by
    rw [allLeaves, List.map_append]
    exact .append (regrouped_leaves c) (regrouped_allLeaves cs)

end

/-- Contents are the same but for their groups if and only if they have the same leaves. -/
theorem regrouped_iff : Regrouped cs ds ↔ allLeaves cs = allLeaves ds := by
  refine ⟨Regrouped.leaves_eq, fun same => ?_⟩
  have apart := regrouped_allLeaves cs
  rw [same] at apart
  exact apart.trans (regrouped_allLeaves ds).symm

theorem flattenList_append (cs ds : List (Content κ)) :
    flattenList (cs ++ ds) = (do
      let ns ← flattenList cs
      let more ← flattenList ds
      .ok (ns ++ more)) := by
  simp only [flattenList_eq_mapM, allLeaves_append, List.mapM_append]
  rfl

/-- Flattening succeeds if and only if all values that are reached through lists are `none`, nodes or
lists, and gives the nodes of the leaves in order. Otherwise it fails at the first leaf that is no node. It
depends on the leaves only, so it is the same for contents that are grouped in another way, and contents
are flattened one part after the other. -/
theorem flattenList_regrouped (cs ds : List (Content κ)) :
    ((∃ ns, flattenList cs = .ok ns) ↔
      ∀ c ∈ cs, ∀ v, c.Reaches v → v.kind ∈ [.none, .nodes, .list]) ∧
    (∀ ns, flattenList cs = .ok ns ↔ allLeaves cs = ns.map .node) ∧
    (∀ e, flattenList cs = .error e ↔
      ∃ (ns : List (Node κ)) (v : Value κ) (rest : List (Leaf κ)),
        allLeaves cs = ns.map .node ++ .value v :: rest ∧
        e = (Cause.notNodes v.kind).toError ∧ e.category = .structuralType ∧
        e.message = "expected a node, found " ++ v.kind.name) ∧
    (Regrouped cs ds ↔ allLeaves cs = allLeaves ds) ∧
    (Regrouped cs ds → flattenList cs = flattenList ds) ∧
    flattenList (cs ++ ds) = (do
      let ns ← flattenList cs
      let more ← flattenList ds
      .ok (ns ++ more)) := by
  refine ⟨flattenList_returns_iff, fun ns => ?_, fun e => ?_, regrouped_iff, fun h => ?_,
    flattenList_append cs ds⟩
  · rw [flattenList_eq_mapM, Leaf.mapM_read_eq_ok]
  · rw [flattenList_eq_mapM, Leaf.mapM_read_eq_error]
    refine exists_congr fun ns => exists_congr fun v => exists_congr fun rest =>
      and_congr_right fun _ => ⟨?_, And.left⟩
    rintro rfl
    exact ⟨rfl, rfl, rfl⟩
  · rw [flattenList_eq_mapM, flattenList_eq_mapM, h.leaves_eq]

/-- Two texts, one of them deep inside lists with `none` beside it. -/
theorem flattenList_regrouped_nestedNone :
    let nested : List (Content Empty) :=
      [.list [.none, .value (.list [.nodes [.text "a"], .none])], .node (.text "b")]
    let row : List (Content Empty) := [.nodes [.text "a", .text "b"]]
    Regrouped nested row ∧ flattenList nested = flattenList row ∧
      flattenList nested = .ok [.text "a", .text "b"] := by
  intro nested row
  have same : Regrouped nested row := regrouped_iff.mpr rfl
  obtain ⟨-, returns, -, -, unchanged, -⟩ := flattenList_regrouped nested row
  exact ⟨same, unchanged same, (returns _).mpr rfl⟩

end Content

end MarkupTemplate

import MarkupTemplate.Proofs.Placement.Attributes
import MarkupTemplate.Proofs.Simulation.Throughout

/-!
# Values with settled nodes

The nodes that a script can get at through a value, and scripts in which no literal holds nodes. In all
values that such a script comes by, all nodes are in place and all closures are such scripts, those in
the attributes of nodes included.
-/

namespace MarkupTemplate

variable {κ μ : Type}

mutual

/-- The nodes that a value holds. Those in the attributes of nodes are out of reach. -/
def Value.innerNodes : Value κ → List (Node κ)
  | .nodes ns => ns
  | .list items => Value.innerNodesList items
  | .map entries => Value.innerNodesEntries entries
  | _ => []

def Value.innerNodesList : List (Value κ) → List (Node κ)
  | [] => []
  | v :: vs => v.innerNodes ++ Value.innerNodesList vs

def Value.innerNodesEntries : List (String × Value κ) → List (Node κ)
  | [] => []
  | (_, v) :: rest => v.innerNodes ++ Value.innerNodesEntries rest

end

/-- The value holds no nodes. -/
def Value.NodeFree (v : Value κ) : Prop := v.innerNodes = []

namespace Value

mutual

theorem innerNodes_mapClosures (f : κ → μ) :
    ∀ v : Value κ, (v.mapClosures f).innerNodes = v.innerNodes.map (Node.mapClosures f)
  | .list items => by simpa [mapClosures, innerNodes] using innerNodesList_map f items
  | .map entries => by simpa [mapClosures, innerNodes] using innerNodesEntries_map f entries
  | .nodes ns => by simp [mapClosures, innerNodes]
  | .none | .bool _ | .integer _ | .float _ | .string _ | .tag _ | .closure _ | .function _ => rfl

theorem innerNodesList_map (f : κ → μ) : ∀ vs : List (Value κ),
    innerNodesList (vs.map (mapClosures f)) = (innerNodesList vs).map (Node.mapClosures f)
  | [] => rfl
  | v :: vs => by simp [innerNodesList, innerNodes_mapClosures f v, innerNodesList_map f vs]

theorem innerNodesEntries_map (f : κ → μ) : ∀ entries : List (String × Value κ),
    innerNodesEntries (entries.map (Prod.map id (mapClosures f))) =
      (innerNodesEntries entries).map (Node.mapClosures f)
  | [] => rfl
  | (_, v) :: rest => by
    simp [innerNodesEntries, innerNodes_mapClosures f v, innerNodesEntries_map f rest]

end

theorem NodeFree.lift {v : Value Empty} (free : v.NodeFree) : (v.lift : Value κ).innerNodes = [] := by
  rw [Value.lift, innerNodes_mapClosures, free, List.map_nil]

theorem innerNodesList_eq_nil {vs : List (Value κ)} :
    innerNodesList vs = [] ↔ ∀ v ∈ vs, v.innerNodes = [] := by
  induction vs with
  | nil => simp [innerNodesList]
  | cons v vs ih => rw [innerNodesList, List.append_eq_nil_iff, ih, List.forall_mem_cons]

theorem innerNodesEntries_eq_nil {entries : List (String × Value κ)} :
    innerNodesEntries entries = [] ↔ ∀ entry ∈ entries, entry.2.innerNodes = [] := by
  induction entries with
  | nil => simp [innerNodesEntries]
  | cons entry rest ih => rw [innerNodesEntries, List.append_eq_nil_iff, ih, List.forall_mem_cons]

theorem Contains.eq_nil {v : Value κ} {ns : List (Node κ)} (h : v.Contains ns)
    (free : v.innerNodes = []) : ns = [] := by
  induction h with
  | nodes ns => exact free
  | list member _ ih => exact ih (innerNodesList_eq_nil.mp free _ member)
  | map member _ ih => exact ih (innerNodesEntries_eq_nil.mp free _ member)
  | inside member _ ih =>
    obtain rfl := free
    cases member

theorem allSettled_lift {v : Value Empty} (free : v.NodeFree) : (v.lift : Value κ).AllSettled :=
  fun _ inside => inside.eq_nil free.lift ▸ settled_nil

end Value

/-- Functions of the host program make values in which all nodes are in place, if they are given
such. -/
class Host.KeepsSettled [Host] : Prop where
  settled (serial : Nat) {κ : Type} (shown : κ → Shown) {args : List (Value κ)} {w : Value κ} :
    (Host.function serial).call shown args = .ok w → (∀ v ∈ args, v.AllSettled) → w.AllSettled

theorem Host.keepsSettled_passing : @Host.KeepsSettled .passing := by
  let := Host.passing
  refine ⟨fun serial _ shown args w ok settled => settled w ?_⟩
  rw [HostFunction.passing_eq_ok.mp ok]
  exact List.mem_singleton_self w

/-- Whether all nodes in a value are in place is decided by its parts. -/
theorem Value.hereditary_allSettled [Host] [Shows κ] [Host.KeepsSettled] :
    Hereditary (AllSettled : Value κ → Prop) where
  none := nofun
  bool _ := nofun
  integer _ := nofun
  string _ := nofun
  list := allSettled_list
  map := allSettled_map
  host serial _ _ h ok := Host.KeepsSettled.settled serial Shows.shown ok h

/-! ### Scripts -/

open Resolve (partExprs argExprs defaultExprs)

mutual

/-- Every literal of a block and every layout in it has a property. -/
def Block.Writes (literal : Value Empty → Prop) (allowed : Layout → Prop) : Block → Prop
  | .text parts layout => Expr.AllWrite literal (partExprs parts) ∧ allowed layout
  | .call _ args body layout => Expr.AllWrite literal (argExprs args) ∧
      Block.AllWrite literal allowed body ∧ allowed layout
  | .embed e layout => e.Writes literal ∧ allowed layout
  | .define signature body => Expr.AllWrite literal (defaultExprs signature.params) ∧
      Block.AllWrite literal allowed body
  | .assign _ e => e.Writes literal
  | .context _ | .importFrom .. => True
  | .branch condition thenBlocks elseBlocks => condition.Writes literal ∧
      Block.AllWrite literal allowed thenBlocks ∧ Block.AllWrite literal allowed elseBlocks
  | .loop _ items body => items.Writes literal ∧ Block.AllWrite literal allowed body

def Block.AllWrite (literal : Value Empty → Prop) (allowed : Layout → Prop) : List Block → Prop
  | [] => True
  | b :: bs => b.Writes literal allowed ∧ Block.AllWrite literal allowed bs

end

/-- Every literal of a definition and every layout in it has a property. -/
structure Definition.Writes (literal : Value Empty → Prop) (allowed : Layout → Prop)
    (d : Definition) : Prop where
  defaults : Expr.AllWrite literal (defaultExprs d.signature.params)
  body : Block.AllWrite literal allowed d.body

theorem Expr.AllWrite.of_mem {literal : Value Empty → Prop} {es : List Expr} {e : Expr}
    (written : Expr.AllWrite literal es) (member : e ∈ es) : e.Writes literal := by
  induction es with
  | nil => cases member
  | cons first rest ih =>
    obtain ⟨here, later⟩ := written
    rcases List.mem_cons.mp member with rfl | member
    · exact here
    · exact ih later member

section Weaker

variable {literal wider : Value Empty → Prop}

mutual

theorem Expr.writes_imp (weaker : ∀ v, literal v → wider v) :
    ∀ e : Expr, e.Writes literal → e.Writes wider
  | .literal value _, written => weaker value written
  | .var .., _ | .tagRef _, _ => trivial
  | .list items, written | .concat items, written => Expr.allWrite_imp weaker items written
  | .not e, written => Expr.writes_imp weaker e written
  | .filter receiver _ args, ⟨received, written⟩ =>
    ⟨Expr.writes_imp weaker receiver received, Expr.allWrite_imp weaker args written⟩

theorem Expr.allWrite_imp (weaker : ∀ v, literal v → wider v) :
    ∀ es : List Expr, Expr.AllWrite literal es → Expr.AllWrite wider es
  | [], _ => trivial
  | e :: es, ⟨first, rest⟩ =>
    ⟨Expr.writes_imp weaker e first, Expr.allWrite_imp weaker es rest⟩

end

end Weaker

/-! ### Clean values -/

section Clean

variable [Defined κ] {allowed : Layout → Prop}

/-- No literal of the definition of a closure holds nodes, and its layouts are of some kind. -/
def Defined.Clean (allowed : Layout → Prop) (c : κ) : Prop :=
  (Defined.definition c).Writes Value.NodeFree allowed

/-- All nodes in a value are in place, and all closures in it have clean definitions. -/
def Value.Clean (allowed : Layout → Prop) (v : Value κ) : Prop :=
  v.Throughout (Defined.Clean allowed) ∧ v.AllSettled

/-- The attributes of some nodes are clean. -/
structure Node.Clean (allowed : Layout → Prop) (ns : List (Node κ)) : Prop where
  throughout : Node.Throughout (Defined.Clean allowed) ns
  attributes : ∀ v ∈ attributesList ns, v.AllSettled

namespace Value

theorem hereditary_clean [Host] [Host.KeepsSettled] :
    Hereditary (Clean allowed : Value κ → Prop) :=
  (hereditary_throughout _).and hereditary_allSettled

theorem clean_lift {v : Value Empty} (free : v.NodeFree) : (v.lift : Value κ).Clean allowed :=
  ⟨throughout_lift v, allSettled_lift free⟩

theorem clean_closure {c : κ} : (closure c : Value κ).Clean allowed ↔
    (Defined.definition c).Writes NodeFree allowed :=
  (and_iff_left nofun).trans throughout_closure

theorem clean_nodes {ns : List (Node κ)} :
    (nodes ns).Clean allowed ↔ Settled ns ∧ Node.Clean allowed ns := by
  rw [Clean, throughout_nodes, allSettled_nodes]
  exact ⟨fun ⟨throughout, settled, attributes⟩ => ⟨settled, throughout, attributes⟩,
    fun ⟨settled, throughout, attributes⟩ => ⟨throughout, settled, attributes⟩⟩

end Value

/-! ### Clean nodes -/

variable {ns ns' : List (Node κ)}

/-- Flattening a clean value gives nodes that are in place, with clean attributes. -/
theorem Value.Clean.flatten {v : Value κ} (clean : v.Clean allowed) (flat : v.flatten = .ok ns) :
    Settled ns ∧ Node.Clean allowed ns :=
  clean_nodes.mp ⟨throughout_nodes.mpr (clean.1.flatten flat), clean.2.flatten flat⟩

namespace Node.Clean

theorem nil : Clean allowed ([] : List (Node κ)) := ⟨.nil, List.forall_mem_nil _⟩

theorem append (h : Clean allowed ns) (h' : Clean allowed ns') : Clean allowed (ns ++ ns') := by
  refine ⟨h.throughout.append h'.throughout, ?_⟩
  rw [attributesList_append]
  exact List.forall_mem_append.mpr ⟨h.attributes, h'.attributes⟩

theorem text (s : String) : Clean allowed [(.text s : Node κ)] := ⟨.text s, List.forall_mem_nil _⟩

theorem ofHead {head : Head (Value κ)} {indent : Option Indent} {n : Node κ}
    (positional : ∀ v ∈ head.positional, v.Clean allowed)
    (named : ∀ entry ∈ head.named, entry.2.Clean allowed) (body : Clean allowed ns)
    (made : Node.ofHead head indent ns = .ok n) : Clean allowed [n] := by
  refine ⟨.ofHead (fun v member => (positional v member).1)
    (fun entry member => (named entry member).1) body.throughout made, ?_⟩
  rw [attributesList, attributesList, List.append_nil, attributes_of_ofHead made, Head.values]
  refine List.forall_mem_append.mpr ⟨List.forall_mem_append.mpr
    ⟨fun v member => (positional v member).2, fun v member => ?_⟩, body.attributes⟩
  obtain ⟨entry, there, rfl⟩ := List.mem_map.mp member
  exact (named entry there).2

theorem group {outline : Bool} {indent : Option Indent} {n : Node κ} (body : Clean allowed ns)
    (made : Node.group outline indent ns = .ok n) : Clean allowed [n] := by
  refine ofHead ?_ ?_ body made
  · nofun
  · nofun

theorem anchor (base : String) (h : Clean allowed ns) : Clean allowed (anchorList base ns) :=
  ⟨h.throughout.anchor base, (attributesList_anchor base ns).symm ▸ h.attributes⟩

theorem startLine {place : Option String} (h : Clean allowed ns)
    (started : MarkupTemplate.startLine place ns = .ok ns') : Clean allowed ns' :=
  ⟨h.throughout.startLine started, (attributesList_of_startLine started).symm ▸ h.attributes⟩

theorem demote {base : String} (h : Clean allowed ns) (demoted : demoteAll base ns = .ok ns') :
    Clean allowed ns' :=
  ⟨h.throughout.demote demoted, (attributesList_of_demoteAll demoted).symm ▸ h.attributes⟩

end Node.Clean

end Clean

end MarkupTemplate

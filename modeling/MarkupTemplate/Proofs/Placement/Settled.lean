import MarkupTemplate.Document.Select
import MarkupTemplate.Proofs.Resolved.Failures

/-!
# Nodes in place

A node is in place once nothing about it is measured from the margin of the document. Nodes that are
in place at every depth are rendered unless an attribute is refused. Before that, nodes stand in a
block: what is indented outermost is measured from the margin and goes at least as far as the block,
and everything below it is in place.
-/

namespace MarkupTemplate

variable {κ : Type}

/-- The tag of an element takes a body, or there is none. -/
def Head.Admits (head : Head (Value κ)) (body : List (Node κ)) : Prop :=
  ∀ tag, head.tag = some tag → tag.isVoid = true → body = []

/-- The node is not measured from the margin, and has no body that its tag does not take. -/
def Node.InPlace : Node κ → Prop
  | .element head indent body => head.Admits body ∧ ∀ i, indent ≠ some (.absolute i)
  | _ => True

/-- All of some nodes and all nodes below them are in place. -/
def Settled (ns : List (Node κ)) : Prop := ∀ n ∈ Node.preorder ns, n.InPlace

theorem settled_nil : Settled ([] : List (Node κ)) := nofun

theorem settled_cons {n : Node κ} {ns : List (Node κ)} :
    Settled (n :: ns) ↔ Settled [n] ∧ Settled ns := by
  simp [Settled, Node.preorder, or_imp, forall_and, and_assoc]

theorem settled_append {ns ms : List (Node κ)} :
    Settled (ns ++ ms) ↔ Settled ns ∧ Settled ms := by
  induction ns with
  | nil => simp [settled_nil]
  | cons n ns ih => rw [List.cons_append, settled_cons, ih, ← and_assoc, ← settled_cons]

theorem settled_text (s : String) : Settled [(.text s : Node κ)] := by
  simp [Settled, Node.preorder, Node.descendants, Node.InPlace]

theorem settled_root {body : List (Node κ)} : Settled [.root body] ↔ Settled body := by
  simp [Settled, Node.preorder, Node.descendants, Node.InPlace]

theorem settled_element {head : Head (Value κ)} {indent : Option Indent} {body : List (Node κ)} :
    Settled [.element head indent body] ↔
      head.Admits body ∧ (∀ i, indent ≠ some (.absolute i)) ∧ Settled body := by
  simp [Settled, Node.preorder, Node.descendants, Node.InPlace, and_assoc]

/-! ### Rendering -/

section Render

variable [Host] [Shows κ] {allowed : ErrorCategory → Prop}

mutual

/-- Rendering nodes that are in place fails only where an attribute is refused or a tag of the host
program fails. -/
theorem Node.render_fails [Host.TagsFailIn allowed] (type : allowed .type) :
    ∀ n : Node κ, Settled [n] → FailsIn allowed n.render
  | .text s, _ => .ok s
  | .root body, settled => .map _ (Node.renderList_fails type body (settled_root.mp settled))
  | .element head indent body, settled => by
    obtain ⟨admits, relative, below⟩ := settled_element.mp settled
    unfold render
    refine .bind (head.write_fails type (Node.renderList_fails type body below) ?_)
      fun text _ => layOut_fails head.outline (.inr relative) text
    intro tag found void
    rw [admits tag found void]
    exact .inr ⟨rfl, rfl⟩

theorem Node.renderList_fails [Host.TagsFailIn allowed] (type : allowed .type) :
    ∀ ns : List (Node κ), Settled ns → FailsIn allowed (Node.renderList ns)
  | [], _ => .ok ""
  | n :: ns, settled => by
    obtain ⟨first, rest⟩ := settled_cons.mp settled
    unfold renderList
    refine .bind (Node.render_fails type n first) fun s _ => ?_
    exact .bind (Node.renderList_fails type ns rest) fun more _ => .ok _

end

end Render

/-! ### Nodes in a block -/

mutual

/-- The node stands in a block with an absolute indentation: its outermost indentations go at least
as far, and what is below them is in place. -/
def Node.StandsIn (outer : String) : Node κ → Prop
  | .text _ => True
  | .root body => Settled body
  | .element head none body => head.Admits body ∧ Node.AllStandIn outer body
  | .element head (some (.relative _)) body => head.Admits body ∧ Settled body
  | .element head (some (.absolute indent)) body =>
    head.Admits body ∧ outer.toList <+: indent.toList ∧ Settled body

def Node.AllStandIn (outer : String) : List (Node κ) → Prop
  | [] => True
  | n :: ns => n.StandsIn outer ∧ Node.AllStandIn outer ns

end

namespace Node

variable {outer inner : String}

theorem allStandIn_iff {ns : List (Node κ)} :
    AllStandIn outer ns ↔ ∀ n ∈ ns, n.StandsIn outer := by
  induction ns with
  | nil => simp [AllStandIn]
  | cons n ns ih => rw [AllStandIn, ih, List.forall_mem_cons]

theorem allStandIn_append {ns ms : List (Node κ)} :
    AllStandIn outer (ns ++ ms) ↔ AllStandIn outer ns ∧ AllStandIn outer ms := by
  simp only [allStandIn_iff, List.forall_mem_append]

mutual

theorem StandsIn.widen (deeper : outer.toList <+: inner.toList) :
    ∀ {n : Node κ}, n.StandsIn inner → n.StandsIn outer
  | .text _, _ => trivial
  | .root _, settled => settled
  | .element _ none _, ⟨admits, below⟩ => ⟨admits, AllStandIn.widen deeper below⟩
  | .element _ (some (.relative _)) _, stands => stands
  | .element _ (some (.absolute _)) _, ⟨admits, prefixed, below⟩ =>
    ⟨admits, deeper.trans prefixed, below⟩

theorem AllStandIn.widen (deeper : outer.toList <+: inner.toList) :
    ∀ {ns : List (Node κ)}, AllStandIn inner ns → AllStandIn outer ns
  | [], _ => trivial
  | _ :: _, ⟨first, rest⟩ => ⟨first.widen deeper, AllStandIn.widen deeper rest⟩

end

mutual

/-- A node that is demoted below whatever parent is in place. -/
theorem StandsIn.demote_settled {parent : String} :
    ∀ {n n' : Node κ}, n.StandsIn outer → n.demote parent = (n', none) → Settled [n']
  | .text s, _, _, demoted => by
    cases demoted
    exact settled_text s
  | .root body, _, settled, demoted => by
    cases demoted
    exact settled_root.mpr settled
  | .element head none body, _, ⟨admits, below⟩, demoted => by
    -- demoting changes the body, but leaves it empty for a tag that takes none
    simp only [demote, Prod.mk.injEq] at demoted
    obtain ⟨rfl, fine⟩ := demoted
    have inner := AllStandIn.demote_settled below (Prod.ext rfl fine)
    refine settled_element.mpr ⟨fun tag found void => ?_, nofun, inner⟩
    rw [admits tag found void]
    rfl
  | .element head (some (.relative indent)) body, _, ⟨admits, below⟩, demoted => by
    cases demoted
    exact settled_element.mpr ⟨admits, nofun, below⟩
  | .element head (some (.absolute indent)) body, _, ⟨admits, _, below⟩, demoted => by
    simp only [demote] at demoted
    split at demoted
    · cases demoted
      exact settled_element.mpr ⟨admits, nofun, below⟩
    · cases demoted

theorem AllStandIn.demote_settled {parent : String} :
    ∀ {ns ns' : List (Node κ)}, AllStandIn outer ns → demoteList parent ns = (ns', none) → Settled ns'
  | [], _, _, demoted => by
    cases demoted
    exact settled_nil
  | n :: ns, _, ⟨first, rest⟩, demoted => by
    unfold demoteList at demoted
    split at demoted
    · cases demoted
    · next here =>
      simp only [Prod.mk.injEq] at demoted
      obtain ⟨rfl, fine⟩ := demoted
      exact settled_cons.mpr
        ⟨first.demote_settled here, AllStandIn.demote_settled rest (Prod.ext rfl fine)⟩

end

mutual

/-- What stands in a block can be demoted below it. -/
theorem StandsIn.demote_fine : ∀ {n : Node κ}, n.StandsIn outer → (n.demote outer).2 = none
  | .text _, _ | .root _, _ | .element _ (some (.relative _)) _, _ => rfl
  | .element _ none _, ⟨_, below⟩ => AllStandIn.demote_fine below
  | .element _ (some (.absolute indent)) _, ⟨_, ⟨added, same⟩, _⟩ => by
    have extension : extension? outer indent = some (String.ofList added) := by
      rw [extension?, Text.stripLead?_eq_some_iff.mpr same.symm, Option.map_some]
    simp only [demote, extension]

theorem AllStandIn.demote_fine :
    ∀ {ns : List (Node κ)}, AllStandIn outer ns → (demoteList outer ns).2 = none
  | [], _ => rfl
  | n :: ns, ⟨first, rest⟩ => by
    have here : n.demote outer = ((n.demote outer).1, none) := Prod.ext rfl first.demote_fine
    rw [demoteList, here]
    exact AllStandIn.demote_fine rest

end

mutual

/-- A node in place stands in the block that it is anchored in. -/
theorem anchor_standsIn (base : String) : ∀ {n : Node κ}, Settled [n] → (n.anchor base).StandsIn base
  | .text _, _ => trivial
  | .root _, settled => settled_root.mp settled
  | .element _ none body, settled => by
    obtain ⟨admits, -, below⟩ := settled_element.mp settled
    refine ⟨fun tag found void => ?_, anchorList_standIn base below⟩
    rw [admits tag found void]
    rfl
  | .element _ (some (.relative indent)) _, settled => by
    obtain ⟨admits, -, below⟩ := settled_element.mp settled
    refine ⟨admits, ?_, below⟩
    rw [String.toList_append]
    exact List.prefix_append _ _
  | .element _ (some (.absolute indent)) _, settled =>
    absurd rfl ((settled_element.mp settled).2.1 indent)

theorem anchorList_standIn (base : String) :
    ∀ {ns : List (Node κ)}, Settled ns → AllStandIn base (anchorList base ns)
  | [], _ => trivial
  | _ :: _, settled =>
    have ⟨first, rest⟩ := settled_cons.mp settled
    ⟨anchor_standsIn base first, anchorList_standIn base rest⟩

end

end Node

end MarkupTemplate

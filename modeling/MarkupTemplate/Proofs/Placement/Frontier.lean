import Mathlib.Data.Set.List
import MarkupTemplate.Proofs.Placement.Positions

/-!
# Outermost indentations

Demoting and anchoring stop at the same indentations of a node: its own or, if it has none, the first
ones below it. Both are seen as functions on the list of these, and nothing else in the node changes.
-/

namespace MarkupTemplate

variable {κ : Type} {parent : String} {is js ks : List Indent} {ns : List (Node κ)} {n : Node κ}

mutual

/-- The outermost indentations of a node, in order. -/
def Node.frontier : Node κ → List Indent
  | .text _ | .root _ => []
  | .element _ none body => Node.allFrontier body
  | .element _ (some indent) _ => [indent]

def Node.allFrontier : List (Node κ) → List Indent
  | [] => []
  | n :: ns => n.frontier ++ Node.allFrontier ns

end

mutual

/-- The node with some indentations in place of its outermost ones. -/
def Node.withFrontier (is : List Indent) : Node κ → Node κ
  | .text s => .text s
  | .root body => .root body
  | .element head none body => .element head none (Node.allWithFrontier is body)
  | .element head (some indent) body => .element head (some (is.headD indent)) body

def Node.allWithFrontier (is : List Indent) : List (Node κ) → List (Node κ)
  | [] => []
  | n :: ns =>
    n.withFrontier (is.take n.frontier.length) ::
      Node.allWithFrontier (is.drop n.frontier.length) ns

end

namespace Node

theorem allWithFrontier_cons (same : is.length = n.frontier.length) :
    allWithFrontier (is ++ js) (n :: ns) = n.withFrontier is :: allWithFrontier js ns := by
  rw [allWithFrontier, List.take_left' same, List.drop_left' same]

/-- A list of as many indentations as some nodes have is one for the first and one for the rest. -/
theorem split_frontier (same : is.length = (allFrontier (n :: ns)).length) :
    ∃ js ks, is = js ++ ks ∧ js.length = n.frontier.length ∧ ks.length = (allFrontier ns).length := by
  rw [allFrontier, List.length_append] at same
  refine ⟨is.take n.frontier.length, is.drop n.frontier.length, (List.take_append_drop ..).symm, ?_, ?_⟩
  · rw [List.length_take]
    omega
  · rw [List.length_drop]
    omega

mutual

@[simp] theorem withFrontier_frontier : ∀ n : Node κ, n.withFrontier n.frontier = n
  | .text _ | .root _ | .element _ (some _) _ => rfl
  | .element _ none body => congrArg (element _ none) (allWithFrontier_allFrontier body)

@[simp] theorem allWithFrontier_allFrontier :
    ∀ ns : List (Node κ), allWithFrontier (allFrontier ns) ns = ns
  | [] => rfl
  | n :: ns => by
    rw [allFrontier, allWithFrontier_cons rfl, withFrontier_frontier n, allWithFrontier_allFrontier ns]

end

mutual

theorem frontier_withFrontier : ∀ {n : Node κ} {is : List Indent},
    is.length = n.frontier.length → (n.withFrontier is).frontier = is
  | .text _, _, same | .root _, _, same => (List.eq_nil_of_length_eq_zero same).symm
  | .element _ none _, _, same => allFrontier_allWithFrontier same
  | .element _ (some _) _, [_], _ => rfl

theorem allFrontier_allWithFrontier : ∀ {ns : List (Node κ)} {is : List Indent},
    is.length = (allFrontier ns).length → allFrontier (allWithFrontier is ns) = is
  | [], _, same => (List.eq_nil_of_length_eq_zero same).symm
  | _ :: _, _, same => by
    obtain ⟨js, ks, rfl, here, later⟩ := split_frontier same
    rw [allWithFrontier_cons here, allFrontier, frontier_withFrontier here,
      allFrontier_allWithFrontier later]

end

mutual

/-- Only the last indentations that a node gets count. -/
theorem withFrontier_withFrontier : ∀ {n : Node κ} {is js : List Indent},
    is.length = n.frontier.length → js.length = n.frontier.length →
      (n.withFrontier is).withFrontier js = n.withFrontier js
  | .text _, _, _, _, _ | .root _, _, _, _, _ => rfl
  | .element _ none _, _, _, same, same' =>
    congrArg (element _ none) (allWithFrontier_allWithFrontier same same')
  | .element _ (some _) _, [_], [_], _, _ => rfl

theorem allWithFrontier_allWithFrontier : ∀ {ns : List (Node κ)} {is js : List Indent},
    is.length = (allFrontier ns).length → js.length = (allFrontier ns).length →
      allWithFrontier js (allWithFrontier is ns) = allWithFrontier js ns
  | [], _, _, _, _ => rfl
  | n :: ns, _, _, same, same' => by
    obtain ⟨is, is', rfl, here, later⟩ := split_frontier same
    obtain ⟨js, js', rfl, here', later'⟩ := split_frontier same'
    have kept : js.length = (n.withFrontier is).frontier.length := by
      rw [frontier_withFrontier here, here, here']
    rw [allWithFrontier_cons here, allWithFrontier_cons here', allWithFrontier_cons kept,
      withFrontier_withFrontier here here', allWithFrontier_allWithFrontier later later']

end

theorem allWithFrontier_inj (left : is.length = (allFrontier ns).length)
    (right : js.length = (allFrontier ns).length) :
    allWithFrontier is ns = allWithFrontier js ns ↔ is = js := by
  constructor
  · intro same
    rw [← allFrontier_allWithFrontier left, same, allFrontier_allWithFrontier right]
  · exact fun same => same ▸ rfl

end Node

/-! ### Demoting and anchoring -/

def Indent.demote (parent : String) : Indent → Indent × Option Error
  | .relative indent => (.relative indent, none)
  | .absolute indent =>
    match extension? parent indent with
    | some rest => (.relative rest, none)
    | none => (.absolute indent, some (Cause.indentOutsideParent indent parent).toError)

/-- Indentations made relative to that of a parent, up to the first that does not extend it. -/
def Indent.demoteAll (parent : String) : List Indent → List Indent × Option Error
  | [] => ([], none)
  | i :: is =>
    match i.demote parent with
    | (i', some error) => (i' :: is, some error)
    | (i', none) => ((i' :: (Indent.demoteAll parent is).1), (Indent.demoteAll parent is).2)

def Indent.anchor (base : String) : Indent → Indent
  | .relative indent => .absolute (base ++ indent)
  | .absolute indent => .absolute indent

namespace Indent

/-- The second part is not reached if the first one fails. -/
theorem demoteAll_append (parent : String) (is js : List Indent) :
    demoteAll parent (is ++ js) =
      match demoteAll parent is with
      | (is', some error) => (is' ++ js, some error)
      | (is', none) => (is' ++ (demoteAll parent js).1, (demoteAll parent js).2) := by
  induction is with
  | nil => rfl
  | cons i is ih =>
    simp only [List.cons_append, demoteAll, ih]
    rcases i.demote parent with ⟨i', _ | error⟩
    · rcases demoteAll parent is with ⟨is', _ | error⟩ <;> rfl
    · rfl

@[simp] theorem length_demoteAll (parent : String) (is : List Indent) :
    (demoteAll parent is).1.length = is.length := by
  induction is with
  | nil => rfl
  | cons i is ih =>
    rw [demoteAll]
    split
    · rfl
    · rw [List.length_cons, List.length_cons, ih]

end Indent

namespace Node

mutual

theorem demote_eq (parent : String) : ∀ n : Node κ,
    n.demote parent =
      (n.withFrontier (Indent.demoteAll parent n.frontier).1, (Indent.demoteAll parent n.frontier).2)
  | .text _ | .root _ | .element _ (some (.relative _)) _ => rfl
  | .element _ none body => by
    rw [demote, demoteList_eq parent body]
    rfl
  | .element _ (some (.absolute indent)) _ => by
    simp only [demote, frontier, withFrontier, Indent.demoteAll, Indent.demote]
    cases extension? parent indent <;> rfl

theorem demoteList_eq (parent : String) : ∀ ns : List (Node κ),
    demoteList parent ns =
      (allWithFrontier (Indent.demoteAll parent (allFrontier ns)).1 ns,
        (Indent.demoteAll parent (allFrontier ns)).2)
  | [] => rfl
  | n :: ns => by
    have same := Indent.length_demoteAll parent n.frontier
    rw [demoteList, demote_eq parent n, demoteList_eq parent ns, allFrontier, Indent.demoteAll_append]
    rcases stopped : Indent.demoteAll parent n.frontier with ⟨is, _ | error⟩ <;>
      rw [stopped] at same
    · simp only [allWithFrontier_cons same]
    · simp only [allWithFrontier_cons same, allWithFrontier_allFrontier]

end

mutual

theorem anchor_eq (base : String) : ∀ n : Node κ,
    n.anchor base = n.withFrontier (n.frontier.map (Indent.anchor base))
  | .text _ | .root _ | .element _ (some (.relative _)) _ | .element _ (some (.absolute _)) _ => rfl
  | .element _ none body => congrArg (element _ none) (anchorList_eq base body)

theorem anchorList_eq (base : String) : ∀ ns : List (Node κ),
    anchorList base ns = allWithFrontier ((allFrontier ns).map (Indent.anchor base)) ns
  | [] => rfl
  | n :: ns => by
    rw [anchorList, anchor_eq base n, anchorList_eq base ns, allFrontier, List.map_append,
      allWithFrontier_cons (List.length_map _)]

end

end Node

/-! ### Moving nodes -/

theorem extension?_append (parent rest : String) : extension? parent (parent ++ rest) = some rest := by
  rw [extension?, String.toList_append, Text.stripLead?_eq_some_iff.mpr rfl, Option.map_some,
    String.ofList_toList]

namespace Indent

theorem demoteAll_relative (parent : String) (rests : List String) :
    demoteAll parent (rests.map relative) = (rests.map relative, none) := by
  induction rests with
  | nil => rfl
  | cons rest rests ih => rw [List.map_cons, demoteAll, demote, ih]

theorem demoteAll_extending (parent : String) (rests : List String) :
    demoteAll parent (rests.map fun rest => absolute (parent ++ rest)) = (rests.map relative, none) := by
  induction rests with
  | nil => rfl
  | cons rest rests ih =>
    simp only [List.map_cons, demoteAll, demote, extension?_append, ih]

theorem anchor_relative (base : String) (rests : List String) :
    (rests.map relative).map (anchor base) = rests.map fun rest => absolute (base ++ rest) :=
  List.map_map

theorem relative_of_demote {i i' : Indent} (demoted : i.demote parent = (i', none)) :
    ∃ rest, i' = relative rest := by
  cases i with
  | relative rest => exact ⟨rest, (Prod.mk.inj demoted).1.symm⟩
  | absolute indent =>
    rw [demote] at demoted
    split at demoted
    · next rest _ => exact ⟨rest, (Prod.mk.inj demoted).1.symm⟩
    · cases demoted

/-- Indentations that are demoted without an error are all relative then. -/
theorem relative_of_demoteAll (fine : (demoteAll parent is).2 = none) :
    ∃ rests : List String, (demoteAll parent is).1 = rests.map relative := by
  induction is with
  | nil => exact ⟨[], rfl⟩
  | cons i is ih =>
    rw [demoteAll] at fine ⊢
    split at fine
    · cases fine
    · next here =>
      obtain ⟨rest, rfl⟩ := relative_of_demote here
      obtain ⟨rests, later⟩ := ih fine
      exact ⟨rest :: rests, congrArg (relative rest :: ·) later⟩

end Indent

namespace Node

section Placed

variable {rests : List String}

theorem demote_withRelative (same : rests.length = n.frontier.length) (parent : String) :
    (n.withFrontier (rests.map .relative)).demote parent =
      (n.withFrontier (rests.map .relative), none) := by
  have long : (rests.map Indent.relative).length = n.frontier.length := by rw [List.length_map, same]
  rw [demote_eq, frontier_withFrontier long, Indent.demoteAll_relative,
    withFrontier_withFrontier long long]

theorem demote_withExtending (same : rests.length = n.frontier.length) (parent : String) :
    (n.withFrontier (rests.map fun rest => .absolute (parent ++ rest))).demote parent =
      (n.withFrontier (rests.map .relative), none) := by
  have long : ∀ f : String → Indent, (rests.map f).length = n.frontier.length := fun _ => by
    rw [List.length_map, same]
  rw [demote_eq, frontier_withFrontier (long _), Indent.demoteAll_extending,
    withFrontier_withFrontier (long _) (long _)]

theorem anchor_withRelative (same : rests.length = n.frontier.length) (base : String) :
    (n.withFrontier (rests.map .relative)).anchor base =
      n.withFrontier (rests.map fun rest => .absolute (base ++ rest)) := by
  have long : ∀ f : String → Indent, (rests.map f).length = n.frontier.length := fun _ => by
    rw [List.length_map, same]
  rw [anchor_eq, frontier_withFrontier (long _), Indent.anchor_relative,
    withFrontier_withFrontier (long _) (long _)]

end Placed

/-- Outermost indentations of one form are the images of some texts. -/
theorem frontier_eq_map {form : String → Indent} (all : ∀ i ∈ n.frontier, ∃ rest, i = form rest) :
    ∃ rests : List String, rests.length = n.frontier.length ∧ n = n.withFrontier (rests.map form) := by
  obtain ⟨rests, same⟩ : n.frontier ∈ Set.range (List.map form) := by
    rw [Set.range_list_map]
    exact fun i member => (all i member).imp fun _ => Eq.symm
  refine ⟨rests, ?_, ?_⟩
  · rw [← same, List.length_map]
  · rw [same, withFrontier_frontier]

/-- Anchoring and demoting undo each other. A node whose outermost indentations all extend one moves
to another as a whole, and once it has been demoted below some parent, no further one changes it. -/
theorem demote_anchor (n : Node κ) (base : String) :
    ((∀ i ∈ n.frontier, ∃ rest, i = .relative rest) → (n.anchor base).demote base = (n, none)) ∧
      ((∀ i ∈ n.frontier, ∃ rest, i = .absolute (base ++ rest)) →
        ∃ (m : Node κ) (rests : List String), n.demote base = (m, none) ∧ m.anchor base = n ∧
          n.frontier = rests.map (fun rest => .absolute (base ++ rest)) ∧
          ∀ other, m.anchor other =
            n.withFrontier (rests.map fun rest => .absolute (other ++ rest))) ∧
      ∀ parent m, n.demote parent = (m, none) → ∀ other, m.demote other = (m, none) := by
  refine ⟨fun relative => ?_, fun extending => ?_, fun parent m demoted other => ?_⟩
  · obtain ⟨rests, long, same⟩ := frontier_eq_map relative
    calc (n.anchor base).demote base
      _ = (n.withFrontier (rests.map fun rest => .absolute (base ++ rest))).demote base := by
        conv => lhs; rw [same, anchor_withRelative long]
      _ = (n.withFrontier (rests.map .relative), none) := demote_withExtending long base
      _ = (n, none) := by rw [← same]
  · obtain ⟨rests, long, same⟩ := frontier_eq_map extending
    refine ⟨n.withFrontier (rests.map .relative), rests, ?_, ?_, ?_, anchor_withRelative long⟩
    · conv => lhs; rw [same, demote_withExtending long]
    · rw [anchor_withRelative long, ← same]
    · conv => lhs; rw [same, frontier_withFrontier (by rw [List.length_map, long])]
  · rw [demote_eq] at demoted
    obtain ⟨rfl, fine⟩ := Prod.mk.inj demoted
    obtain ⟨rests, made⟩ := Indent.relative_of_demoteAll fine
    have long := congrArg List.length made
    rw [Indent.length_demoteAll, List.length_map] at long
    rw [made, demote_withRelative long.symm]

theorem demote_anchor_nested :
    let nested (i j : Indent) : Node Empty :=
      .element {} none [.text "a", .root [.element {} (some (.absolute "\n")) []],
        .element {} (some i) [.element {} (some (.relative " ")) []],
        .element {} none [.element {} (some j) []]]
    let absolute := nested (.absolute "\n  b") (.absolute "\n  ")
    let relative := nested (.relative "b") (.relative "")
    absolute.demote "\n  " = (relative, none) ∧ relative.anchor "\n  " = absolute ∧
      relative.anchor "\n\t" = nested (.absolute "\n\tb") (.absolute "\n\t") ∧
      (relative.anchor "\n").demote "\n" = (relative, none) ∧
      relative.demote "\n\t" = (relative, none) := by
  intro nested absolute relative
  have outermost : ∀ i ∈ absolute.frontier, ∃ rest, i = .absolute ("\n  " ++ rest) := by
    rintro i (_ | ⟨_, _ | ⟨_, ⟨⟩⟩⟩)
    · exact ⟨"b", rfl⟩
    · exact ⟨"", rfl⟩
  have below : ∀ i ∈ relative.frontier, ∃ rest, i = .relative rest := by
    rintro i (_ | ⟨_, _ | ⟨_, ⟨⟩⟩⟩)
    · exact ⟨"b", rfl⟩
    · exact ⟨"", rfl⟩
  obtain ⟨m, -, demoted, back, -⟩ := (demote_anchor absolute "\n  ").2.1 outermost
  have same : absolute.demote "\n  " = (relative, none) := by cbv
  obtain rfl : relative = m := (Prod.mk.inj (same.symm.trans demoted)).1
  refine ⟨same, back, ?_, (demote_anchor relative "\n").1 below,
    (demote_anchor absolute "\n").2.2 "\n  " relative same "\n\t"⟩
  cbv

end Node

end MarkupTemplate

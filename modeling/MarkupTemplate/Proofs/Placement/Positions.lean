import Mathlib.Data.List.TakeDrop
import MarkupTemplate.Proofs.Placement.Origins
import MarkupTemplate.Script.Call

/-!
# Positions of elements

Nodes are made with indentations measured from the margin, and every parent that they get takes its
own indentation away again. Whatever parent that is, the indentations from the root down to an element
add up to what its origin says.
-/

namespace MarkupTemplate

variable {κ : Type} {origins later : List Origin} {ns ms : List (Node κ)} {n : Node κ}

/-- The indentation that blocks inside some layouts start at. -/
def margin (layouts : List String) : String := "\n" ++ String.join layouts

/-- The place of a block inside some layouts, if it starts a line of its own. -/
def Layout.place (layouts : List String) (layout : Layout) : Option String :=
  if layout.outline then some (margin (layout.within layouts)) else none

theorem append_of_extension? {parent indent rest : String}
    (extended : extension? parent indent = some rest) : parent ++ rest = indent := by
  obtain ⟨added, stripped, rfl⟩ := Option.map_eq_some_iff.mp extended
  have same := Text.stripLead?_eq_some_iff.mp stripped
  rw [← String.toList_inj, String.toList_append, String.toList_ofList, ← same]

theorem demoteAll_eq_ok {parent : String} :
    demoteAll parent ns = .ok ms ↔ Node.demoteList parent ns = (ms, none) := by
  unfold demoteAll
  rcases Node.demoteList parent ns with ⟨_, _ | _⟩ <;> simp

/-- Demoted below whatever parent, the elements of a node are those of some origins. -/
def Node.From (origins : List Origin) (n : Node κ) : Prop :=
  ∀ above n', n.demote ("\n" ++ above) = (n', none) →
    List.Forall₂ Origin.Makes origins (n'.positions (some above))

/-- The elements of some nodes are those of some origins. -/
inductive Node.AllFrom : List Origin → List (Node κ) → Prop where
  | nil : Node.AllFrom [] []
  | cons {here later : List Origin} {n : Node κ} {ns : List (Node κ)} :
    n.From here → Node.AllFrom later ns → Node.AllFrom (here ++ later) (n :: ns)

namespace Node

theorem From.text (s : String) : (Node.text s : Node κ).From [] := by
  rintro above _ ⟨⟩
  exact .nil

namespace AllFrom

theorem single (h : n.From origins) : AllFrom origins [n] := by
  simpa using AllFrom.cons h .nil

theorem append (h : AllFrom origins ns) (h' : AllFrom later ms) :
    AllFrom (origins ++ later) (ns ++ ms) := by
  induction h with
  | nil => exact h'
  | cons here _ ih =>
    rw [List.append_assoc]
    exact .cons here ih

theorem split (h : AllFrom origins (ns ++ ms)) :
    ∃ first second, origins = first ++ second ∧ AllFrom first ns ∧ AllFrom second ms := by
  induction ns generalizing origins with
  | nil => exact ⟨[], origins, rfl, .nil, h⟩
  | cons n ns ih =>
    cases h with
    | @cons here _ _ _ made rest =>
      obtain ⟨first, second, rfl, before, after⟩ := ih rest
      exact ⟨here ++ first, second, (List.append_assoc ..).symm, .cons made before, after⟩

theorem demote (h : AllFrom origins ns) {above : String}
    (demoted : demoteList ("\n" ++ above) ns = (ms, none)) :
    List.Forall₂ Origin.Makes origins (allPositions (some above) ms) := by
  induction h generalizing ms with
  | nil =>
    cases demoted
    exact .nil
  | cons here _ ih =>
    unfold demoteList at demoted
    split at demoted
    · cases demoted
    · next first =>
      simp only [Prod.mk.injEq] at demoted
      obtain ⟨rfl, fine⟩ := demoted
      exact List.rel_append (here above _ first) (ih (Prod.ext rfl fine))

end AllFrom

/-! ### Elements -/

theorem build_of_ofHead {head : Head (Value κ)} {indent : Option Indent}
    (made : Node.ofHead head indent ns = .ok n) : ofHead.build head indent ns = .ok n := by
  unfold Node.ofHead at made
  split at made
  · split at made
    · cases made
    · exact made
  · exact made

/-- An element with a place has its children demoted below that. -/
theorem build_absolute {head : Head (Value κ)} {indent : String}
    (built : ofHead.build head (some (.absolute indent)) ns = .ok n) :
    ∃ body, demoteList indent ns = (body, none) ∧
      n = .element head (some (.absolute indent)) body := by
  simp only [ofHead.build] at built
  split at built
  · next placed =>
    obtain rfl := Except.ok.inj built
    simp only [Node.place] at placed
    split at placed
    · split at placed
      · next body fine => exact ⟨body, fine, (Prod.mk.inj placed).1.symm⟩
      · cases placed
    · cases placed
  · cases built

/-- An element of an origin over a body of origins, at the place of its line if it has one. -/
theorem From.ofHead {head : Head (Value κ)} (line : Option (List String)) {origin : Origin}
    (h : AllFrom origins ns)
    (made : Node.ofHead head (line.map fun layouts => .absolute (margin layouts)) ns = .ok n)
    (makes : ∀ position, (∀ layouts, line = some layouts → position = some (String.join layouts)) →
      origin.Makes (head, position)) : n.From (origin :: origins) := by
  have built := build_of_ofHead made
  intro above n' demoted
  cases line with
  | none =>
    obtain rfl := Except.ok.inj built
    simp only [Node.demote] at demoted
    obtain ⟨rfl, fine⟩ := Prod.mk.inj demoted
    refine .cons (makes _ ?_) (h.demote (Prod.ext rfl fine))
    rintro _ ⟨⟩
  | some layouts =>
    obtain ⟨body, fine, rfl⟩ := build_absolute built
    simp only [Node.demote] at demoted
    split at demoted
    · next rest extended =>
      obtain ⟨rfl, -⟩ := Prod.mk.inj demoted
      -- The indentation of the parent and what is added to it start at the same newline.
      have whole : above ++ rest = String.join layouts := by
        have whole := append_of_extension? extended
        rw [margin, String.append_assoc] at whole
        exact (String.append_right_inj _).mp whole
      refine .cons (makes _ ?_) ?_
      · rintro _ ⟨⟩
        exact congrArg some whole
      · simp only [Option.map_some, whole]
        exact h.demote fine
    · cases demoted

/-- Nodes that are put on a line of their own: those that are inline at the start go into an element
at the place of the line. -/
theorem AllFrom.startLine (h : AllFrom origins ns) {layouts : List String} {layout : Layout}
    (made : startLine (layout.place layouts) ns = .ok ms) :
    AllFrom (startOrigins layout.outline (layout.within layouts) ns ++ origins) ms := by
  unfold Layout.place at made
  cases outline : layout.outline with
  | false =>
    rw [outline] at made
    obtain rfl := Except.ok.inj made
    cases ns <;> exact h
  | true =>
    simp only [outline, if_true, MarkupTemplate.startLine, List.span_eq_takeWhile_dropWhile] at made
    cases ns with
    | nil =>
      obtain rfl := Except.ok.inj made
      exact h
    | cons n ns =>
      cases outlined : n.isOutline with
      | true =>
        simp only [List.takeWhile_cons, List.dropWhile_cons, outlined] at made
        obtain rfl := Except.ok.inj made
        simpa [startOrigins, outlined] using h
      | false =>
        rw [← List.takeWhile_append_dropWhile (p := fun n => !n.isOutline) (l := n :: ns)] at h
        obtain ⟨first, second, rfl, inline, rest⟩ := h.split
        simp only [List.takeWhile_cons, List.dropWhile_cons, outlined] at made inline rest
        obtain ⟨group, grouped, made⟩ := bind_eq_ok.mp made
        obtain rfl := Except.ok.inj made
        have whole : group.From (.start (layout.within layouts) :: first) :=
          .ofHead (some _) inline grouped fun _ at_ => ⟨rfl, rfl, at_ _ rfl⟩
        simpa [startOrigins, outlined] using AllFrom.cons whole rest

/-! ### Embedded nodes -/

mutual

theorem positions_heads (above : Option String) :
    ∀ n : Node κ, (n.positions above).map (·.1) = n.heads
  | .text _ => rfl
  | .root body => allPositions_heads above body
  | .element head _ body => congrArg (head :: ·) (allPositions_heads _ body)

theorem allPositions_heads (above : Option String) :
    ∀ ns : List (Node κ), (allPositions above ns).map (·.1) = allHeads ns
  | [] => rfl
  | n :: ns => by
    simp only [allPositions, allHeads, List.map_append, positions_heads above n,
      allPositions_heads above ns]

end

mutual

theorem heads_demote (parent : String) : ∀ n : Node κ, (n.demote parent).1.heads = n.heads
  | .text _ | .root _ | .element _ (some (.relative _)) _ => rfl
  | .element head none body => congrArg (head :: ·) (allHeads_demoteList parent body)
  | .element head (some (.absolute indent)) body => by
    rw [demote]
    split <;> rfl

theorem allHeads_demoteList (parent : String) :
    ∀ ns : List (Node κ), allHeads (demoteList parent ns).1 = allHeads ns
  | [] => rfl
  | n :: ns => by
    have first := heads_demote parent n
    unfold demoteList
    split
    · next failed =>
      rw [failed] at first
      rw [allHeads, allHeads, first]
    · next fine =>
      rw [fine] at first
      rw [allHeads, allHeads, first, allHeads_demoteList parent ns]

end

/-- Nothing is told of embedded elements but that they are there. -/
theorem From.embedded (n : Node κ) : n.From (n.heads.map fun _ => .embedded) := by
  intro above n' demoted
  have heads := heads_demote ("\n" ++ above) n
  rw [demoted, ← positions_heads (some above)] at heads
  refine List.forall₂_iff_zip.mpr ⟨?_, fun member => ?_⟩
  · rw [List.length_map, ← heads, List.length_map]
  · obtain ⟨head, -, rfl⟩ := List.mem_map.mp (List.of_mem_zip member).1
    trivial

theorem AllFrom.embedded (ns : List (Node κ)) :
    AllFrom ((allHeads ns).map fun _ => .embedded) ns := by
  induction ns with
  | nil => exact .nil
  | cons n ns ih =>
    rw [allHeads, List.map_append]
    exact .cons (.embedded n) ih

end Node

end MarkupTemplate

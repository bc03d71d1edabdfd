import Mathlib.Data.List.TakeDrop
import MarkupTemplate.Proofs.Placement.Settled
import MarkupTemplate.Script.Call

/-!
# Making nodes

Nodes that are made for a block stand in it. Making them fails only for a body that a tag does not
take: no indentation is refused.
-/

namespace MarkupTemplate

variable {α β κ : Type}

/-- A computation that never finds an indentation malformed. -/
abbrev Upright (x : Except Error α) : Prop := FailsIn (· ≠ .malformedIndent) x

/-- A computation with results of some kind, which never finds an indentation malformed. -/
structure Makes (p : α → Prop) (x : Except Error α) : Prop where
  result : ∀ a, x = .ok a → p a
  fails : Upright x

namespace Makes

variable {p : α → Prop} {q : β → Prop}

theorem ok {a : α} (h : p a) : Makes p (.ok a) :=
  ⟨fun _ same => Except.ok.inj same ▸ h, .ok a⟩

theorem fail {c : Cause} (h : c.category ≠ .malformedIndent) : Makes p (fail c) :=
  ⟨nofun, .fail h⟩

theorem bind {x : Except Error α} {k : α → Except Error β} (h : Makes p x)
    (next : ∀ a, p a → Makes q (k a)) : Makes q (x >>= k) := by
  refine ⟨fun b same => ?_, .bind h.fails fun a found => (next a (h.result a found)).fails⟩
  obtain ⟨a, found, same⟩ := bind_eq_ok.mp same
  exact (next a (h.result a found)).result b same

theorem locate {x : Except Error α} (h : Makes p x) (source : String) (span : Span) :
    Makes p (locate source span x) :=
  ⟨fun a same => h.result a (locate_eq_ok.mp same), h.fails.locate source span⟩

end Makes

variable {outer base : String} {ns ns' : List (Node κ)}

theorem demoteAll_settled {parent : String} (standing : Node.AllStandIn outer ns)
    (demoted : demoteAll parent ns = .ok ns') : Settled ns' := by
  unfold demoteAll at demoted
  split at demoted
  · next here =>
    obtain rfl := Except.ok.inj demoted
    exact standing.demote_settled here
  · cases demoted

theorem demoteAll_makes (standing : Node.AllStandIn outer ns) : Makes Settled (demoteAll outer ns) := by
  refine ⟨fun ns' => demoteAll_settled standing, fun e failed => ?_⟩
  have fine := standing.demote_fine
  unfold demoteAll at failed
  split at failed
  · cases failed
  · next here =>
    rw [here] at fine
    cases fine

namespace Node

/-- A place in a block: in the line, or at its indentation. -/
def IsPlace (base : String) (place : Option String) : Prop := ∀ i, place = some i → i = base

/-- Without a place, or at the place of the block that its body stands in, an element is made. -/
theorem build_makes {head : Head (Value κ)} {body : List (Node κ)} (place : Option String)
    (newline : base.toList.head? = some '\n') (at_ : IsPlace base place)
    (standing : AllStandIn base body) (admits : head.Admits body) :
    Makes (StandsIn base) (ofHead.build head (place.map .absolute) body) := by
  cases place with
  | none => exact .ok ⟨admits, standing⟩
  | some i =>
    obtain rfl := at_ i rfl
    have demoted : demoteList i body = ((demoteList i body).1, none) :=
      Prod.ext rfl standing.demote_fine
    have placed : Node.place i (.element head none body) =
        (.element head (some (.absolute i)) (demoteList i body).1, none) := by
      rw [place, newline, demoted]
      rfl
    simp only [Option.map_some, ofHead.build, placed]
    refine .ok ⟨fun tag found void => ?_, List.prefix_rfl, standing.demote_settled demoted⟩
    rw [admits tag found void]
    rfl

theorem ofHead_makes (head : Head (Value κ)) {body : List (Node κ)} (place : Option String)
    (newline : base.toList.head? = some '\n') (at_ : IsPlace base place)
    (standing : AllStandIn base body) :
    Makes (StandsIn base) (ofHead head (place.map .absolute) body) := by
  unfold ofHead
  split
  · next tag found =>
    split
    · exact .fail nofun
    · next refused =>
      refine build_makes place newline at_ standing fun tag' found' void => ?_
      obtain rfl := Option.some.inj (found.symm.trans found')
      simpa [void] using refused
  · next none => exact build_makes place newline at_ standing fun tag found => by simp [none] at found

theorem group_makes {body : List (Node κ)} (newline : base.toList.head? = some '\n')
    (standing : AllStandIn base body) :
    Makes (StandsIn base) (group true (some (.absolute base)) body) :=
  ofHead_makes _ (some base) newline (fun _ same => (Option.some.inj same).symm) standing

end Node

theorem startLine_makes {place : Option String} (newline : base.toList.head? = some '\n')
    (at_ : Node.IsPlace base place) (standing : Node.AllStandIn base ns) :
    Makes (Node.AllStandIn base) (startLine place ns) := by
  unfold startLine
  cases place with
  | none => exact .ok standing
  | some i =>
    obtain rfl := at_ i rfl
    -- the nodes before the first that starts a line are grouped, the others stay as they are
    have parts : Node.AllStandIn i (ns.span (!·.isOutline)).1 ∧
        Node.AllStandIn i (ns.span (!·.isOutline)).2 := by
      rw [← Node.allStandIn_append, List.span_eq_takeWhile_dropWhile,
        List.takeWhile_append_dropWhile]
      exact standing
    dsimp only
    split
    · next split =>
      rw [split] at parts
      exact .ok parts.2
    · next split =>
      rw [split] at parts
      exact .bind (Node.group_makes newline parts.1) fun group stands => .ok ⟨stands, parts.2⟩

end MarkupTemplate

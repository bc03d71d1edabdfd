import MarkupTemplate.Proofs.Placement.Evaluation
import MarkupTemplate.Proofs.Placement.Stages
import MarkupTemplate.Proofs.Placement.State

/-!
# Placing in scopes

What opens a scope or a block with an indentation of its own ends where it started, and the nodes
that it makes stand in the block around it.
-/

namespace MarkupTemplate

namespace Translate

/-! ### What comes from outside -/

/-- No value that scripts get from outside holds nodes. -/
structure Env.NodeFree (env : Env) : Prop where
  context : ∀ entry ∈ env.context, entry.2.NodeFree
  modules : ∀ entry ∈ env.modules.modules, ∀ symbol ∈ entry.2, symbol.2.NodeFree

namespace Env.NodeFree

variable {env : Env} (free : env.NodeFree) {path : String} {symbols : Dict (Value Empty)}

include free

theorem symbolsOf (found : env.modules.symbolsOf path = .ok symbols) :
    ∀ symbol ∈ symbols, symbol.2.NodeFree := by
  unfold Modules.symbolsOf at found
  split at found
  · next there =>
    obtain rfl := Except.ok.inj found
    exact free.modules _ (Dict.mem_of_get? there)
  · cases found

theorem publicSymbols (found : env.modules.publicSymbols path = .ok symbols) :
    ∀ symbol ∈ symbols, symbol.2.NodeFree := by
  obtain ⟨all, there, found⟩ := bind_eq_ok.mp found
  obtain rfl := Except.ok.inj found
  exact fun symbol member => free.symbolsOf there symbol (List.mem_filter.mp member).1

theorem symbol {name : String} {v : Value Empty} (found : env.modules.symbol name path = .ok v) :
    v.NodeFree := by
  obtain ⟨symbols, there, found⟩ := bind_eq_ok.mp found
  split at found
  · next here =>
    obtain rfl := Except.ok.inj found
    exact free.symbolsOf there _ (Dict.mem_of_get? here)
  · cases found

end Env.NodeFree

/-! ### Placed outputs -/

variable {fits : Layout → Prop} {indent base : String}

/-- A translation ends at an indentation, with clean nodes that stand in a block. -/
structure Placed (fits : Layout → Prop) (indent base : String)
    (o : Output (State Closure) Closure) : Prop where
  state : o.1.Keeps (Value.Clean fits) indent
  nodes : Node.AllStandIn base o.2
  clean : Node.Clean fits o.2

theorem Placed.none {s : State Closure} (h : s.Keeps (Value.Clean fits) indent) :
    Placed fits indent base (s, []) :=
  ⟨h, trivial, .nil⟩

theorem Placed.append {o : Output (State Closure) Closure} {s : State Closure}
    {ns : List (Node Closure)} (h : Placed fits indent base o)
    (h' : Placed fits indent base (s, ns)) : Placed fits indent base (s, o.2 ++ ns) :=
  ⟨h'.state, Node.allStandIn_append.mpr ⟨h.nodes, h'.nodes⟩, h.clean.append h'.clean⟩

/-- How a state is set up for a block with a layout: at an indentation that goes at least as far as
the one outside, which is where nodes on a line of their own are placed. -/
structure Opened (fits : Layout → Prop) (indent base : String) (s : State Closure)
    (place : Option String) : Prop where
  state : s.Keeps (Value.Clean fits) base
  deeper : indent.toList <+: base.toList
  isPlace : Node.IsPlace base place
  measured : place.getD (Scoping.indent s) = base

variable {s s' : State Closure} {layout : Layout} {place : Option String}

theorem opened_eq_ok {Q : Value Closure → Prop} (h : s.Keeps Q indent) :
    opened s layout = .ok (s', place) ↔
      layout.outline = false ∧ s' = s ∧ place = none ∨
      layout.outline = true ∧ layout.indent.toList.find? (!Text.isIndentChar ·) = none ∧
        s' = s.atIndent (indent ++ layout.indent) ∧ place = some (indent ++ layout.indent) := by
  unfold opened
  cases layout.outline with
  | false => simp [eq_comm]
  | true =>
    cases layout.indent.toList.find? (!Text.isIndentChar ·) with
    | some c => simp [fail]
    | none =>
      rw [h.indentBy_all]
      have measured : Scoping.indent (s.atIndent (indent ++ layout.indent)) =
        indent ++ layout.indent := rfl
      simp [measured, eq_comm]

theorem Opened.inline (h : s.Keeps (Value.Clean fits) indent) : Opened fits indent indent s none :=
  ⟨h, List.prefix_rfl, nofun, h.measured⟩

theorem Opened.outline (h : s.Keeps (Value.Clean fits) indent) (added : String) :
    Opened fits indent (indent ++ added) (s.atIndent (indent ++ added)) (some (indent ++ added)) := by
  refine ⟨h.atIndent ?_, ?_, fun i same => (Option.some.inj same).symm, rfl⟩
  · rw [String.toList_append, List.head?_append, h.newline, Option.some_or]
  · rw [String.toList_append]
    exact List.prefix_append _ _

theorem State.Keeps.opened (h : s.Keeps (Value.Clean fits) indent)
    (opens : opened s layout = .ok (s', place)) : ∃ base, Opened fits indent base s' place := by
  rcases (opened_eq_ok h).mp opens with ⟨-, rfl, rfl⟩ | ⟨-, -, rfl, rfl⟩
  · exact ⟨indent, .inline h⟩
  · exact ⟨indent ++ layout.indent, .outline h layout.indent⟩

variable {fine : ErrorCategory → Prop} {allowed : Stop → Prop} (tolerant : Tolerates fine allowed)

include tolerant

theorem confined_placed (h : s.Keeps (Value.Clean fits) indent)
    {run : State Closure → Run (Output (State Closure) Closure)}
    (inner : Ends allowed (Placed fits indent base) (run s)) :
    Ends allowed (Placed fits indent base) (confined s run) := by
  unfold confined
  refine Ends.bind inner fun ⟨s', nodes⟩ ⟨kept, standing, clean⟩ => ?_
  exact Ends.bind (h.reset_ends tolerant kept) fun s'' back => ⟨back, standing, clean⟩

omit tolerant in
/-- Nodes that are made for a block stand in the block around it, and the indentation is as it was. -/
theorem indented_placed (h : s.Keeps (Value.Clean fits) indent)
    (refuses : ∀ e, opened s layout = .error e → allowed (.error e))
    {run : State Closure → Option String → Run (Output (State Closure) Closure)}
    (inner : ∀ s' place base, opened s layout = .ok (s', place) →
      Opened fits indent base s' place → Ends allowed (Placed fits base base) (run s' place)) :
    Ends allowed (Placed fits indent indent) (indented s layout run) := by
  unfold indented
  cases outlined : layout.outline with
  | false => exact inner s none indent ((opened_eq_ok h).mpr (.inl ⟨outlined, rfl, rfl⟩)) (.inline h)
  | true =>
    cases blank : layout.indent.toList.find? (!Text.isIndentChar ·) with
    | some c =>
      refine refuses _ ?_
      simp only [opened, outlined, blank]
      rfl
    | none =>
      simp only [h.indentBy_all]
      have deep := Opened.outline h layout.indent
      have opens := (opened_eq_ok h).mpr (.inr ⟨outlined, blank, rfl, rfl⟩)
      refine Ends.bind (inner _ _ _ opens deep) fun ⟨s', nodes⟩ ⟨kept, standing, clean⟩ => ?_
      simp only [kept.dedentBy_all h.nonempty, ok_bind]
      exact ⟨kept.atIndent h.newline, standing.widen deep.deeper, clean⟩

end Translate

end MarkupTemplate

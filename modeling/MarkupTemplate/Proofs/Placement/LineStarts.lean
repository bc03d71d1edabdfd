import Mathlib.Data.List.TakeWhile
import MarkupTemplate.Proofs.Placement.Retrying
import MarkupTemplate.Proofs.Placement.State

/-!
# Blocks on lines of their own

A block with a line of its own either makes one outline node or gives the nodes that a value or a call
yields, with those that would go on in the line before put into an outline element. So whatever it gives
starts with an outline node, and its text with a newline.
-/

namespace MarkupTemplate

variable {κ : Type} {parent place : String} {yielded ns : List (Node κ)} {n : Node κ}

/-! ### Outline nodes -/

theorem Node.isOutline_demote (parent : String) (n : Node κ) :
    (n.demote parent).1.isOutline = n.isOutline := by
  cases n with
  | text s => rfl
  | root body => rfl
  | element head indent body =>
    rcases indent with _ | indent | rest
    · rfl
    · rw [Node.demote]
      cases extension? parent indent <;> rfl
    · rfl

/-- The text of an outline element goes on a new line. -/
theorem layOut_outline {indent : Option Indent} {text laid : String}
    (done : layOut true indent text = .ok laid) : laid.toList.head? = some '\n' := by
  have broken : ("\n" ++ text).toList = '\n' :: text.toList := String.toList_append
  rcases indent with _ | indent | rest
  · obtain rfl := Except.ok.inj done
    rw [if_pos rfl, broken]
    rfl
  · cases done
  · obtain rfl := Except.ok.inj done
    rw [if_pos rfl, broken, String.toList_ofList, Text.indentLines, Text.indentFrom, if_pos rfl]
    rfl

theorem Node.render_outline [Host] [Shows κ] {text : String} (outline : n.isOutline = true)
    (rendered : n.render = .ok text) : text.toList.head? = some '\n' := by
  cases n with
  | text s => cases outline
  | root body => cases outline
  | element head indent body =>
    obtain ⟨written, -, laid⟩ := bind_eq_ok.mp rendered
    have outline : head.outline = true := outline
    rw [outline] at laid
    exact layOut_outline laid

/-- Nodes that start with an outline one are written on a new line wherever they are put. -/
theorem Node.renderList_outline [Host] [Shows κ] {text : String} (nonempty : ns ≠ [])
    (starts : ∀ n ∈ ns.head?, n.isOutline = true) {placed : List (Node κ)}
    (demoted : demoteAll parent ns = .ok placed) (rendered : renderList placed = .ok text) :
    text.toList.head? = some '\n' := by
  cases ns with
  | nil => exact absurd rfl nonempty
  | cons n ns =>
    have kept := n.isOutline_demote parent
    rw [starts n rfl] at kept
    have demoted := demoteAll_eq_ok.mp demoted
    rw [demoteList] at demoted
    split at demoted
    · cases demoted
    · next m here =>
      obtain rfl := (Prod.mk.inj demoted).1
      obtain ⟨first, written, rendered⟩ := bind_eq_ok.mp rendered
      obtain ⟨rest, -, rendered⟩ := bind_eq_ok.mp rendered
      obtain rfl := Except.ok.inj rendered
      rw [here] at kept
      rw [String.toList_append, List.head?_append, render_outline kept written]
      rfl

/-! ### Nodes on a line -/

/-- How nodes are put on a line of their own. If they do not start with an outline node, those before
the first one are put into an outline element without a tag, below which they are demoted. -/
inductive OnLine (place : String) : List (Node κ) → List (Node κ) → Prop
  | started {ns : List (Node κ)} (starts : ∀ n ∈ ns.head?, n.isOutline = true) : OnLine place ns ns
  | grouped {inline rest : List (Node κ)} {is : List Indent} (nonempty : inline ≠ [])
      (continues : ∀ n ∈ inline, n.isOutline = false)
      (starts : ∀ n ∈ rest.head?, n.isOutline = true)
      (demoted : List.Forall₂ (Indent.Demoted place) (Node.allFrontier inline) is) :
      OnLine place (inline ++ rest)
        (.element { outline := true } (some (.absolute place)) (Node.allWithFrontier is inline) :: rest)

namespace OnLine

theorem head_outline (h : OnLine place yielded ns) : ∀ n ∈ ns.head?, n.isOutline = true := by
  cases h with
  | started starts => exact starts
  | grouped =>
    intro n first
    obtain rfl := Option.some.inj first
    rfl

theorem eq_nil (h : OnLine place yielded []) : yielded = [] := by
  cases h
  rfl

end OnLine

theorem onLine_of_startLine (made : startLine (some place) yielded = .ok ns) :
    OnLine place yielded ns := by
  have continues : ∀ n ∈ yielded.takeWhile (!·.isOutline), n.isOutline = false := by
    intro n member
    simpa using List.mem_takeWhile_imp member
  have starts : ∀ n ∈ (yielded.dropWhile (!·.isOutline)).head?, n.isOutline = true := by
    intro n first
    rw [← List.find?_eq_head?_dropWhile_not] at first
    exact List.find?_some first
  rw [startLine, List.span_eq_takeWhile_dropWhile] at made
  rw [← List.takeWhile_append_dropWhile (p := fun n => !n.isOutline) (l := yielded)]
  generalize yielded.dropWhile (!·.isOutline) = rest at *
  cases inline : yielded.takeWhile (!·.isOutline) with
  | nil =>
    rw [inline] at made
    obtain rfl := Except.ok.inj made
    exact .started starts
  | cons n inline =>
    rw [inline] at made continues
    obtain ⟨group, grouped, made⟩ := bind_eq_ok.mp made
    obtain rfl := Except.ok.inj made
    obtain ⟨-, is, demoted, rfl⟩ := Node.group_eq_ok.mp grouped
    exact .grouped (List.cons_ne_nil _ _) continues starts demoted

/-! ### Blocks -/

namespace Translate

open Scoping

variable [Host] [Closing κ] {env : Env} {call : Caller (State κ) κ} {depth : Nat} {s s' : State κ}
  {layout : Layout} {b : Block} {nodes : List (Node κ)}

/-- A block that makes one node: a text, or a call of a tag from outside. -/
inductive MakesOne (env : Env) (s : State κ) : Block → Prop
  | text (parts : List Part) (layout : Layout) : MakesOne env s (.text parts layout)
  | tag {name : Ident} {tag : Tag} (calls : called env s name = .ok (.inl tag)) (args : List Arg)
      (body : List Block) (layout : Layout) : MakesOne env s (.call name args body layout)

/-- The nodes that a block at some place gets from elsewhere: those that the value of an embed holds,
with relative indentations measured from the place, or those that a called closure gives. -/
inductive Yields (env : Env) (call : Caller (State κ) κ) (depth : Nat) (s : State κ) (place : String) :
    Block → List (Node κ) → Prop
  | embed {e : Expr} {v : Value κ} {ns : List (Node κ)} (value : eval env s e = .ok v)
      (holds : v.flatten = .ok ns) (layout : Layout) :
      Yields env call depth s place (.embed e layout) (Node.anchorList place ns)
  | call {name : Ident} {args : List Arg} {body : List Block} {c : κ} {vs : List (Value κ)}
      {named : List (String × Value κ)} {s₁ s₂ : State κ} {inner nodes : List (Node κ)}
      (calls : called env s name = .ok (.inr c)) (passes : evalArgs env s args = .ok (vs, named))
      (within : confined (s.atIndent place) (fun s => blocks env call depth s body) = .ok (s₁, inner))
      (expands : call s₁ c ⟨vs, named, inner, place, name.span⟩ = .ok (s₂, nodes)) (layout : Layout) :
      Yields env call depth s place (.call name args body layout) nodes

/-- What a block with a line of its own gives. -/
theorem block_onLine (laidOut : b.layout? = some layout) (outline : layout.outline = true)
    (done : block env call depth s b = .ok (s', nodes)) :
    (MakesOne env s b ∧ ∃ n, nodes = [n] ∧ n.isOutline = true) ∨
      ∃ yielded, Yields env call depth s (s.stack.indent ++ layout.indent) b yielded ∧
        OnLine (s.stack.indent ++ layout.indent) yielded nodes := by
  have ran : ∀ {run : State κ → Option String → Run (Output (State κ) κ)} {o : Output (State κ) κ},
      indented s layout run = .ok o → ∃ s', run (s.atIndent (s.stack.indent ++ layout.indent))
        (some (s.stack.indent ++ layout.indent)) = .ok (s', o.2) := by
    intro run o done
    obtain ⟨s', ran⟩ := ran_of_indented done
    rw [State.openFor, State.placeFor, if_pos outline] at ran
    exact ⟨s', ran⟩
  cases b with
  | text parts layout =>
    obtain rfl := Option.some.inj laidOut
    rw [block] at done
    obtain ⟨s₁, done⟩ := ran done
    obtain ⟨written, -, done⟩ := bind_eq_ok.mp done
    obtain ⟨group, grouped, done⟩ := bind_eq_ok.mp done
    obtain ⟨-, rfl⟩ := Prod.mk.inj (Except.ok.inj done)
    obtain ⟨-, is, -, rfl⟩ := Node.group_eq_ok.mp (ofExcept_eq_ok.mp grouped)
    exact .inl ⟨.text _ _, _, rfl, rfl⟩
  | call name args body layout =>
    obtain rfl := Option.some.inj laidOut
    rw [block] at done
    obtain ⟨target, calls, done⟩ := bind_eq_ok.mp done
    obtain ⟨⟨vs, named⟩, passes, done⟩ := bind_eq_ok.mp done
    obtain ⟨s₁, done⟩ := ran done
    obtain ⟨⟨s₂, inner⟩, within, done⟩ := bind_eq_ok.mp done
    have calls := ofExcept_eq_ok.mp calls
    cases target with
    | inl tag =>
      obtain ⟨element, made, done⟩ := bind_eq_ok.mp done
      obtain ⟨-, rfl⟩ := Prod.mk.inj (Except.ok.inj done)
      obtain ⟨body, -, rfl⟩ := Node.build_absolute
        (Node.build_of_ofHead (locate_eq_ok.mp (ofExcept_eq_ok.mp made)))
      exact .inl ⟨.tag calls _ _ _, _, rfl, rfl⟩
    | inr c =>
      obtain ⟨⟨s₃, yielded⟩, expands, done⟩ := bind_eq_ok.mp done
      obtain ⟨ns, started, done⟩ := bind_eq_ok.mp done
      obtain ⟨-, rfl⟩ := Prod.mk.inj (Except.ok.inj done)
      exact .inr ⟨yielded, .call calls (ofExcept_eq_ok.mp passes) within expands _,
        onLine_of_startLine (ofExcept_eq_ok.mp started)⟩
  | embed e layout =>
    obtain rfl := Option.some.inj laidOut
    rw [block] at done
    obtain ⟨v, value, done⟩ := bind_eq_ok.mp done
    obtain ⟨ns, holds, done⟩ := bind_eq_ok.mp done
    obtain ⟨s₁, done⟩ := ran done
    obtain ⟨placed, started, done⟩ := bind_eq_ok.mp done
    obtain ⟨-, rfl⟩ := Prod.mk.inj (Except.ok.inj done)
    exact .inr ⟨_, .embed (ofExcept_eq_ok.mp value) (locate_eq_ok.mp (ofExcept_eq_ok.mp holds)) _,
      onLine_of_startLine (ofExcept_eq_ok.mp started)⟩
  | _ => cases laidOut

/-- A block with a line of its own gives no nodes, if a value or a call yields none, or nodes that start
on a new line wherever they are put. -/
theorem block_startsLine (laidOut : b.layout? = some layout) (outline : layout.outline = true)
    (done : block env call depth s b = .ok (s', nodes)) :
    let place := s.stack.indent ++ layout.indent
    ((MakesOne env s b ∧ ∃ n, nodes = [n] ∧ n.isOutline = true) ∨
      ∃ yielded, Yields env call depth s place b yielded ∧ OnLine place yielded nodes) ∧
    (nodes = [] → Yields env call depth s place b []) ∧
    (∀ n ∈ nodes.head?, n.isOutline = true) ∧
    ∀ parent placed text, demoteAll parent nodes = .ok placed → Node.renderList placed = .ok text →
      nodes = [] ∨ text.toList.head? = some '\n' := by
  have given := block_onLine laidOut outline done
  have starts : ∀ n ∈ nodes.head?, n.isOutline = true := by
    rcases given with ⟨-, n, rfl, outline⟩ | ⟨yielded, -, line⟩
    · intro n first
      obtain rfl := Option.some.inj first
      exact outline
    · exact line.head_outline
  refine ⟨given, ?_, starts, fun parent placed text demoted rendered => ?_⟩
  · rintro rfl
    rcases given with ⟨-, n, same, -⟩ | ⟨yielded, yields, line⟩
    · cases same
    · rwa [line.eq_nil] at yields
  · exact or_iff_not_imp_left.mpr fun nonempty =>
      Node.renderList_outline nonempty starts demoted rendered

/-- A definition that starts in the line, goes on with a line of its own and ends in that. -/
def linesBetween : State Closure :=
  define 1 .start ⟨⟨"f", {}⟩, [], none, none⟩
    [.text [.raw "a"] {}, .text [.raw "b"] ⟨true, " "⟩, .text [.raw "c"] {}]

omit [Host] in
theorem block_startsLine_linesBetween :
    letI := Host.bare
    let env : Env := ⟨"", .ofRegistry [], .plain, []⟩
    let b : Block := .call ⟨"f", {}⟩ [] [] ⟨true, "\t"⟩
    let nodes : List (Node Closure) :=
      [.element { outline := true } (some (.absolute "\n\t")) [.text "a"],
        .element { outline := true } (some (.absolute "\n\t ")) [.text "b"], .text "c"]
    b.layout? = some ⟨true, "\t"⟩ ∧
      (∃ s', block env (expand env 1) 1 linesBetween b = .ok (s', nodes)) ∧
      (∃ yielded, Yields env (expand env 1) 1 linesBetween "\n\t" b yielded ∧
        OnLine "\n\t" yielded nodes) ∧
      ∃ placed text, demoteAll "\n" nodes = .ok placed ∧ Node.renderList placed = .ok text ∧
        text = "\n\ta\n\t bc" ∧ text.toList.head? = some '\n' := by
  let := Host.bare
  intro env b nodes
  have calls : called env linesBetween ⟨"f", {}⟩ = .ok (.inr _) :=
    State.InRange.start.called_define rfl
  have given : Prod.snd <$> block env (expand env 1) 1 linesBetween b = .ok nodes := by
    rw [block, calls]
    rfl
  obtain ⟨⟨s', _⟩, done, rfl⟩ := map_eq_ok.mp given
  have laidOut : b.layout? = some ⟨true, "\t"⟩ := rfl
  obtain ⟨gives, -, -, starts⟩ := block_startsLine laidOut rfl done
  have rendered : (demoteAll "\n" nodes >>= Node.renderList) = .ok "\n\ta\n\t bc" := rfl
  obtain ⟨placed, demoted, rendered⟩ := bind_eq_ok.mp rendered
  refine ⟨laidOut, ⟨s', done⟩, gives.resolve_left ?_, placed, _, demoted, rendered, rfl, ?_⟩
  · rintro ⟨-, n, same, -⟩
    exact List.cons_ne_nil _ _ (List.cons.inj same).2
  · exact (starts _ _ _ demoted rendered).resolve_left (List.cons_ne_nil _ _)

end Translate

end MarkupTemplate

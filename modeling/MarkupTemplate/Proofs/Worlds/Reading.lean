import MarkupTemplate.Proofs.Declared.Sites
import MarkupTemplate.Proofs.Held
import MarkupTemplate.Proofs.Lexical.Ends
import MarkupTemplate.Proofs.Resolved.Reads
import MarkupTemplate.Proofs.Worlds.Uniform

/-!
# Lexical translations in several worlds

What a script is translated with, and the state that it is translated in, may differ from world to
world. If the states of all worlds are read off joint ones, then so is what each construct makes of them
and of blocks inside that do likewise.
-/

namespace MarkupTemplate

open Resolve (partExprs argExprs defaultExprs)

/-! ### Expressions -/

theorem Expr.mem_allReferences {r : Reference} {es : List Expr} :
    r ∈ Expr.allReferences es ↔ ∃ e ∈ es, r ∈ e.references := by
  induction es with
  | nil => simp [allReferences]
  | cons e es ih => simp [allReferences, ih]

section Eval

variable {κ : Type} [Host] [Shows κ] {source : String} {look look' : String → Option (Value κ)}

mutual

/-- Evaluation looks at what an expression refers to, and at nothing else. -/
theorem Expr.eval_congr : ∀ e : Expr,
    (∀ symbol span, .symbol symbol span ∈ e.references → look' symbol = look symbol) →
      e.eval source look' = e.eval source look
  | .literal value _, _ => rfl
  | .var name path, h => by simp [eval, valueOf, h _ _ (List.mem_singleton_self _)]
  | .tagRef name, h => by simp [eval, valueOf, h _ _ (List.mem_singleton_self _)]
  | .list items, h => by simp only [eval, Expr.evalAll_congr items h]
  | .not e, h => by simp only [eval, Expr.eval_congr e h]
  | .concat items, h => by simp only [eval, Expr.evalText_congr items h]
  | .filter receiver name args, h => by
    have received := Expr.eval_congr receiver fun s span r => h s span (List.mem_append_left _ r)
    have named := h _ _ (List.mem_append_right _ (.head _))
    have taken := Expr.evalAll_congr args fun s span r =>
      h s span (List.mem_append_right _ (.tail _ r))
    simp only [eval, valueOf, named, received, taken]

theorem Expr.evalAll_congr : ∀ es : List Expr,
    (∀ symbol span, .symbol symbol span ∈ Expr.allReferences es → look' symbol = look symbol) →
      Expr.evalAll source look' es = Expr.evalAll source look es
  | [], _ => rfl
  | e :: es, h => by
    simp only [evalAll, Expr.eval_congr e fun s span r => h s span (List.mem_append_left _ r),
      Expr.evalAll_congr es fun s span r => h s span (List.mem_append_right _ r)]

theorem Expr.evalText_congr : ∀ es : List Expr,
    (∀ symbol span, .symbol symbol span ∈ Expr.allReferences es → look' symbol = look symbol) →
      Expr.evalText source look' es = Expr.evalText source look es
  | [], _ => rfl
  | e :: es, h => by
    simp only [evalText, Expr.eval_congr e fun s span r => h s span (List.mem_append_left _ r),
      Expr.evalText_congr es fun s span r => h s span (List.mem_append_right _ r)]

end

end Eval

namespace Translate

/-- What a script is translated with, in all worlds. -/
structure Worlds (ω : Type) where
  source : String
  formatter : Formatter
  modules : ω → Modules
  context : ω → Dict (Value Empty)

def Worlds.env {ω : Type} (worlds : Worlds ω) (w : ω) : Env where
  source := worlds.source
  modules := worlds.modules w
  formatter := worlds.formatter
  context := worlds.context w

/-- How the lexical states and captures of all worlds are read off joint states and closures. -/
structure Reading [Host] (ω S κ : Type) [Defined κ] where
  capture : ω → κ → Capture
  state : ω → S → Lexical
  push : String → Value κ → S → S
  indent : S → String
  atIndent : String → S → S
  name_capture : ∀ w c, (capture w c).definition.name = (Defined.definition c).name
  /-- The host program does the same in all worlds. -/
  unseen : ∀ w, Host.Unseen (capture w)
  push_state : ∀ w name v s,
    Scoping.push name (v.mapClosures (capture w)) (state w s) = state w (push name v s)
  indent_state : ∀ w s, Scoping.indent (state w s) = indent s
  state_atIndent : ∀ w i s, state w (atIndent i s) = { state w s with indent := i }
  atIndent_indent : ∀ s, atIndent (indent s) s = s

/-- A joint lookup that those of all worlds are read off. The places may differ, but not their
order. -/
structure Lookup (ω : Type) {κ : Type} (P : κ → Prop) where
  find? : String → Option (Nat × Value κ)
  place : ω → Nat → Nat
  holds : ∀ symbol i v, find? symbol = some (i, v) → v.Holds P
  order : ∀ w symbol i v symbol' j u, find? symbol = some (i, v) → find? symbol' = some (j, u) →
    (place w i < place w j ↔ i < j)

variable {ω S κ : Type} [Host] [Defined κ] (R : Reading ω S κ) {worlds : Worlds ω}
  {exempt : ω → Stop → Prop} {s : S}

namespace Reading

abbrev value (w : ω) : Value κ → Value Capture := Value.mapClosures (R.capture w)

abbrev values (w : ω) : List (Value κ) → List (Value Capture) := List.map (R.value w)

abbrev named (w : ω) : List (String × Value κ) → List (String × Value Capture) :=
  List.map (Prod.map id (R.value w))

abbrev nodes (w : ω) : List (Node κ) → List (Node Capture) :=
  List.map (Node.mapClosures (R.capture w))

/-- The output of a translation in one world. -/
abbrev output (w : ω) : S × List (Node κ) → Output Lexical Capture :=
  Prod.map (R.state w) (R.nodes w)

/-- A translation that makes the same nodes in all worlds and leaves the state as it was. -/
abbrev Stays (exempt : ω → Stop → Prop) (s : S) (x : ω → Run (Output Lexical Capture)) : Prop :=
  Accord exempt R.output (·.1 = s) x

theorem stays (s : S) (ns : List (Node κ)) :
    R.Stays exempt s fun w => .ok (R.state w s, R.nodes w ns) :=
  Accord.ok (f := R.output) (a := (s, ns)) rfl

/-! ### Expressions -/

section Lookups

variable {P : κ → Prop} (look : Lookup ω P)

/-- The lookup finds what a symbol stands for in all worlds. -/
def Tells (s : S) (symbol : String) : Prop :=
  ∀ w, Scoping.find? symbol (R.state w s) =
    (look.find? symbol).map (Prod.map (look.place w) (R.value w))

/-- The lookup finds what some references stand for in all worlds. -/
def TellsAll (s : S) (references : List Reference) : Prop :=
  ∀ r ∈ references, ∀ symbol ∈ r.symbols, R.Tells look s symbol

variable {look}

theorem eval_uniform [Host.HandsOn] {e : Expr} (told : R.TellsAll look s e.references) :
    Uniform R.value (Value.Holds P) fun w => eval (worlds.env w) (R.state w s) e := by
  refine ⟨e.eval worlds.source fun symbol => (look.find? symbol).map (·.2), fun w => ?_,
    fun v ok => ?_⟩
  · rw [← Expr.eval_mapClosures (R.unseen w) worlds.source (fun _ => rfl) e]
    refine e.eval_congr fun symbol span referred => ?_
    rw [value?, told _ referred symbol (List.mem_singleton_self _) w, Option.map_map, Option.map_map]
    rfl
  · refine Expr.eval_holds (fun symbol v found => ?_) e v ok
    obtain ⟨⟨i, v⟩, there, rfl⟩ := Option.map_eq_some_iff.mp found
    exact look.holds symbol i v there

theorem evalAll_uniform [Host.HandsOn] {es : List Expr}
    (told : R.TellsAll look s (Expr.allReferences es)) :
    ∀ e ∈ es, Uniform R.value (Value.Holds P) fun w => eval (worlds.env w) (R.state w s) e :=
  fun _ member => R.eval_uniform fun r referred =>
    told r (Expr.mem_allReferences.mpr ⟨_, member, referred⟩)

/-- A name is called as the same tag or closure in all worlds. -/
theorem called_uniform {name : Ident} (told : R.TellsAll look s [.call name]) :
    Uniform (fun w => Sum.map id (R.capture w)) (fun target => ∀ c, target = .inr c → P c)
      fun w => called (worlds.env w) (R.state w s) name := by
  have held : ∀ {v : Value κ} {target}, v.Holds P → called.callable? v = some target →
      ∀ c, target = .inr c → P c := by
    rintro v _ holds here c rfl
    exact Value.holds_closure.mp (called.eq_closure_of_callable? here ▸ holds)
  have undefined : ∀ w, called.undefined (κ := Capture) (worlds.env w) name =
      .error ((Cause.undefined (tagSymbol name.name)).toError.placed worlds.source name.span) :=
    fun _ => rfl
  have other : ∀ w (v : Value κ),
      called.notCallable (worlds.env w) name (R.value w v) =
        .error ((Cause.calledNotCallable (varSymbol name.name) v.kind).toError.placed worlds.source
          name.span) := by
    intro w v
    rw [called.notCallable, Value.kind_mapClosures]
    rfl
  have target {t : Tag ⊕ κ} (holds : ∀ c, t = .inr c → P c) :
      Uniform (fun w => Sum.map id (R.capture w)) (fun target => ∀ c, target = .inr c → P c)
        fun w => (.ok (Sum.map id (R.capture w) t) : Except Error (Tag ⊕ Capture)) :=
    .ok (f := fun w => Sum.map id (R.capture w)) holds
  have told := told _ (List.mem_singleton_self _)
  have tagAt (w : ω) := told (tagSymbol name.name) (.head _) w
  have varAt (w : ω) := told (varSymbol name.name) (.tail _ (.head _)) w
  -- The later one of two bindings that can be called is called, so that each of the four cases
  -- has to agree on both lookups.
  unfold called
  simp only [tagAt, varAt]
  cases tag : look.find? (tagSymbol name.name) with
  | none =>
    cases var : look.find? (varSymbol name.name) with
    | none =>
      simp only [Option.map_none, undefined]
      exact .error _
    | some found =>
      obtain ⟨j, u⟩ := found
      simp only [Option.map_none, Option.map_some, Prod.map, called.callable?_mapClosures, other]
      cases here : called.callable? u with
      | none => exact .error _
      | some t => exact target (held (look.holds _ j u var) here)
  | some found =>
    obtain ⟨i, v⟩ := found
    have tagHolds := look.holds _ i v tag
    cases var : look.find? (varSymbol name.name) with
    | none =>
      simp only [Option.map_none, Option.map_some, Prod.map, called.callable?_mapClosures,
        undefined]
      cases here : called.callable? v with
      | none => exact .error _
      | some t => exact target (held tagHolds here)
    | some found =>
      obtain ⟨j, u⟩ := found
      have varHolds := look.holds _ j u var
      simp only [Option.map_some, Prod.map, called.callable?_mapClosures, other,
        look.order _ _ i v _ j u tag var]
      cases here : called.callable? v <;> cases there : called.callable? u
      · exact .error _
      · exact target (held varHolds there)
      · exact target (held tagHolds here)
      · by_cases later : i < j <;> simp only [Option.map_some, later, if_true, if_false]
        · exact target (held varHolds there)
        · exact target (held tagHolds here)

end Lookups

/-- The formatter writes closures in the same way in all worlds. -/
def Formats (formatter : Formatter) : Prop :=
  ∀ w (v : Value κ), formatter (R.value w v).shown = formatter v.shown

theorem formatValue_uniform (formats : R.Formats worlds.formatter) (span : Span) (v : Value κ) :
    Uniform (fun _ => id) (fun _ => True) fun w =>
      formatValue (worlds.env w) span (R.value w v) := by
  refine ⟨formatValue ⟨worlds.source, ⟨[]⟩, worlds.formatter, []⟩ span v, fun w => ?_,
    fun _ _ => trivial⟩
  have same : formatValue (worlds.env w) span (R.value w v) = formatValue (worlds.env w) span v :=
    formatValue_mapClosures (R.unseen w) (formats w) span v
  exact (same.trans (by cases v <;> rfl)).trans (id_map _).symm

theorem writeParts_uniform (formats : R.Formats worlds.formatter) {parts : List Part}
    (evals : ∀ e ∈ partExprs parts,
      Uniform R.value (fun _ => True) fun w => eval (worlds.env w) (R.state w s) e) :
    Uniform (fun _ => id) (fun _ => True)
      fun w => writeParts (worlds.env w) (R.state w s) parts := by
  have joined : ∀ text rest : String, Uniform (fun _ : ω => id) (fun _ => True)
      fun _ => (.ok (text ++ rest) : Except Error String) :=
    fun text rest => .ok (f := fun _ => id) (a := text ++ rest) trivial
  induction parts with
  | nil => exact .ok (f := fun _ => id) trivial
  | cons part rest ih =>
    cases part with
    | raw text => exact (ih evals).bind fun written _ => joined text written
    | expr e =>
      obtain ⟨here, later⟩ := List.forall_mem_cons.mp evals
      refine here.bind fun v _ => ?_
      exact (R.formatValue_uniform formats e.span v).bind fun text _ =>
        (ih later).bind fun written _ => joined text written

theorem evalArgs_uniform {P : κ → Prop} {args : List Arg}
    (evals : ∀ e ∈ argExprs args,
      Uniform R.value (Value.Holds P) fun w => eval (worlds.env w) (R.state w s) e) :
    Uniform (fun w => Prod.map (R.values w) (R.named w)) (fun o => ArgsHold P o.1 o.2)
      fun w => evalArgs (worlds.env w) (R.state w s) args := by
  induction args with
  | nil => exact .ok (f := fun w => Prod.map (R.values w) (R.named w)) (a := ([], [])) ⟨nofun, nofun⟩
  | cons arg rest ih =>
    cases arg with
    | positional e =>
      obtain ⟨here, later⟩ := List.forall_mem_cons.mp evals
      refine here.bind fun v holds => ?_
      refine (ih later).bind fun o ⟨positional, named⟩ => ?_
      exact .ok (f := fun w => Prod.map (R.values w) (R.named w)) (a := (v :: o.1, o.2))
        ⟨List.forall_mem_cons.mpr ⟨holds, positional⟩, named⟩
    | named name e =>
      obtain ⟨here, later⟩ := List.forall_mem_cons.mp evals
      refine here.bind fun v holds => ?_
      refine (ih later).bind fun o ⟨positional, named⟩ => ?_
      exact .ok (f := fun w => Prod.map (R.values w) (R.named w)) (a := (o.1, (name.name, v) :: o.2))
        ⟨positional, List.forall_mem_cons.mpr ⟨holds, named⟩⟩

/-! ### Blocks that make nodes -/

theorem group_uniform (outline : Bool) (indent : Option Indent) (body : List (Node κ)) :
    Uniform (fun w => Node.mapClosures (R.capture w)) (fun _ => True)
      fun w => Node.group outline indent (R.nodes w body) :=
  ⟨Node.group outline indent body, fun _ => Node.group_map _ _ _ body, fun _ _ => trivial⟩

theorem startLine_uniform (place : Option String) (ns : List (Node κ)) :
    Uniform R.nodes (fun _ => True) fun w => startLine place (R.nodes w ns) :=
  ⟨startLine place ns, fun _ => startLine_map _ place ns, fun _ _ => trivial⟩

theorem flatten_uniform (v : Value κ) :
    Uniform R.nodes (fun _ => True) fun w => (R.value w v).flatten :=
  ⟨v.flatten, fun w => v.flatten_mapClosures (R.capture w), fun _ _ => trivial⟩

theorem text_accord {parts : List Part}
    (written : Uniform (fun _ => id) (fun _ => True)
      fun w => writeParts (worlds.env w) (R.state w s) parts) (place : Option String) :
    R.Stays exempt s fun w => text (worlds.env w) (R.state w s) parts place := by
  simp only [text]
  refine .after written fun written _ => ?_
  cases place with
  | none => exact R.stays s [Node.text _]
  | some indent =>
    exact .after (R.group_uniform _ _ [Node.text _]) fun group _ => R.stays s [group]

theorem embed_accord (s : S) (ns : List (Node κ)) (place : Option String) :
    R.Stays exempt s fun w => embed (R.state w s) (R.nodes w ns) place := by
  simp only [embed, R.indent_state, Node.anchorList_map]
  exact .after (R.startLine_uniform place _) fun placed _ => R.stays s placed

theorem confined_accord {p : S × List (Node κ) → Prop}
    {run : ω → Lexical → Run (Output Lexical Capture)}
    (h : Accord exempt R.output p fun w => run w (R.state w s)) :
    R.Stays exempt s fun w => confined (R.state w s) (run w) := by
  simp only [confined]
  exact h.bind fun o _ => R.stays s o.2

theorem indented_accord (newline : (R.indent s).toList.head? = some '\n') (layout : Layout)
    {run : ω → Lexical → Option String → Run (Output Lexical Capture)}
    (h : ∀ indent place, indent.toList.head? = some '\n' →
      R.Stays exempt (R.atIndent indent s) fun w => run w (R.state w (R.atIndent indent s)) place) :
    R.Stays exempt s fun w => indented (R.state w s) layout (run w) := by
  have itself := R.atIndent_indent s
  have nonempty := ne_of_newline newline
  unfold indented
  split
  · have inline := h (R.indent s) none newline
    rwa [itself] at inline
  · split
    · exact .error _
    -- The indentation goes on and comes off one character at a time.
    · have extended (w : ω) := indentBy_all (w := fun indent => R.state w (R.atIndent indent s))
        (fun _ _ => by simp only [R.state_atIndent]; rfl) (R.indent s) layout.indent.toList
      have undone (w : ω) := dedentBy_all (w := fun indent => R.state w (R.atIndent indent s))
        (fun _ c nonempty => by
          simp only [R.state_atIndent]
          exact Lexical.dedent_push _ c nonempty) nonempty layout.indent.toList
      rw [String.ofList_toList] at extended undone
      simp only [itself] at extended undone
      have deep (w : ω) (i : String) : Scoping.indent (R.state w (R.atIndent i s)) = i := by
        rw [R.state_atIndent]
        rfl
      simp only [extended, deep]
      have longer : (R.indent s ++ layout.indent).toList.head? = some '\n' := by
        rw [String.toList_append, List.head?_append, newline, Option.some_or]
      refine (h _ _ longer).bind ?_
      rintro ⟨_, ns⟩ rfl
      simp only [Prod.map, undone, ok_bind]
      exact R.stays s ns

/-- A loop runs over the same values in all worlds. -/
theorem forEach_accord {p : S × List (Node κ) → Prop}
    (run : ω → Lexical → Run (Output Lexical Capture)) (name : String) (u : Value κ)
    (values : List (Value κ))
    (h : ∀ v ∈ values, Accord exempt R.output p fun w => run w (R.state w (R.push name v s))) :
    Accord exempt R.output (fun _ => True) fun w =>
      forEach (Scoping.length (R.state w s)) (run w) (R.state w (R.push name u s))
        (R.values w values) := by
  induction values generalizing u with
  | nil => exact .ok (f := R.output) (a := (R.push name u s, [])) trivial
  | cons v vs ih =>
    obtain ⟨first, others⟩ := List.forall_mem_cons.mp h
    have set (w : ω) : Scoping.set (Scoping.length (R.state w s)) (R.value w v)
        (R.state w (R.push name u s)) = .ok (R.state w (R.push name v s)) := by
      rw [← R.push_state, ← R.push_state]
      exact Lexical.set_push _ _ _ _
    simp only [List.map_cons, forEach, set, lift_eq_ofExcept, ofExcept_ok, ok_bind]
    refine (R.confined_accord first).bind ?_
    rintro ⟨_, ns⟩ rfl
    refine (ih v others).bind fun ⟨s', rest⟩ _ => ?_
    simp only [Prod.map, ← List.map_append]
    exact .ok (f := R.output) (a := (s', ns ++ rest)) trivial

end Reading

end Translate

end MarkupTemplate

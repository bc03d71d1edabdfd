import MarkupTemplate.Proofs.Worlds.Reading

/-!
# Blocks in several worlds

What each construct does in all worlds, given that the expressions in it evaluate alike, the closures
that it calls answer alike and the blocks inside it run alike. The blocks may differ from world to
world.
-/

namespace MarkupTemplate

open Resolve (partExprs argExprs defaultExprs)

namespace Translate

variable {ω S κ : Type} [Host] [Defined κ] (R : Reading ω S κ) {worlds : Worlds ω}
  {exempt : ω → Stop → Prop} {s : S}

namespace Reading

/-! ### Calls -/

theorem finishCall_accord {call : ω → Caller Lexical Capture} (s : S) (name : Ident)
    {target : Tag ⊕ κ} (args : List (Value κ)) (named : List (String × Value κ))
    (body : List (Node κ)) (indent : Option String) (place : String)
    (answers : ∀ c, target = .inr c → R.Stays exempt s fun w =>
      call w (R.state w s) (R.capture w c)
        (Call.mapClosures (R.capture w) ⟨args, named, body, place, name.span⟩)) :
    R.Stays exempt s fun w => finishCall (worlds.env w) (call w) (R.state w s) name
      (Sum.map id (R.capture w) target) (R.values w args) (R.named w named) (R.nodes w body) indent
      place := by
  cases target with
  | inl tag =>
    have made : Uniform (fun w => Node.mapClosures (R.capture w)) (fun _ => True) fun w =>
        Node.ofHead ⟨some tag, R.values w args, R.named w named, indent.isSome⟩
          (indent.map .absolute) (R.nodes w body) :=
      ⟨_, fun w => Node.ofHead_mapClosures (R.capture w) ⟨some tag, args, named, _⟩ _ body,
        fun _ _ => trivial⟩
    exact .after (made.locate worlds.source name.span) fun element _ => R.stays s [element]
  | inr c =>
    refine (answers c rfl).bind fun o same => ?_
    subst same
    exact .after (R.startLine_uniform indent o.2) fun placed _ => R.stays o.1 placed

/-- The arguments of a call are sorted in the same way in all worlds. -/
theorem arguments_uniform {P : κ → Prop} {k : Call κ} (hold : ArgsHold P k.positional k.named)
    (signature : Signature) :
    Uniform (fun w => List.map (mapSlot (R.capture w)))
      (fun slots => slots.map (·.1) = signature.params ∧ Call.SlotsHold P slots)
      fun w => ((k.mapClosures (R.capture w)).arguments signature).mapError Cause.toError := by
  refine ⟨(k.arguments signature).mapError Cause.toError, fun w => ?_, fun slots ok => ?_⟩
  · dsimp only
    rw [Call.arguments_mapClosures]
    cases k.arguments signature <;> rfl
  · exact Call.arguments_spec hold.1 hold.2 (mapError_eq_ok.mp ok)

/-- Binds names to values, in order. -/
def pushAll (s : S) (entries : List (String × Value κ)) : S :=
  entries.foldl (fun s entry => R.push entry.1 entry.2 s) s

/-- A state in which some names have been bound to values with closures of a property. -/
def Binds (P : κ → Prop) (s : S) (names : List String) (s' : S) : Prop :=
  ∃ entries, s' = R.pushAll s entries ∧ entries.map (·.1) = names ∧
    ∀ entry ∈ entries, entry.2.Holds P

theorem binds_nil (P : κ → Prop) (s : S) : R.Binds P s [] s := ⟨[], rfl, rfl, nofun⟩

theorem Binds.push {P : κ → Prop} {s' : S} {names : List String} (h : R.Binds P s names s')
    (name : String) {v : Value κ} (holds : v.Holds P) :
    R.Binds P s (names ++ [name]) (R.push name v s') := by
  obtain ⟨entries, rfl, rfl, hold⟩ := h
  refine ⟨entries ++ [(name, v)], by simp [pushAll], by simp, ?_⟩
  exact List.forall_mem_append.mpr ⟨hold, List.forall_mem_singleton.mpr holds⟩

section Params

variable {P : κ → Prop} {c : κ}

/-- The default expression has one value in all worlds, on what the closure captured there. -/
def DefaultAgrees (worlds : Worlds ω) (P : κ → Prop) (c : κ) (e : Expr) : Prop :=
  Uniform R.value (Value.Holds P)
    fun w => e.eval worlds.source fun name => (lastBinding? name (R.capture w c).bindings).map (·.2)

/-- Defaults agree if what they refer to is found in the same way in what was captured. -/
theorem defaultAgrees [Host.HandsOn] {look : Lookup ω P} {t : S} {indent : String}
    (entered : ∀ w, R.state w t = ⟨(R.capture w c).bindings, indent⟩) {es : List Expr}
    (told : R.TellsAll look t (Expr.allReferences es)) : ∀ e ∈ es, R.DefaultAgrees worlds P c e := by
  intro e member
  have evals : Uniform R.value (Value.Holds P) fun w => eval (worlds.env w) (R.state w t) e :=
    R.evalAll_uniform told e member
  simp only [entered] at evals
  exact evals

theorem slotValue_accord (span : Span) (s : S) (index : Nat) {p : Param}
    (default : ∀ e, p.default = some e → R.DefaultAgrees worlds P c e) {slot : Option (Value κ)}
    (holds : ∀ v, slot = some v → v.Holds P) :
    Accord exempt (fun w => Prod.map (R.value w) (R.state w))
      (fun o => o.1.Holds P ∧ o.2 = s)
      fun w => slotValue (worlds.env w) (R.capture w c) span (R.state w s) index p
        (slot.map (R.value w)) := by
  have bound (v : Value κ) (holds : v.Holds P) :
      Accord exempt (fun w => Prod.map (R.value w) (R.state w)) (fun o => o.1.Holds P ∧ o.2 = s)
        fun w => (.ok (R.value w v, R.state w s) : Run _) :=
    .ok (f := fun w => Prod.map (R.value w) (R.state w)) (a := (v, s)) ⟨holds, rfl⟩
  cases slot with
  | some v => exact bound v (holds v rfl)
  | none =>
    cases hasDefault : p.default with
    | none =>
      have missing (w : ω) : (Defined.definition (R.capture w c)).name =
          (Defined.definition c).name := R.name_capture w c
      simp only [slotValue, hasDefault, Option.map_none, missing]
      exact .error (Stop.error (Cause.toError _ |>.placed worlds.source span))
    | some e =>
      simp only [slotValue, hasDefault, Option.map_none]
      exact .after (default e hasDefault) fun v holds => bound v holds

theorem bindParams_accord (span : Span) {s' : S} {names : List String} (h : R.Binds P s names s')
    (index : Nat) {slots : List (Param × Option (Value κ))}
    (defaults : ∀ slot ∈ slots, ∀ e, slot.1.default = some e → R.DefaultAgrees worlds P c e)
    (hold : Call.SlotsHold P slots) :
    Accord exempt R.state (R.Binds P s (names ++ slots.map (varSymbol ·.1.name.name)))
      fun w => bindParams (worlds.env w) (R.capture w c) span (R.state w s') index
        (slots.map (mapSlot (R.capture w))) := by
  induction slots generalizing s' names index with
  | nil =>
    rw [List.map_nil, List.append_nil]
    exact .ok (f := R.state) h
  | cons entry rest ih =>
    obtain ⟨p, slot⟩ := entry
    obtain ⟨here, others⟩ := List.forall_mem_cons.mp defaults
    simp only [List.map_cons, bindParams, mapSlot, Prod.map]
    refine (R.slotValue_accord span s' index here
      fun v same => hold p v (same ▸ List.mem_cons_self)).bind ?_
    rintro ⟨v, _⟩ ⟨holds, rfl⟩
    have later := ih (h.push R (varSymbol p.name.name) holds) (index + 1) others
      fun q w member => hold q w (List.mem_cons_of_mem _ member)
    rw [List.append_assoc] at later
    simp only [Prod.map, R.push_state]
    exact later

/-- The body of a call is bound in the same way in all worlds. -/
theorem bindBody_accord {s' : S} {names : List String} (h : R.Binds P s names s') (call : Call κ)
    (param : Option Ident) :
    Accord exempt R.state (R.Binds P s (names ++ param.toList.map (varSymbol ·.name)))
      fun w => bindBody (R.state w s') (call.mapClosures (R.capture w)) param := by
  cases param with
  | none =>
    rw [Option.toList_none, List.map_nil, List.append_nil]
    exact .ok (f := R.state) h
  | some name =>
    simp only [bindBody, Call.mapClosures, Node.baseOf?_map, demoteAll_map]
    have demoted : Uniform R.nodes (fun _ => True) fun w => R.nodes w <$>
        demoteAll ((Node.baseOf? call.body).getD call.indent) call.body :=
      ⟨_, fun _ => rfl, fun _ _ => trivial⟩
    refine Accord.after (f := R.nodes) (p := fun _ => True) demoted fun body _ => ?_
    have pushed (w : ω) := R.push_state w (varSymbol name.name) (.nodes body) s'
    simp only [Value.mapClosures_nodes] at pushed
    simp only [pushed]
    exact .ok (f := R.state) (h.push R _ (Value.holds_nodes body))

/-- A call makes the same nodes in all worlds if the body of the definition does, on what the closure
captured with the parameters bound. The definitions of the worlds differ in no parameter. -/
theorem invoke_accord {call : ω → Caller Lexical Capture} {k : Call κ} (signature : Signature)
    (same : ∀ w, ∃ readDepth, (R.capture w c).definition.signature = { signature with readDepth })
    (hold : ArgsHold P k.positional k.named) {t : S}
    (entered : ∀ w, R.state w t = ⟨(R.capture w c).bindings, Scope.withNewline k.indent⟩)
    (defaults : ∀ e ∈ defaultExprs signature.params, R.DefaultAgrees worlds P c e)
    (body : ∀ t', R.Binds P t signature.bound t' → Accord exempt R.output (fun _ => True) fun w =>
      blocks (worlds.env w) (call w) ((R.capture w c).definition.depth + 1) (R.state w t')
        (R.capture w c).definition.body) :
    R.Stays exempt s fun w =>
      invoke (worlds.env w) (call w) (R.state w s) (R.capture w c)
        (k.mapClosures (R.capture w)) := by
  have params (w : ω) : (Defined.definition (R.capture w c)).signature.bodyParam =
      signature.bodyParam := by
    obtain ⟨_, same⟩ := same w
    exact (congrArg Signature.bodyParam same).trans rfl
  have sorts (w : ω) : (k.mapClosures (R.capture w)).arguments
      (Defined.definition (R.capture w c)).signature =
        (k.mapClosures (R.capture w)).arguments signature := by
    obtain ⟨_, same⟩ := same w
    exact (congrArg (Call.arguments _) same).trans rfl
  simp only [invoke, sorts, params]
  refine .after ((R.arguments_uniform hold signature).locate worlds.source k.span)
    fun slots ⟨listed, filled⟩ => ?_
  have each : ∀ slot ∈ slots, ∀ e, slot.1.default = some e → R.DefaultAgrees worlds P c e := by
    intro slot member e hasDefault
    have param : slot.1 ∈ signature.params := listed ▸ List.mem_map_of_mem member
    exact defaults e (List.mem_filterMap.mpr ⟨slot.1, param, hasDefault⟩)
  refine Accord.bind (f := R.state) (p := (· = t)) ?_ ?_
  · have enters (w : ω) : Scoping.enter (R.capture w c) k.indent (R.state w s) =
        .ok (R.state w t) := by
      rw [entered]
      rfl
    simp only [Call.mapClosures, enters]
    exact .ok rfl
  rintro _ rfl
  refine (R.bindParams_accord k.span (R.binds_nil P _) 0 each filled).bind fun s₁ h₁ => ?_
  refine (R.bindBody_accord h₁ k signature.bodyParam).bind fun s₂ h₂ => ?_
  have bound : [] ++ slots.map (varSymbol ·.1.name.name) ++
      signature.bodyParam.toList.map (varSymbol ·.name) = signature.bound := by
    rw [List.nil_append, Signature.bound, ← listed, List.map_map]
    rfl
  exact (body s₂ (bound ▸ h₂)).bind fun o _ => R.stays s o.2

end Params

/-! ### Blocks -/

section Blocks

variable {call : ω → Caller Lexical Capture} {depth : ω → Nat} {P : κ → Prop}

theorem eval_atIndent (env : Env) (w : ω) (indent : String) (e : Expr) :
    eval env (R.state w (R.atIndent indent s)) e = eval env (R.state w s) e := by
  rw [R.state_atIndent]
  rfl

/-- Closures of a property expand to the same in all worlds. -/
def Answers (exempt : ω → Stop → Prop) (P : κ → Prop) (call : ω → Caller Lexical Capture) : Prop :=
  ∀ (s : S) (c : κ) (k : Call κ), P c → ArgsHold P k.positional k.named →
    R.Stays exempt s fun w =>
      call w (R.state w s) (R.capture w c) (k.mapClosures (R.capture w))

theorem textBlock_accord (formats : R.Formats worlds.formatter)
    (newline : (R.indent s).toList.head? = some '\n') {parts : List Part}
    (evals : ∀ e ∈ partExprs parts,
      Uniform R.value (Value.Holds P) fun w => eval (worlds.env w) (R.state w s) e)
    (layout : Layout) :
    R.Stays exempt s fun w =>
      block (worlds.env w) (call w) (depth w) (R.state w s) (.text parts layout) := by
  simp only [block]
  refine R.indented_accord newline layout fun indent place _ => ?_
  refine R.text_accord (R.writeParts_uniform formats fun e member => ?_) place
  simp only [R.eval_atIndent]
  exact (evals e member).imp fun _ _ => trivial

theorem callBlock_accord (newline : (R.indent s).toList.head? = some '\n')
    (answers : R.Answers exempt P call) {name : Ident} {args : List Arg} {body : ω → List Block}
    (target : Uniform (fun w => Sum.map id (R.capture w)) (fun t => ∀ c, t = .inr c → P c)
      fun w => called (worlds.env w) (R.state w s) name)
    (evals : ∀ e ∈ argExprs args,
      Uniform R.value (Value.Holds P) fun w => eval (worlds.env w) (R.state w s) e)
    (inside : ∀ indent, indent.toList.head? = some '\n' →
      Accord exempt R.output (fun _ => True) fun w =>
        blocks (worlds.env w) (call w) (depth w) (R.state w (R.atIndent indent s)) (body w))
    (layout : Layout) :
    R.Stays exempt s fun w =>
      block (worlds.env w) (call w) (depth w) (R.state w s) (.call name args (body w) layout) := by
  simp only [block]
  refine .after target fun target closed => ?_
  refine .after (R.evalArgs_uniform evals) fun o hold => ?_
  refine R.indented_accord newline layout fun indent place newline => ?_
  refine (R.confined_accord (inside indent newline)).bind ?_
  rintro ⟨_, ns⟩ rfl
  simp only [Prod.map, R.indent_state]
  exact R.finishCall_accord _ name o.1 o.2 ns place _ fun c same => answers _ c _ (closed c same) hold

theorem embedBlock_accord (newline : (R.indent s).toList.head? = some '\n') {e : Expr}
    (value : Uniform R.value (Value.Holds P) fun w => eval (worlds.env w) (R.state w s) e)
    (layout : Layout) :
    R.Stays exempt s fun w =>
      block (worlds.env w) (call w) (depth w) (R.state w s) (.embed e layout) := by
  simp only [block]
  refine .after value fun v _ => ?_
  refine .after ((R.flatten_uniform v).locate worlds.source e.span) fun ns _ => ?_
  exact R.indented_accord newline layout fun indent place _ => R.embed_accord _ ns place

theorem assignBlock_accord {name : Ident} {e : Expr}
    (value : Uniform R.value (Value.Holds P) fun w => eval (worlds.env w) (R.state w s) e) :
    Accord exempt R.output (R.Binds P s [varSymbol name.name] ·.1) fun w =>
      block (worlds.env w) (call w) (depth w) (R.state w s) (.assign name e) := by
  simp only [block]
  refine .after value fun v holds => ?_
  simp only [R.push_state]
  exact .ok (f := R.output) (a := (_, [])) ((R.binds_nil P s).push R (varSymbol name.name) holds)

theorem branchBlock_accord {condition : Expr} {thenBlocks elseBlocks : ω → List Block}
    (value : Uniform R.value (Value.Holds P) fun w => eval (worlds.env w) (R.state w s) condition)
    (thenInside : Accord exempt R.output (fun _ => True) fun w =>
      blocks (worlds.env w) (call w) (depth w) (R.state w s) (thenBlocks w))
    (elseInside : Accord exempt R.output (fun _ => True) fun w =>
      blocks (worlds.env w) (call w) (depth w) (R.state w s) (elseBlocks w)) :
    R.Stays exempt s fun w => block (worlds.env w) (call w) (depth w) (R.state w s)
      (.branch condition (thenBlocks w) (elseBlocks w)) := by
  simp only [block]
  refine .after value fun v _ => ?_
  simp only [Value.isTruthy_mapClosures]
  split
  · exact R.confined_accord thenInside
  · exact R.confined_accord elseInside

theorem loopBlock_accord {name : Ident} {items : Expr} {body : ω → List Block}
    (value : Uniform R.value (Value.Holds P) fun w => eval (worlds.env w) (R.state w s) items)
    (inside : ∀ v : Value κ, v.Holds P → Accord exempt R.output (fun _ => True) fun w =>
      blocks (worlds.env w) (call w) (depth w) (R.state w (R.push (varSymbol name.name) v s))
        (body w)) :
    R.Stays exempt s fun w =>
      block (worlds.env w) (call w) (depth w) (R.state w s) (.loop name items (body w)) := by
  simp only [block]
  refine .after value fun v holds => ?_
  cases v with
  | list values =>
    have first (w : ω) : Scoping.push (varSymbol name.name) .none (R.state w s) =
        R.state w (R.push (varSymbol name.name) .none s) := R.push_state w _ .none s
    simp only [Value.mapClosures_list, first]
    refine (R.forEach_accord (fun w s => blocks (worlds.env w) (call w) (depth w) s (body w))
      (varSymbol name.name) .none values
      fun v member => inside v (Value.holds_list.mp holds v member)).bind fun o _ => ?_
    exact R.stays s o.2
  | _ =>
    simp only [Value.mapClosures, Value.kind]
    exact .error (Stop.error (Cause.toError _ |>.placed worlds.source items.span))

theorem blocks_accord_nil : Accord exempt R.output (fun _ => True) fun w =>
    blocks (worlds.env w) (call w) (depth w) (R.state w s) [] := by
  simp only [blocks]
  exact .ok (f := R.output) (a := (s, [])) trivial

theorem blocks_accord_cons {p : S × List (Node κ) → Prop} {b : ω → Block} {bs : ω → List Block}
    (first : Accord exempt R.output p fun w =>
      block (worlds.env w) (call w) (depth w) (R.state w s) (b w))
    (later : ∀ o, p o → Accord exempt R.output (fun _ => True) fun w =>
      blocks (worlds.env w) (call w) (depth w) (R.state w o.1) (bs w)) :
    Accord exempt R.output (fun _ => True) fun w =>
      blocks (worlds.env w) (call w) (depth w) (R.state w s) (b w :: bs w) := by
  simp only [blocks]
  refine first.bind ?_
  rintro ⟨s₁, ns⟩ holds
  refine (later _ holds).bind ?_
  rintro ⟨s₂, rest⟩ -
  simp only [Prod.map, ← List.map_append]
  exact .ok (f := R.output) (a := (s₂, ns ++ rest)) trivial

end Blocks

end Reading

end Translate

end MarkupTemplate

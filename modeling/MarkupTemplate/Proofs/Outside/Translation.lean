import MarkupTemplate.Proofs.Outside.Joint

/-!
# Translations that read nothing from outside

A script that refers to nothing from outside makes the same nodes in every world, whatever is bound
to the names that it takes from there.
-/

namespace MarkupTemplate

open Resolve (defaultExprs)

namespace Translate

variable {ω : Type} {worlds : Worlds ω} {s s' : JointState ω} {scope : Declarations} {m : Modules}
  {provided : String → Prop}

/-- No world is exempt from making the same nodes. -/
abbrev nowhere (_ : ω) (_ : Stop) : Prop := False

/-- Worlds that provide the same names. -/
structure Worlds.Alike (m : Modules) (provided : String → Prop) (worlds : Worlds ω) : Prop where
  modules : ∀ w, m.SameNames (worlds.modules w)
  context : ∀ name, provided name → ∀ w, (Dict.get? name (worlds.context w)).isSome

theorem JointState.Fits.append_nil (h : s.Fits m provided scope) :
    s.Fits m provided (scope ++ []) := by
  rwa [List.append_nil]

theorem pushAll_state (w : ω) (joint : List (String × (ω → Value Empty))) (s : JointState ω) :
    pushAll (s.state w) (entriesIn w joint) =
      (joint.foldl (fun s (symbol, v) => s.pushOutside symbol v) s).state w := by
  induction joint generalizing s with
  | nil => rfl
  | cons entry rest ih =>
    rw [List.foldl_cons, ← ih, ← s.state_pushOutside]
    rfl

theorem JointState.Fits.pushAll (h : s.Fits m provided scope)
    (joint : List (String × (ω → Value Empty))) :
    (joint.foldl (fun s (symbol, v) => s.pushOutside symbol v) s).Fits m provided
      (scope ++ outsideDeclarations (joint.map (·.1))) := by
  induction joint generalizing s scope with
  | nil => exact h.append_nil
  | cons entry rest ih =>
    have later := ih (h.pushOutside entry.1 entry.2)
    rwa [List.append_assoc] at later

theorem bindContext_accord (alike : worlds.Alike m provided) (h : s.Fits m provided scope)
    {names : List Ident} (there : ∀ name ∈ names, provided name.name) :
    Accord nowhere JointState.state
      (·.Fits m provided (scope ++ outsideDeclarations (names.map (varSymbol ·.name))))
      fun w => bindContext (worlds.env w) (s.state w) names := by
  induction names generalizing s scope with
  | nil => exact .ok (f := JointState.state) h.append_nil
  | cons name rest ih =>
    obtain ⟨here, others⟩ := List.forall_mem_cons.mp there
    have found := fun w => Option.isSome_iff_exists.mp (alike.context name.name here w)
    choose v found using found
    have found (w : ω) : Dict.get? name.name (worlds.env w).context = some (v w) := found w
    have later := ih (h.pushOutside (varSymbol name.name) v) others
    rw [List.append_assoc] at later
    simp only [bindContext, found, s.state_pushOutside]
    exact later

theorem bindItems_accord (alike : worlds.Alike m provided) (h : s.Fits m provided scope)
    (path : String) (items : List Ident) :
    Accord nowhere JointState.state
      (·.Fits m provided (scope ++ outsideDeclarations (items.map (·.name))))
      fun w => bindItems (worlds.env w) path (s.state w) items := by
  induction items generalizing s scope with
  | nil => exact .ok (f := JointState.state) h.append_nil
  | cons item rest ih =>
    simp only [bindItems]
    refine .after ((Modules.symbol_uniform alike.modules item.name path).locate
      worlds.source item.span) fun v _ => ?_
    have later := ih (h.pushOutside item.name v)
    rw [List.append_assoc] at later
    simp only [s.state_pushOutside]
    exact later

variable [Host]

abbrev outputIn (w : ω) : JointState ω × List (Node (Joint ω)) → Output Lexical Capture :=
  JointState.reading.output w

/-- A translation that makes the same nodes in all worlds and leaves the state as it was. -/
abbrev Stays (s : JointState ω) (x : ω → Run (Output Lexical Capture)) : Prop :=
  JointState.reading.Stays nowhere s x

/-- Closed closures expand to the same in all worlds. -/
abbrev Answers (m : Modules) (provided : String → Prop) (call : ω → Caller Lexical Capture) :
    Prop :=
  JointState.reading.Answers nowhere (Joint.Closed m provided) call

/-! ### Blocks -/

theorem JointState.Fits.unchanged {x : ω → Run (Output Lexical Capture)}
    (h : s.Fits m provided scope) (same : Stays s x) :
    Accord nowhere outputIn (·.1.Fits m provided (scope ++ [])) x :=
  same.imp fun _ same => same ▸ h.append_nil

/-- What is bound inside is declared inside. -/
theorem JointState.Fits.binds (h : s.Fits m provided scope) {depth : Nat} (deep : 0 < depth)
    {names : List String}
    (bound : JointState.reading.Binds (Joint.Closed m provided) s names s') :
    s'.Fits m provided (scope ++ names.map fun name => (name, ⟨depth, none⟩)) := by
  obtain ⟨entries, rfl, rfl, hold⟩ := bound
  induction entries generalizing s scope with
  | nil => exact h.append_nil
  | cons entry rest ih =>
    obtain ⟨here, others⟩ := List.forall_mem_cons.mp hold
    have later := ih (h.push entry.1 here (d := ⟨depth, none⟩) deep) others
    rwa [List.append_assoc] at later

theorem JointState.Fits.define (h : s.Fits m provided scope) {depth : Nat} (deep : 0 < depth)
    {signature : Signature} {body : List Block}
    (defaults : ∀ r ∈ Expr.allReferences (defaultExprs signature.params), r.Inside scope)
    (within : ∀ site ∈ Block.innerSites m scope depth (.define signature body),
      site.Closed provided) :
    Accord nowhere outputIn
      (fun o => o.1.Fits m provided (scope ++ Block.declares m depth (.define signature body)))
      fun w => (.ok (define depth (s.state w) signature body, []) :
        Run (Output Lexical Capture)) := by
  -- A definition captures all that is visible, also what is from outside. It is closed because it
  -- does not refer to that.
  let c : Joint ω := .ofCells ⟨signature, body, depth⟩ s.bindings
  have closed : c.Closed m provided := .mk h.closed h.declared defaults within
  have made (w : ω) : Translate.define depth (s.state w) signature body =
      (s.push (tagSymbol signature.name.name) (.closure c)).state w :=
    s.state_push w (tagSymbol signature.name.name) (.closure c)
  simp only [made]
  exact .ok (f := outputIn) (a := (s.push (tagSymbol signature.name.name) (.closure c), []))
    (h.push _ (Value.holds_closure.mpr closed) deep)

mutual

theorem block_accord [Host.HandsOn] (alike : worlds.Alike m provided)
    {call : ω → Caller Lexical Capture} (answers : Answers m provided call) :
    ∀ (b : Block) (depth : Nat) (scope : Declarations) (s : JointState ω), 0 < depth →
      s.Fits m provided scope → Site.Closed provided ⟨scope, depth, b⟩ →
      (∀ site ∈ b.innerSites m scope depth, site.Closed provided) →
      Accord nowhere outputIn (fun o => o.1.Fits m provided (scope ++ b.declares m depth))
        fun w => block (worlds.env w) (call w) depth (s.state w) b
  | .text parts layout, depth, scope, s, _, h, here, _ =>
    h.unchanged (JointState.reading.textBlock_accord (JointState.reading_formats _) h.newline
      (JointState.reading.evalAll_uniform (h.tells here.inside)) layout)
  | .call name args body layout, depth, scope, s, deep, h, here, within => by
    obtain ⟨read, takes⟩ := List.forall_mem_cons.mp here.inside
    refine h.unchanged (JointState.reading.callBlock_accord h.newline answers
      (JointState.reading.called_uniform (h.tells (List.forall_mem_singleton.mpr read)))
      (JointState.reading.evalAll_uniform (h.tells takes)) (fun indent newline => ?_) layout)
    exact blocks_accord alike answers body depth scope _ deep (h.withIndent newline) within
  | .embed e layout, depth, scope, s, _, h, here, _ =>
    h.unchanged (JointState.reading.embedBlock_accord h.newline
      (JointState.reading.eval_uniform (h.tells here.inside)) layout)
  | .define signature body, depth, scope, s, deep, h, here, within => by
    simp only [block]
    exact h.define deep here.inside within
  | .assign name e, depth, scope, s, deep, h, here, _ =>
    (JointState.reading.assignBlock_accord
      (JointState.reading.eval_uniform (h.tells here.inside))).imp fun _ => h.binds deep
  | .context names, depth, scope, s, _, h, here, _ => by
    simp only [block]
    refine (bindContext_accord alike h (here.provided names rfl)).bind fun s' h' => ?_
    exact .ok (f := outputIn) (a := (s', [])) h'
  | .importFrom path none span, depth, scope, s, _, h, _, _ => by
    simp only [block]
    refine .after ((Modules.publicSymbols_uniform alike.modules path).locate
      worlds.source span) fun joint names => ?_
    have bound := h.pushAll joint
    rw [names] at bound
    simp only [pushAll_state]
    exact .ok (f := outputIn) (a := (_, [])) bound
  | .importFrom path (some items) span, depth, scope, s, _, h, _, _ => by
    simp only [block]
    refine (bindItems_accord alike h path items).bind fun s' h' => ?_
    exact .ok (f := outputIn) (a := (s', [])) h'
  | .branch condition thenBlocks elseBlocks, depth, scope, s, deep, h, here, within => by
    obtain ⟨thenWithin, elseWithin⟩ := List.forall_mem_append.mp within
    exact h.unchanged (JointState.reading.branchBlock_accord
      (JointState.reading.eval_uniform (h.tells here.inside))
      (blocks_accord alike answers thenBlocks depth scope s deep h thenWithin)
      (blocks_accord alike answers elseBlocks depth scope s deep h elseWithin))
  | .loop name items body, depth, scope, s, deep, h, here, within => by
    refine h.unchanged (JointState.reading.loopBlock_accord
      (JointState.reading.eval_uniform (h.tells here.inside)) fun v closed => ?_)
    exact blocks_accord alike answers body depth _ _ deep (h.push (varSymbol name.name) closed deep)
      within

theorem blocks_accord [Host.HandsOn] (alike : worlds.Alike m provided)
    {call : ω → Caller Lexical Capture} (answers : Answers m provided call) :
    ∀ (bs : List Block) (depth : Nat) (scope : Declarations) (s : JointState ω), 0 < depth →
      s.Fits m provided scope → (∀ site ∈ Block.allSites m scope depth bs, site.Closed provided) →
      Accord nowhere outputIn (fun _ => True)
        fun w => blocks (worlds.env w) (call w) depth (s.state w) bs
  | [], _, _, _, _, _, _ => JointState.reading.blocks_accord_nil
  | b :: bs, depth, scope, s, deep, h, within => by
    obtain ⟨here, rest⟩ := List.forall_mem_cons.mp within
    obtain ⟨inner, later⟩ := List.forall_mem_append.mp rest
    exact JointState.reading.blocks_accord_cons
      (block_accord alike answers b depth scope s deep h here inner)
      fun o h₁ => blocks_accord alike answers bs depth _ o.1 deep h₁ later

end

end Translate

end MarkupTemplate

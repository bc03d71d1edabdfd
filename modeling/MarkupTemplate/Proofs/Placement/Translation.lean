import MarkupTemplate.Proofs.Placement.Scopes

/-!
# Placing while translating

By induction on how deep calls may be nested and on the blocks: a translation keeps clean values, ends
at the indentation where it started, and makes nodes that stand in the block around it. It finds an
indentation malformed only where a layout is refused or the body of a call that it comes to.
-/

namespace MarkupTemplate

open Resolve (partExprs argExprs defaultExprs)

/-- A call with clean arguments and a body that stands at the place of the call. -/
structure Call.Clean (fits : Layout → Prop) (k : Call Closure) : Prop where
  positional : ∀ v ∈ k.positional, v.Clean fits
  named : ∀ entry ∈ k.named, entry.2.Clean fits
  body : Node.AllStandIn k.indent k.body
  attributes : Node.Clean fits k.body
  newline : k.indent.toList.head? = some '\n'

namespace Translate

variable {fits : Layout → Prop} {env : Env} {fine : ErrorCategory → Prop} {allowed : Stop → Prop}
  {outer indent base : String} {s : State Closure} {place : Option String}

/-! ### Blocks that bind -/

theorem State.Keeps.define (h : s.Keeps (Value.Clean fits) indent) (depth : Nat)
    {signature : Signature} {body : List Block}
    (written : (Block.define signature body).Writes Value.NodeFree fits) :
    (Translate.define depth s signature body).Keeps (Value.Clean fits) indent :=
  (h.close ⟨signature, body, depth⟩).push _ (Value.clean_closure.mpr ⟨written.1, written.2⟩)

/-! What is bound from outside or for a call has whatever property the values of the state have. -/

section Bind

variable {Q : Value Closure → Prop} (tolerant : Tolerates fine allowed)

include tolerant

theorem State.Keeps.bindContext_ends (h : s.Keeps Q indent)
    (outside : ∀ entry ∈ env.context, Q entry.2.lift) (names : List Ident) :
    Ends allowed (State.Keeps Q indent) (bindContext env s names) := by
  induction names generalizing s with
  | nil => exact h
  | cons name rest ih =>
    unfold bindContext
    split
    · next v found => exact ih (h.push _ (outside _ (Dict.mem_of_get? found)))
    · exact tolerant.error (by rw [Error.placed_category]; nofun)

theorem State.Keeps.bindItems_ends (h : s.Keeps Q indent) {path : String}
    (outside : ∀ name v, env.modules.symbol name path = .ok v → Q v.lift) (items : List Ident) :
    Ends allowed (State.Keeps Q indent) (bindItems env path s items) := by
  induction items generalizing s with
  | nil => exact h
  | cons item rest ih =>
    unfold bindItems
    have found : Makes (fun v => Q v.lift)
        (locate env.source item.span (env.modules.symbol item.name path)) :=
      .locate ⟨outside item.name, env.modules.symbol_upright _ _⟩ _ _
    exact Ends.bind (tolerant.makes found) fun v holds => ih (h.push _ holds)

variable [Host]

/-- Defaults have a property if everything that they are evaluated on has it. -/
def DefaultsInherit (Q : Value Closure → Prop) (source : String) (params : List Param) : Prop :=
  ∀ p ∈ params, ∀ e, p.default = some e → ∀ look v, (∀ name w, look name = some w → Q w) →
    e.eval source look = .ok v → Q v

variable [Host.FunctionsFailIn fine]

theorem State.Keeps.slotValue_ends (h : s.Keeps Q indent) {c : Closure}
    (defaults : DefaultsInherit Q env.source c.signature.params) (span : Span) (index : Nat)
    {p : Param} (param : p ∈ c.signature.params) {slot : Option (Value Closure)}
    (holds : ∀ v, slot = some v → Q v) :
    Ends allowed (fun o => Q o.1 ∧ o.2.Keeps Q indent)
      (slotValue env c span s index p slot) := by
  unfold slotValue
  cases slot with
  | some v => exact ⟨holds v rfl, h⟩
  | none =>
    cases hasDefault : p.default with
    | none => exact tolerant.error (by rw [Error.placed_category]; nofun)
    | some e =>
      exact h.default_ends tolerant c index
        (fun look => e.eval_fine tolerant.upright env.source look)
        (defaults p param e hasDefault)

theorem State.Keeps.bindParams_ends (h : s.Keeps Q indent) {c : Closure}
    (defaults : DefaultsInherit Q env.source c.signature.params) (span : Span) (index : Nat)
    {slots : List (Param × Option (Value Closure))}
    (params : ∀ slot ∈ slots, slot.1 ∈ c.signature.params) (filled : Call.Filled Q slots) :
    Ends allowed (State.Keeps Q indent) (bindParams env c span s index slots) := by
  induction slots generalizing s index with
  | nil => exact h
  | cons entry rest ih =>
    obtain ⟨p, slot⟩ := entry
    obtain ⟨param, others⟩ := List.forall_mem_cons.mp params
    unfold bindParams
    refine Ends.bind (h.slotValue_ends tolerant defaults span index param
      fun v same => filled p v (same ▸ List.mem_cons_self)) fun ⟨v, s₁⟩ ⟨holds, kept⟩ => ?_
    exact ih (kept.push _ holds) (index + 1) others
      fun q w member => filled q w (List.mem_cons_of_mem _ member)

end Bind

theorem publicSymbols_makes (free : env.NodeFree) (path : String) :
    Makes (fun symbols : Dict (Value Empty) => ∀ symbol ∈ symbols, symbol.2.NodeFree)
      (env.modules.publicSymbols path) :=
  ⟨fun _ => free.publicSymbols, env.modules.publicSymbols_upright path⟩

section Parts

variable (tolerant : Tolerates fine allowed)

include tolerant

/-! ### Blocks that make nodes -/

theorem embed_placed (h : Opened fits outer base s place) {nodes : List (Node Closure)}
    (settled : Settled nodes) (clean : Node.Clean fits nodes) :
    Ends allowed (Placed fits base base) (embed s nodes place) := by
  unfold embed
  simp only [h.measured]
  have made := startLine_makes h.state.newline h.isPlace (Node.anchorList_standIn base settled)
  refine Ends.bind_of_ok (tolerant.makes made) fun ns started standing => ?_
  exact ⟨h.state, standing, (clean.anchor base).startLine (ofExcept_eq_ok.mp started)⟩

theorem finishCall_placed {call : Caller (State Closure) Closure} {name : Ident}
    {target : Tag ⊕ Closure} {args : List (Value Closure)} {named : List (String × Value Closure)}
    {body : List (Node Closure)} (h : s.Keeps (Value.Clean fits) base)
    (isPlace : Node.IsPlace base place) (standing : Node.AllStandIn base body)
    (clean : Node.Clean fits body) (positional : ∀ v ∈ args, v.Clean fits)
    (passed : ∀ entry ∈ named, entry.2.Clean fits)
    (calls : ∀ c, target = .inr c →
      Ends allowed (Placed fits base base) (call s c ⟨args, named, body, base, name.span⟩)) :
    Ends allowed (Placed fits base base)
      (finishCall env call s name target args named body place base) := by
  unfold finishCall
  cases target with
  | inl tag =>
    have made := Node.ofHead_makes ⟨some tag, args, named, place.isSome⟩ place h.newline isPlace
      standing
    refine Ends.bind_of_ok (tolerant.makes (made.locate env.source name.span))
      fun element located stands => ?_
    have element := locate_eq_ok.mp (ofExcept_eq_ok.mp located)
    exact ⟨h, ⟨stands, trivial⟩, .ofHead positional passed clean element⟩
  | inr c =>
    refine Ends.bind (calls c rfl) fun ⟨s', nodes⟩ ⟨kept, standing, clean⟩ => ?_
    refine Ends.bind_of_ok (tolerant.makes (startLine_makes h.newline isPlace standing))
      fun ns started standing => ?_
    exact ⟨kept, standing, clean.startLine (ofExcept_eq_ok.mp started)⟩

/-- A loop ends well if its body does for every value that it comes to. -/
theorem forEach_placed {index : Nat} {run : State Closure → Run (Output (State Closure) Closure)}
    {values : List (Value Closure)} (h : s.Keeps (Value.Clean fits) indent)
    (clean : ∀ v ∈ values, v.Clean fits)
    (inner : ∀ earlier v later s' s'' nodes, values = earlier ++ v :: later →
      forEach index run s earlier = .ok (s', nodes) → Scoping.set index v s' = .ok s'' →
      s''.Keeps (Value.Clean fits) indent → Ends allowed (Placed fits indent indent) (run s'')) :
    Ends allowed (Placed fits indent indent) (forEach index run s values) := by
  induction values generalizing s with
  | nil => exact .none h
  | cons v vs ih =>
    -- for a later value, `inner` wants the loop up to it, so the first run is put in front
    obtain ⟨first, others⟩ := List.forall_mem_cons.mp clean
    unfold forEach
    refine Ends.bind_of_ok (h.set_ends tolerant index first) fun s₁ set kept => ?_
    have ran := inner [] v vs s s₁ [] rfl rfl (ofExcept_eq_ok.mp set) kept
    refine Ends.bind_of_ok (confined_placed tolerant kept ran) ?_
    rintro ⟨s₂, ns⟩ done placed
    refine Ends.bind (ih placed.state others ?_) fun o rest => placed.append rest
    intro earlier w later s' s'' nodes same before binds kept'
    refine inner (v :: earlier) w later s' s'' (ns ++ nodes) (by rw [same, List.cons_append]) ?_
      binds kept'
    rw [forEach, set, ok_bind, done, ok_bind]
    dsimp only
    rw [before, ok_bind]

/-! ### Calls -/

omit tolerant in
theorem bindBody_keeps (h : s.Keeps (Value.Clean fits) indent) {k : Call Closure}
    (clean : k.Clean fits) {param : Option Ident}
    (binds : ∀ stop, bindBody s k param = .error stop → allowed stop) :
    Ends allowed (State.Keeps (Value.Clean fits) indent) (bindBody s k param) := by
  cases bound : bindBody s k param with
  | error stop => exact binds stop bound
  | ok s' =>
    unfold bindBody at bound
    split at bound
    · obtain rfl := Except.ok.inj bound
      exact h
    · obtain ⟨body, demoted, bound⟩ := bind_eq_ok.mp bound
      obtain rfl := Except.ok.inj bound
      have demoted := ofExcept_eq_ok.mp demoted
      exact h.push _ (Value.clean_nodes.mpr
        ⟨demoteAll_settled clean.body demoted, clean.attributes.demote demoted⟩)

end Parts

section Hosted

/-! ### What the host program takes part in -/

variable [Host] [Host.KeepsSettled]

theorem eval_clean (h : s.Keeps (Value.Clean fits) indent) {e : Expr}
    (written : e.Writes Value.NodeFree) {v : Value Closure} (value : eval env s e = .ok v) :
    v.Clean fits :=
  h.visible.eval_inherits Value.hereditary_clean
    (e.writes_imp (fun _ => Value.clean_lift) written) value

variable [Host.FunctionsFailIn fine] (tolerant : Tolerates fine allowed)

include tolerant

theorem eval_ends (h : s.Keeps (Value.Clean fits) indent) {e : Expr}
    (written : e.Writes Value.NodeFree) :
    Ends allowed (Value.Clean fits) (liftM (eval env s e) : Run (Value Closure)) :=
  tolerant.ends (eval_fine env tolerant.upright e) fun _ => eval_clean h written

theorem bindParams_keeps (h : s.Keeps (Value.Clean fits) indent) {c : Closure}
    (written : c.toDefinition.Writes Value.NodeFree fits) (span : Span) (index : Nat)
    {slots : List (Param × Option (Value Closure))}
    (params : ∀ slot ∈ slots, slot.1 ∈ c.signature.params)
    (filled : Call.Filled (Value.Clean fits) slots) :
    Ends allowed (State.Keeps (Value.Clean fits) indent)
      (bindParams env c span s index slots) := by
  refine h.bindParams_ends tolerant (fun p param e hasDefault look v shown value => ?_) span index
    params filled
  have among : e ∈ defaultExprs c.signature.params := List.mem_filterMap.mpr ⟨p, param, hasDefault⟩
  exact e.eval_inherits Value.hereditary_clean shown v
    (e.writes_imp (fun _ => Value.clean_lift) (written.defaults.of_mem among)) value

theorem text_placed [Host.TagsFailIn fine] (h : Opened fits outer base s place) {parts : List Part}
    (written : Expr.AllWrite Value.NodeFree (partExprs parts)) :
    Ends allowed (Placed fits base base) (text env s parts place) := by
  have clean : Expr.AllWrite (fun v => (v.lift : Value Closure).Clean fits) (partExprs parts) :=
    Expr.allWrite_imp (fun _ => Value.clean_lift) _ written
  unfold text
  refine tolerant.bind (h.state.visible.writeParts_fine env tolerant.upright clean) fun text _ => ?_
  cases place with
  | none => exact ⟨h.state, ⟨trivial, trivial⟩, .text _⟩
  | some i =>
    obtain rfl := h.isPlace i rfl
    have line : ∀ text, Node.AllStandIn i [(.text text : Node Closure)] := fun _ =>
      ⟨trivial, trivial⟩
    refine Ends.bind_of_ok (tolerant.makes (Node.group_makes h.state.newline (line _)))
      fun group made stands => ?_
    exact ⟨h.state, ⟨stands, trivial⟩, (Node.Clean.text _).group (ofExcept_eq_ok.mp made)⟩

end Hosted

/-! ### Scripts -/

variable [Host]

/-- From a stage on, the body of every call that is come to is bound or stops in an allowed way. -/
def BindsFrom (env : Env) (allowed : Stop → Prop) (stage : Stage (State Closure) Closure) : Prop :=
  ∀ limit s c k, Reaches env stage (.entered limit s c k) →
    ∀ stop, bindBody s k c.signature.bodyParam = .error stop → allowed stop

theorem BindsFrom.step {stage stage' : Stage (State Closure) Closure}
    (binds : BindsFrom env allowed stage) (leads : Leads env stage stage') :
    BindsFrom env allowed stage' :=
  fun limit s c k reaches => binds limit s c k (.head leads reaches)

/-- Calls that may be nested up to a limit end well. -/
def CallsEnd (fits : Layout → Prop) (env : Env) (allowed : Stop → Prop) (limit : Nat) : Prop :=
  ∀ (s : State Closure) (c : Closure) (k : Call Closure) (indent : String),
    s.Keeps (Value.Clean fits) indent → c.toDefinition.Writes Value.NodeFree fits → k.Clean fits →
    BindsFrom env allowed (.call limit s c k) →
    Ends allowed (Placed fits indent k.indent) (expand env limit s c k)

/-- What is relied on: nothing from outside holds nodes, and stopping is allowed except on a malformed
indentation, unless it is that of a layout. -/
structure Setting (fits : Layout → Prop) (env : Env) (fine : ErrorCategory → Prop)
    (allowed : Stop → Prop) : Prop where
  free : env.NodeFree
  tolerant : Tolerates fine allowed
  refuses : ∀ layout (s : State Closure) e, fits layout → opened s layout = .error e →
    allowed (.error e)

mutual

theorem block_placed [Host.KeepsSettled] [Host.FunctionsFailIn fine] [Host.TagsFailIn fine]
    (setting : Setting fits env fine allowed) {limit : Nat}
    (calls : CallsEnd fits env allowed limit) :
    ∀ (b : Block) (bs : List Block) (depth : Nat) (s : State Closure) (indent : String),
      s.Keeps (Value.Clean fits) indent → b.Writes Value.NodeFree fits →
      BindsFrom env allowed (.blocks limit depth s (b :: bs)) →
      Ends allowed (Placed fits indent indent) (block env (expand env limit) depth s b)
  | .text parts layout, bs, depth, s, indent, h, ⟨written, fit⟩, binds => by
    unfold block
    exact indented_placed h (fun e => setting.refuses layout s e fit) fun s' place base _ opened =>
      text_placed setting.tolerant opened written
  | .call name args body layout, bs, depth, s, indent, h, ⟨written, inner, fit⟩, binds => by
    unfold block
    refine setting.tolerant.bind (setting.tolerant.fails (called_upright env s name))
      fun target calling => ?_
    refine setting.tolerant.bind (evalArgs_fine env setting.tolerant.upright args)
      fun ⟨vs, named⟩ passing => ?_
    refine indented_placed h (fun e => setting.refuses layout s e fit)
      fun s' place base opens opened => ?_
    simp only [opened.measured]
    have within := blocks_placed setting calls body depth s' base opened.state inner
      (binds.step (.body calling passing opens))
    refine Ends.bind_of_ok (confined_placed setting.tolerant opened.state within)
      fun ⟨s'', nodes⟩ done ⟨kept, standing, inside⟩ => ?_
    have clean := h.visible.evalArgs_inherit Value.hereditary_clean
      (Expr.allWrite_imp (fun _ => Value.clean_lift) _ written) passing
    refine finishCall_placed setting.tolerant kept opened.isPlace standing inside clean.1 clean.2
      fun c same => ?_
    subst same
    -- the body stands at `base`, which is the indentation that the call is expanded at
    have reached := binds.step (.call calling passing opens done)
    rw [opened.measured] at reached
    exact calls s'' c ⟨vs, named, nodes, base, name.span⟩ base kept
      (Value.clean_closure.mp (h.visible.called_inherits calling))
      ⟨clean.1, clean.2, standing, inside, kept.newline⟩ reached
  | .embed e layout, bs, depth, s, indent, h, ⟨written, fit⟩, binds => by
    unfold block
    refine Ends.bind (eval_ends setting.tolerant h written) fun v clean => ?_
    have flat : Makes (fun ns => Settled ns ∧ Node.Clean fits ns)
        (locate env.source e.span v.flatten) :=
      .locate ⟨fun ns => clean.flatten, v.flatten_fails nofun⟩ _ _
    refine Ends.bind (setting.tolerant.makes flat) fun nodes ⟨settled, inside⟩ => ?_
    exact indented_placed h (fun e => setting.refuses layout s e fit) fun s' place base _ opened =>
      embed_placed setting.tolerant opened settled inside
  | .define signature body, bs, depth, s, indent, h, written, binds =>
    .none (h.define depth written)
  | .assign name e, bs, depth, s, indent, h, written, binds => by
    unfold block
    exact Ends.bind (eval_ends setting.tolerant h written) fun v clean =>
      .none (h.push _ clean)
  | .context names, bs, depth, s, indent, h, _, binds => by
    unfold block
    have outside : ∀ entry ∈ env.context, (entry.2.lift : Value Closure).Clean fits :=
      fun entry member => Value.clean_lift (setting.free.context entry member)
    exact Ends.bind (h.bindContext_ends setting.tolerant outside names) fun s' kept => .none kept
  | .importFrom path none span, bs, depth, s, indent, h, _, binds => by
    unfold block
    have found := (publicSymbols_makes setting.free path).locate env.source span
    exact Ends.bind (setting.tolerant.makes found) fun symbols holds =>
      .none (h.pushAll fun symbol member => Value.clean_lift (holds symbol member))
  | .importFrom path (some items) _, bs, depth, s, indent, h, _, binds => by
    unfold block
    have outside : ∀ name v, env.modules.symbol name path = .ok v →
        (v.lift : Value Closure).Clean fits :=
      fun _ _ found => Value.clean_lift (setting.free.symbol found)
    exact Ends.bind (h.bindItems_ends setting.tolerant outside items) fun s' kept => .none kept
  | .branch condition thenBlocks elseBlocks, bs, depth, s, indent, h, ⟨_, thens, elses⟩, binds => by
    unfold block
    refine setting.tolerant.bind (eval_fine env setting.tolerant.upright condition) fun v tests => ?_
    have reached := binds.step (.branch tests)
    split
    · next holds =>
      rw [if_pos holds] at reached
      exact confined_placed setting.tolerant h
        (blocks_placed setting calls thenBlocks depth s indent h thens reached)
    · next holds =>
      rw [if_neg holds] at reached
      exact confined_placed setting.tolerant h
        (blocks_placed setting calls elseBlocks depth s indent h elses reached)
  | .loop name items body, bs, depth, s, indent, h, ⟨written, inner⟩, binds => by
    unfold block
    refine Ends.bind_of_ok (eval_ends setting.tolerant h written) fun v ranges clean => ?_
    have ranges := ofExcept_eq_ok.mp ranges
    split
    · next values =>
      have each := Value.hereditary_clean.list.mp clean
      have start := h.push (varSymbol name.name) Value.hereditary_clean.none
      refine Ends.bind (forEach_placed setting.tolerant start each ?_) fun ⟨s', nodes⟩ placed => ?_
      · intro earlier v later s' s'' nodes same done set kept
        rw [same] at ranges
        exact blocks_placed setting calls body depth s'' indent kept inner
          (binds.step (.loop ranges done set))
      · exact Ends.bind (h.reset_ends setting.tolerant placed.state) fun s'' kept =>
          ⟨kept, placed.nodes, placed.clean⟩
    · exact setting.tolerant.error (by rw [Error.placed_category]; nofun)

theorem blocks_placed [Host.KeepsSettled] [Host.FunctionsFailIn fine] [Host.TagsFailIn fine]
    (setting : Setting fits env fine allowed) {limit : Nat}
    (calls : CallsEnd fits env allowed limit) :
    ∀ (bs : List Block) (depth : Nat) (s : State Closure) (indent : String),
      s.Keeps (Value.Clean fits) indent → Block.AllWrite Value.NodeFree fits bs →
      BindsFrom env allowed (.blocks limit depth s bs) →
      Ends allowed (Placed fits indent indent) (blocks env (expand env limit) depth s bs)
  | [], depth, s, indent, h, _, _ => .none h
  | b :: bs, depth, s, indent, h, ⟨first, rest⟩, binds => by
    unfold blocks
    refine Ends.bind_of_ok (block_placed setting calls b bs depth s indent h first
      binds) fun ⟨s', nodes⟩ done placed => ?_
    exact Ends.bind (blocks_placed setting calls bs depth s' indent placed.state rest
      (binds.step (.next done))) fun o later => placed.append later

end

variable [Host.KeepsSettled] [Host.FunctionsFailIn fine] [Host.TagsFailIn fine]

theorem invoke_placed (setting : Setting fits env fine allowed) {limit : Nat}
    (calls : CallsEnd fits env allowed limit) : CallsEnd fits env allowed (limit + 1) := by
  intro s c k indent h written clean binds
  change Ends allowed _ (invoke env (expand env limit) s c k)
  unfold invoke
  have accepts : Upright (locate env.source k.span
      ((k.arguments c.signature).mapError Cause.toError)) :=
    .locate (Call.arguments_fails nofun nofun k c.signature) _ _
  refine setting.tolerant.bind (setting.tolerant.fails accepts) fun slots accepted => ?_
  have accepted := mapError_eq_ok.mp (locate_eq_ok.mp accepted)
  obtain ⟨params, filled⟩ := Call.arguments_inherit clean.positional clean.named accepted
  have listed : ∀ slot ∈ slots, slot.1 ∈ c.signature.params := by
    intro slot member
    change slot.1 ∈ (Defined.definition c).signature.params
    rw [← params]
    exact List.mem_map_of_mem member
  have inside := h.enter c clean.newline
  change Ends allowed _ (bindParams env c k.span (s.enter c k.indent) 0 slots >>= _)
  refine Ends.bind_of_ok (bindParams_keeps setting.tolerant inside written k.span 0 listed filled)
    fun s₂ bound kept => ?_
  have entered := binds.step (.enter accepted rfl bound)
  refine Ends.bind_of_ok (bindBody_keeps kept clean (entered limit s₂ c k .refl))
    fun s₃ bodied kept => ?_
  have ran := blocks_placed setting calls c.body (c.depth + 1) s₃ k.indent kept written.body
    (entered.step (.run bodied))
  exact Ends.bind ran fun ⟨s₄, nodes⟩ ⟨kept, standing, inside⟩ => ⟨h.leave kept, standing, inside⟩

theorem expand_placed (setting : Setting fits env fine allowed) (limit : Nat) :
    CallsEnd fits env allowed limit := by
  induction limit with
  | zero => exact fun s c k indent _ _ _ _ => setting.tolerant.stop .callDepth nofun
  | succ limit ih => exact invoke_placed setting ih

/-- A script makes a document with nodes that are in place. It finds an indentation malformed only where
a layout is refused or the body of a call that it comes to. -/
theorem script_placed (setting : Setting fits env fine allowed) (limit : Nat) {script : List Block}
    (written : Block.AllWrite Value.NodeFree fits script)
    (binds : ∀ symbols, env.modules.initialSymbols = .ok symbols →
      BindsFrom env allowed (.blocks limit 1 (pushAll .start symbols) script)) :
    Ends allowed (fun d => Settled d.body)
      (Translate.script env limit (.start : State Closure) script) := by
  unfold Translate.script scriptWith
  refine Ends.bind_of_ok (setting.tolerant.makes (publicSymbols_makes setting.free _))
    fun symbols found holds => ?_
  have start := (State.Keeps.start (Value.Clean fits : Value Closure → Prop)).pushAll
    fun symbol member => Value.clean_lift (holds symbol member)
  refine Ends.bind (blocks_placed setting (expand_placed setting limit) script 1 _ "\n" start written
    (binds symbols (ofExcept_eq_ok.mp found))) fun ⟨s', nodes⟩ placed => ?_
  have made := demoteAll_makes placed.nodes
  refine setting.tolerant.ends (.map _ (setting.tolerant.fails made.fails)) fun d same => ?_
  obtain ⟨body, demoted, rfl⟩ := map_eq_ok.mp same
  exact made.result body demoted

end Translate

end MarkupTemplate

import MarkupTemplate.Proofs.Simulation.Basic

/-!
# Translations in simulations

Translating a script in a simulation gives what translating it here gives, closures replaced, and every
state on the way is sound.
-/

namespace MarkupTemplate

namespace Translate

variable {σ σ' κ κ' μ μ' : Type} [Host] [Defined κ] [Defined κ'] [Scoping σ κ μ] [Scoping σ' κ' μ']
  {env : Env} (S : Simulation env.source σ σ') {s s' : σ}

namespace Simulation

abbrev value : Value κ → Value κ' := Value.mapClosures S.closure

abbrev nodes : List (Node κ) → List (Node κ') := List.map (Node.mapClosures S.closure)

/-- The output of a translation as it is read. -/
abbrev output : Output σ κ → Output σ' κ' := Prod.map S.state S.nodes

abbrev named : List (String × Value κ) → List (String × Value κ') := List.map (Prod.map id S.value)

/-- A step that stays on the current stack and leaves a sound state. -/
abbrev Moves (s : σ) (r : Run σ) (r' : Run σ') : Prop :=
  Follows S.state (fun s' => S.Sound s' ∧ S.Grows s s') r r'

/-- A translation that stays on the current stack and leaves a sound state. -/
abbrev Translates (s : σ) (r : Run (Output σ κ)) (r' : Run (Output σ' κ')) : Prop :=
  Follows S.output (fun o => S.Sound o.1 ∧ S.Grows s o.1 ∧ S.Made o.1 o.2) r r'

/-- Arguments of the kind of a state. -/
def ArgsHold (s : σ) (args : List (Value κ)) (named : List (String × Value κ)) : Prop :=
  (∀ v ∈ args, S.Holds s v) ∧ ∀ entry ∈ named, S.Holds s entry.2

theorem ArgsHold.imp {args : List (Value κ)} {named : List (String × Value κ)}
    (h : S.ArgsHold s args named) (holds : ∀ v, S.Holds s v → S.Holds s' v) :
    S.ArgsHold s' args named :=
  ⟨fun v member => holds v (h.1 v member), fun entry member => holds entry.2 (h.2 entry member)⟩

/-! ### Expressions -/

/-- Closures are seen as they are when they are read. -/
theorem shown_eq (c : κ) : Shows.shown (S.closure c) = Shows.shown c := by
  change Shown.mk _ _ _ = Shown.mk _ _ _
  rw [S.definition, S.count]
  rfl

theorem unseen : Host.Unseen S.closure := Host.unseen_of_shown S.shown_eq

theorem value?_eq (h : S.Sound s) (name : String) :
    value? (S.state s) name = (value? s name).map S.value := by
  rw [value?, value?, S.find? h]
  cases Scoping.find? name s <;> rfl

theorem eval_eq (h : S.Sound s) (e : Expr) : eval env (S.state s) e = S.value <$> eval env s e :=
  Expr.eval_mapClosures S.unseen env.source (S.value?_eq h) e

theorem eval_follows (h : S.Sound s) (e : Expr) : Follows S.value (S.Holds s) (liftM (eval env s e))
    (liftM (eval env (S.state s) e)) :=
  .lift (S.eval_eq h e) fun _ ok =>
    (S.visible h).eval_inherits (S.kind h).inherits (e.writes_of_forall (S.kind h).lift) ok

theorem writeParts_eq (h : S.Sound s) (parts : List Part) :
    writeParts env (S.state s) parts = writeParts env s parts := by
  induction parts with
  | nil => rfl
  | cons part rest ih =>
    cases part with
    | raw text => simp only [writeParts, ih]
    | expr e =>
      have same : ∀ v, formatValue env e.span (S.value v) = formatValue env e.span v :=
        formatValue_mapClosures S.unseen (fun v => by rw [Value.shown_mapClosures S.shown_eq]) e.span
      simp only [writeParts, S.eval_eq h, bind_map_left, same, ih]

theorem evalArgs_eq (h : S.Sound s) (args : List Arg) :
    evalArgs env (S.state s) args =
      Prod.map (List.map S.value) S.named <$> evalArgs env s args := by
  induction args with
  | nil => rfl
  | cons arg rest ih =>
    cases arg <;> simp [evalArgs, S.eval_eq h, ih, bind_map_left, map_bind]

theorem evalArgs_follows (h : S.Sound s) (args : List Arg) :
    Follows (Prod.map (List.map S.value) S.named) (fun o => S.ArgsHold s o.1 o.2)
      (liftM (evalArgs env s args)) (liftM (evalArgs env (S.state s) args)) :=
  .lift (S.evalArgs_eq h args) fun _ ok => (S.visible h).evalArgs_inherit (S.kind h).inherits
    (Expr.allWrite_of_forall (S.kind h).lift _) ok

theorem called_eq (h : S.Sound s) (name : Ident) :
    called env (S.state s) name = Sum.map id S.closure <$> called env s name := by
  unfold called
  simp only [S.find? h]
  rcases Scoping.find? (tagSymbol name.name) s with _ | ⟨i, defined⟩ <;>
    rcases Scoping.find? (varSymbol name.name) s with _ | ⟨j, held⟩ <;>
      simp only [Option.map_none, Option.map_some, Prod.map, called.callable?_mapClosures,
        called.notCallable_mapClosures]
  · rfl
  · cases called.callable? held <;> rfl
  · cases called.callable? defined <;> rfl
  · cases called.callable? defined <;> cases called.callable? held <;>
      simp [apply_ite (Sum.map id S.closure)]

theorem called_follows (h : S.Sound s) (name : Ident) :
    Follows (Sum.map id S.closure) (fun target => ∀ c, target = .inr c → S.Holds s (.closure c))
      (liftM (called env s name)) (liftM (called env (S.state s) name)) :=
  .lift (S.called_eq h name) fun _ ok _ same => (S.visible h).called_inherits (same ▸ ok)

/-! ### Blocks that bind -/

theorem push_lift (h : S.Sound s) (name : String) (v : Value Empty) :
    Scoping.push name v.lift (S.state s) = S.state (Scoping.push name v.lift s) := by
  have pushed := S.push h name v.lift
  rwa [Value.mapClosures_lift] at pushed

theorem define_moves (h : S.Sound s) (depth : Nat) (signature : Signature) (body : List Block) :
    define depth (S.state s) (S.recast.signature signature) (S.recast.blocks body) =
        S.state (define depth s signature body) ∧
      S.Sound (define depth s signature body) ∧ S.Grows s (define depth s signature body) := by
  obtain ⟨sound, grows, holds⟩ := S.sound_close h ⟨signature, body, depth⟩
  have closed := S.close h ⟨signature, body, depth⟩
  have pushed := S.sound_push sound (tagSymbol signature.name.name) holds
  refine ⟨?_, pushed.1, S.trans grows pushed.2⟩
  rw [Recasting.definition] at closed
  simp only [define, closed]
  exact S.push sound _ (.closure (Scoping.close ⟨signature, body, depth⟩ s).1)

theorem pushAll_moves (h : S.Sound s) (symbols : List (String × Value Empty)) :
    pushAll (S.state s) symbols = S.state (pushAll s symbols) ∧
      S.Sound (pushAll s symbols) ∧ S.Grows s (pushAll s symbols) := by
  induction symbols generalizing s with
  | nil => exact ⟨rfl, h, S.refl h⟩
  | cons entry rest ih =>
    obtain ⟨symbol, v⟩ := entry
    obtain ⟨pushed, grows⟩ := S.sound_push h symbol ((S.kind h).lift v)
    obtain ⟨same, sound, more⟩ := ih pushed
    refine ⟨?_, sound, S.trans grows more⟩
    simp only [pushAll, List.foldl_cons, S.push_lift h]
    exact same

theorem Moves.after {s₁ : σ} {r : Run σ} {r' : Run σ'} (h : S.Moves s₁ r r') (grows : S.Grows s s₁) :
    S.Moves s r r' :=
  h.imp fun _ ⟨sound, more⟩ => ⟨sound, S.trans grows more⟩

theorem Translates.after {s₁ : σ} {r : Run (Output σ κ)} {r' : Run (Output σ' κ')}
    (h : S.Translates s₁ r r') (grows : S.Grows s s₁) : S.Translates s r r' :=
  h.imp fun _ ⟨sound, more, made⟩ => ⟨sound, S.trans grows more, made⟩

theorem bindContext_moves (h : S.Sound s) (names : List Ident) :
    S.Moves s (bindContext env s names) (bindContext env (S.state s) names) := by
  induction names generalizing s with
  | nil => exact .ok ⟨h, S.refl h⟩
  | cons name rest ih =>
    simp only [bindContext]
    cases Dict.get? name.name env.context with
    | none => exact .error _
    | some v =>
      obtain ⟨pushed, grows⟩ := S.sound_push h (varSymbol name.name) ((S.kind h).lift v)
      simp only [S.push_lift h]
      exact (ih pushed).after S grows

theorem bindItems_moves (h : S.Sound s) (path : String) (items : List Ident) :
    S.Moves s (bindItems env path s items) (bindItems env path (S.state s) items) := by
  induction items generalizing s with
  | nil => exact .ok ⟨h, S.refl h⟩
  | cons item rest ih =>
    simp only [bindItems]
    refine Follows.bind (f := id) (p := fun _ => True) (.lift (by simp) fun _ _ => trivial) ?_
    intro v _
    obtain ⟨pushed, grows⟩ := S.sound_push h item.name ((S.kind h).lift v)
    rw [id, S.push_lift h]
    exact (ih pushed).after S grows

/-! ### Blocks that make nodes -/

theorem Kind.group {Q : Value κ → Prop} {R : List (Node κ) → Prop} (kind : Kind Q R)
    {outline : Bool} {indent : Option Indent} {body : List (Node κ)} {n : Node κ} (made : R body)
    (ok : Node.group outline indent body = .ok n) : R [n] :=
  kind.ofHead (by simp) (by simp) made ok

theorem text_translates (h : S.Sound s) (parts : List Part) (indent : Option String) :
    S.Translates s (text env s parts indent) (text env (S.state s) parts indent) := by
  simp only [text]
  refine Follows.bind (f := id) (p := fun _ => True)
    (.lift (by rw [S.writeParts_eq h, id_map]) fun _ _ => trivial) fun written _ => ?_
  have line := (S.kind h).text (String.ofList (Text.outdentTail written.toList))
  cases indent with
  | none => exact Follows.ok (f := S.output) ⟨h, S.refl h, line⟩
  | some indent =>
    refine Follows.bind (f := Node.mapClosures S.closure) (p := fun group => S.Made s [group])
      (.lift (Node.group_map S.closure _ _ [.text _]) fun _ ok => Kind.group (S.kind h) line ok)
      fun group made => ?_
    exact Follows.ok (f := S.output) (a := (s, [group])) ⟨h, S.refl h, made⟩

theorem embed_translates (h : S.Sound s) {ns : List (Node κ)} (made : S.Made s ns)
    (place : Option String) :
    S.Translates s (embed s ns place) (embed (S.state s) (S.nodes ns) place) := by
  simp only [embed, S.indent]
  refine Follows.bind (f := S.nodes) (p := S.Made s)
    (.lift ?_ fun _ ok => (S.kind h).startLine ((S.kind h).anchor _ made) ok) fun placed made => ?_
  · rw [Node.anchorList_map, startLine_map]
  · exact Follows.ok (f := S.output) (a := (s, placed)) ⟨h, S.refl h, made⟩

/-! ### Scopes -/

theorem confined_translates (h : S.Sound s) {run : σ → Run (Output σ κ)}
    {run' : σ' → Run (Output σ' κ')} (translates : S.Translates s (run s) (run' (S.state s))) :
    Follows S.output (fun o => (S.Sound o.1 ∧ S.Grows s o.1 ∧ S.Made o.1 o.2) ∧
      Scoping.length o.1 = Scoping.length s) (confined s run) (confined (S.state s) run') := by
  simp only [confined]
  refine Follows.bind translates fun ⟨s₁, ns⟩ ⟨h₁, grows, made⟩ => ?_
  refine Follows.bind (S.reset h h₁ grows) fun s₂ ⟨h₂, grows₂, length, kept⟩ => ?_
  exact Follows.ok (f := S.output) (a := (s₂, ns)) ⟨⟨h₂, grows₂, kept ns made⟩, length⟩

theorem indentBy_moves (h : S.Sound s) (added : List Char) :
    added.foldl (fun s c => Scoping.indentBy c s) (S.state s) =
        S.state (added.foldl (fun s c => Scoping.indentBy c s) s) ∧
      S.Sound (added.foldl (fun s c => Scoping.indentBy c s) s) ∧
      (∀ v, S.Holds s v → S.Holds (added.foldl (fun s c => Scoping.indentBy c s) s) v) ∧
      ∀ ns, S.Made s ns → S.Made (added.foldl (fun s c => Scoping.indentBy c s) s) ns := by
  induction added generalizing s with
  | nil => exact ⟨rfl, h, fun _ => id, fun _ => id⟩
  | cons c added ih =>
    obtain ⟨same, sound, holds, made⟩ := ih (S.sound_indentBy h c)
    simp only [List.foldl_cons, S.indentBy]
    exact ⟨same, sound, fun v held => holds v (S.holds_indentBy h c held),
      fun ns there => made ns (S.made_indentBy h c there)⟩

theorem indented_translates (h : S.Sound s) (layout : Layout)
    {run : σ → Option String → Run (Output σ κ)} {run' : σ' → Option String → Run (Output σ' κ')}
    (translates : ∀ s₁ place, S.Sound s₁ → (∀ v, S.Holds s v → S.Holds s₁ v) →
      (∀ ns, S.Made s ns → S.Made s₁ ns) →
      S.Translates s₁ (run s₁ place) (run' (S.state s₁) place)) :
    S.Translates s (indented s layout run) (indented (S.state s) layout run') := by
  unfold indented
  split
  · exact translates s none h (fun _ => id) fun _ => id
  · split
    · exact .error _
    · obtain ⟨same, sound, holds, made⟩ := S.indentBy_moves h layout.indent.toList
      simp only [same, S.indent]
      refine Follows.bind (translates _ _ sound holds made) fun ⟨s₂, ns⟩ ⟨h₂, grows, made₂⟩ => ?_
      refine Follows.bind (S.dedent h h₂ grows) fun s₃ ⟨h₃, grows₃, kept⟩ => ?_
      exact Follows.ok (f := S.output) (a := (s₃, ns)) ⟨h₃, grows₃, kept ns made₂⟩

/-- A loop writes its variable at one position and goes back to it after every round. -/
theorem forEach_translates {run : σ → Run (Output σ κ)}
    {run' : σ' → Run (Output σ' κ')}
    (translates : ∀ s, S.Sound s → S.Translates s (run s) (run' (S.state s)))
    (values : List (Value κ)) (hold : ∀ v ∈ values, S.Holds s' v) (h : S.Sound s)
    (grows : S.Grows s' s) (length : Scoping.length s = Scoping.length s' + 1) :
    Follows S.output (fun o => (S.Sound o.1 ∧ S.Grows s' o.1 ∧ S.Made o.1 o.2) ∧
        Scoping.length o.1 = Scoping.length s' + 1 ∧ ∀ ns, S.Made s ns → S.Made o.1 ns)
      (forEach (Scoping.length s') run s values)
      (forEach (Scoping.length s') run' (S.state s) (values.map S.value)) := by
  induction values generalizing s with
  | nil =>
    exact Follows.ok (f := S.output) (a := (s, []))
      ⟨⟨h, grows, (S.kind h).nil⟩, length, fun _ => id⟩
  | cons v vs ih =>
    obtain ⟨holds, others⟩ := List.forall_mem_cons.mp hold
    simp only [List.map_cons, forEach]
    refine Follows.bind (S.set h grows length holds) fun s₁ ⟨h₁, grows₁, length₁, kept₁⟩ => ?_
    refine Follows.bind (S.confined_translates h₁ (translates s₁ h₁))
      fun ⟨s₂, ns⟩ ⟨⟨h₂, grows₂, made₂⟩, length₂⟩ => ?_
    refine Follows.bind (ih others h₂ (S.trans grows₁ grows₂) (length₂.trans length₁))
      fun ⟨s₃, rest⟩ ⟨⟨h₃, grows₃, made₃⟩, length₃, kept₃⟩ => ?_
    have joined : S.nodes ns ++ S.nodes rest = S.nodes (ns ++ rest) := by simp
    simp only [Prod.map, joined]
    exact Follows.ok (f := S.output) (a := (s₃, ns ++ rest))
      ⟨⟨h₃, grows₃, (S.kind h₃).append (kept₃ ns made₂) made₃⟩, length₃,
        fun ns' made => kept₃ ns' (S.made_grows grows₂ (kept₁ ns' made))⟩

/-! ### Blocks -/

/-- Expanding closures is read through the simulation. -/
def Answers (call : Caller σ κ) (call' : Caller σ' κ') : Prop :=
  ∀ (s : σ) (c : κ) (k : Call κ), S.Sound s → S.Holds s (.closure c) →
    S.ArgsHold s k.positional k.named → S.Made s k.body →
    S.Translates s (call s c k) (call' (S.state s) (S.closure c) (k.mapClosures S.closure))

variable {call : Caller σ κ} {call' : Caller σ' κ'}

theorem finishCall_translates (answers : S.Answers call call') (h : S.Sound s) (name : Ident)
    {target : Tag ⊕ κ} (held : ∀ c, target = .inr c → S.Holds s (.closure c))
    {args : List (Value κ)} {named : List (String × Value κ)} (hold : S.ArgsHold s args named)
    {body : List (Node κ)} (made : S.Made s body) (indent : Option String) (place : String) :
    S.Translates s (finishCall env call s name target args named body indent place)
      (finishCall env call' (S.state s) name (Sum.map id S.closure target) (args.map S.value)
        (S.named named) (S.nodes body) indent place) := by
  cases target with
  | inl tag =>
    refine Follows.bind (f := Node.mapClosures S.closure) (p := fun n => S.Made s [n])
      (.lift ?_ fun _ ok => (S.kind h).ofHead hold.1 hold.2 made (locate_eq_ok.mp ok))
      fun element made => ?_
    · rw [← locate_map]
      exact congrArg _ (Node.ofHead_mapClosures S.closure ⟨some tag, args, named, _⟩ _ body)
    · exact Follows.ok (f := S.output) (a := (s, [element])) ⟨h, S.refl h, made⟩
  | inr c =>
    refine Follows.bind (answers s c ⟨args, named, body, place, name.span⟩ h (held c rfl) hold made)
      fun ⟨s₁, ns⟩ ⟨h₁, grows, made⟩ => ?_
    refine Follows.bind (f := S.nodes) (p := S.Made s₁)
      (.lift (startLine_map S.closure indent ns) fun _ ok => (S.kind h₁).startLine made ok)
      fun placed made => ?_
    exact Follows.ok (f := S.output) (a := (s₁, placed)) ⟨h₁, grows, made⟩

mutual

theorem block_translates (answers : S.Answers call call') (depth : Nat) {s : σ} (h : S.Sound s) :
    ∀ b : Block, S.Translates s (block env call depth s b)
      (block env call' depth (S.state s) (S.recast.block b))
  | .text parts layout => by
    rw [Recasting.block, block, block]
    exact S.indented_translates h layout fun s₁ place h₁ _ _ => S.text_translates h₁ parts place
  | .call name args body layout => by
    rw [Recasting.block, block, block]
    refine Follows.bind (S.called_follows h name) fun target held => ?_
    refine Follows.bind (S.evalArgs_follows h args) fun ⟨vs, named⟩ hold => ?_
    refine S.indented_translates h layout fun s₁ place h₁ deeper _ => ?_
    simp only [S.indent]
    refine Follows.bind (S.confined_translates h₁ (blocks_translates answers depth h₁ body))
      fun ⟨s₂, ns⟩ ⟨⟨h₂, grows, made⟩, _⟩ => ?_
    have holds : ∀ v, S.Holds s v → S.Holds s₂ v := fun v held => S.holds_grows grows (deeper v held)
    exact (S.finishCall_translates answers h₂ name (fun c same => holds _ (held c same))
      (hold.imp S holds) made place _).after S grows
  | .embed e layout => by
    rw [Recasting.block, block, block]
    refine Follows.bind (S.eval_follows h e) fun v held => ?_
    refine Follows.bind (f := S.nodes) (p := S.Made s)
      (.lift ?_ fun _ ok => (S.kind h).flatten held (locate_eq_ok.mp ok)) fun ns made => ?_
    · rw [Value.flatten_mapClosures, locate_map]
    · exact S.indented_translates h layout fun s₁ place h₁ _ deeper =>
        S.embed_translates h₁ (deeper ns made) place
  | .define signature body => by
    obtain ⟨same, sound, grows⟩ := S.define_moves h depth signature body
    rw [Recasting.block, block, block, same]
    exact Follows.ok (f := S.output) (a := (_, [])) ⟨sound, grows, (S.kind sound).nil⟩
  | .assign name e => by
    rw [Recasting.block, block, block]
    refine Follows.bind (S.eval_follows h e) fun v held => ?_
    obtain ⟨sound, grows⟩ := S.sound_push h (varSymbol name.name) held
    rw [S.push h]
    exact Follows.ok (f := S.output) (a := (_, [])) ⟨sound, grows, (S.kind sound).nil⟩
  | .context names => by
    rw [Recasting.block, block, block]
    refine Follows.bind (S.bindContext_moves h names) fun s₁ ⟨h₁, grows⟩ => ?_
    exact Follows.ok (f := S.output) (a := (s₁, [])) ⟨h₁, grows, (S.kind h₁).nil⟩
  | .importFrom path none span => by
    rw [Recasting.block, block, block]
    refine Follows.bind (f := id) (p := fun _ => True)
      (.lift (by simp) fun _ _ => trivial) fun symbols _ => ?_
    obtain ⟨same, sound, grows⟩ := S.pushAll_moves h symbols
    rw [id, same]
    exact Follows.ok (f := S.output) (a := (_, [])) ⟨sound, grows, (S.kind sound).nil⟩
  | .importFrom path (some items) span => by
    rw [Recasting.block, block, block]
    refine Follows.bind (S.bindItems_moves h path items) fun s₁ ⟨h₁, grows⟩ => ?_
    exact Follows.ok (f := S.output) (a := (s₁, [])) ⟨h₁, grows, (S.kind h₁).nil⟩
  | .branch condition thenBlocks elseBlocks => by
    rw [Recasting.block, block, block]
    refine Follows.bind (S.eval_follows h condition) fun v _ => ?_
    rw [Value.isTruthy_mapClosures]
    split
    · exact (S.confined_translates h (blocks_translates answers depth h thenBlocks)).imp
        fun _ after => after.1
    · exact (S.confined_translates h (blocks_translates answers depth h elseBlocks)).imp
        fun _ after => after.1
  | .loop name items body => by
    rw [Recasting.block, block, block]
    refine Follows.bind (S.eval_follows h items) fun v held => ?_
    cases v with
    | list values =>
      have kind := S.kind h
      obtain ⟨pushed, grows⟩ := S.sound_push h (varSymbol name.name) kind.inherits.none
      have first := S.push h (varSymbol name.name) .none
      simp only [Value.mapClosures_list, S.length h]
      rw [show Scoping.push (varSymbol name.name) .none (S.state s) = _ from first]
      refine Follows.bind (S.forEach_translates
        (fun s₁ h₁ => blocks_translates answers depth h₁ body) values
        (kind.inherits.list.mp held) pushed grows (S.length_push h _ _))
        fun ⟨s₁, ns⟩ ⟨⟨h₁, grows₁, made⟩, _⟩ => ?_
      refine Follows.bind (S.reset h h₁ grows₁) fun s₂ ⟨h₂, grows₂, _, kept⟩ => ?_
      exact Follows.ok (f := S.output) (a := (s₂, ns)) ⟨h₂, grows₂, kept ns made⟩
    | _ => exact .error _

theorem blocks_translates (answers : S.Answers call call') (depth : Nat) {s : σ} (h : S.Sound s) :
    ∀ bs : List Block, S.Translates s (blocks env call depth s bs)
      (blocks env call' depth (S.state s) (S.recast.blocks bs))
  | [] => by
    rw [S.stands.nil, blocks, blocks]
    exact Follows.ok (f := S.output) (a := (s, [])) ⟨h, S.refl h, (S.kind h).nil⟩
  | b :: bs => by
    rw [S.stands.cons, blocks, blocks]
    refine Follows.bind (block_translates answers depth h b) fun ⟨s₁, ns⟩ ⟨h₁, grows₁, made₁⟩ => ?_
    refine Follows.bind (blocks_translates answers depth h₁ bs)
      fun ⟨s₂, rest⟩ ⟨h₂, grows₂, made₂⟩ => ?_
    have joined : S.nodes ns ++ S.nodes rest = S.nodes (ns ++ rest) := by simp
    simp only [Prod.map, joined]
    exact Follows.ok (f := S.output) (a := (s₂, ns ++ rest))
      ⟨h₂, S.trans grows₁ grows₂, (S.kind h₂).append (S.made_grows grows₂ made₁) made₂⟩

end

end Simulation

end Translate

end MarkupTemplate

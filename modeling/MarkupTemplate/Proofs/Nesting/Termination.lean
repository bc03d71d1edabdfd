import MarkupTemplate.Proofs.Lexical.Calls
import MarkupTemplate.Proofs.Nesting.Unlimited
import MarkupTemplate.Proofs.Scoping.Refinement

/-!
# Ranked translations terminate

A capture terminates if every call of it that passes terminating captures of a lower rank ends. By
induction on the script, a definition over captures that terminate is captured as one more of them.
-/

namespace MarkupTemplate

open Translate

/-- Every call of a capture ends that passes captures of a lower rank which terminate themselves. -/
def Capture.Terminates [Host] (env : Env) (rank : Capture → Nat) (alarm : Stop) (c : Capture) : Prop :=
  ∀ s k, ArgsHold (fun a => ∃ _ : rank a < rank c, a.Terminates env rank alarm)
      k.positional k.named →
    Returns (· ≠ .callDepth) s (expandUnlimited env rank alarm s c k)
termination_by rank c
decreasing_by assumption

namespace Ends

variable {α : Type}

theorem of_except {p : α → Prop} {x : Except Error α} (holds : ∀ a, x = .ok a → p a) :
    Ends (· ≠ .callDepth) p (liftM x : Run α) :=
  .lift (fun _ _ => nofun) holds

theorem except (x : Except Error α) : Ends (· ≠ .callDepth) (fun _ => True) (liftM x : Run α) :=
  .of_except fun _ _ => trivial

end Ends

namespace Translate

variable [Host] {env : Env} {rank : Capture → Nat} {alarm : Stop} {s : Lexical}

omit [Host] in
theorem bindContext_terminates {P : Capture → Prop} (h : s.Holds P) (names : List Ident) :
    Ends (· ≠ .callDepth) (Lexical.Holds P) (bindContext env s names) := by
  induction names generalizing s with
  | nil => exact h
  | cons name rest ih =>
    unfold bindContext
    cases Dict.get? name.name env.context with
    | none =>
      intro stopped
      cases stopped
    | some v => exact ih (h.push _ (Value.holds_lift v))

omit [Host] in
theorem bindItems_terminates {P : Capture → Prop} (h : s.Holds P) (path : String)
    (items : List Ident) :
    Ends (· ≠ .callDepth) (Lexical.Holds P) (bindItems env path s items) := by
  induction items generalizing s with
  | nil => exact h
  | cons item rest ih =>
    unfold bindItems
    refine Ends.bind (.except _) fun v _ => ?_
    exact ih (h.push _ (Value.holds_lift v))

/-- A call of a terminating capture with terminating ones ends. -/
theorem call_terminates (raised : alarm ≠ .callDepth) {c : Capture} {k : Call Capture}
    (h : c.Terminates env rank alarm)
    (args : ArgsHold (Capture.Terminates env rank alarm) k.positional k.named) :
    Returns (· ≠ .callDepth) s (expandUnlimited env rank alarm s c k) := by
  by_cases below : k.below rank c = true
  · rw [Capture.Terminates] at h
    have lower := below_iff.mp below
    refine h s k ⟨fun v member a held => ?_, fun entry member a held => ?_⟩
    · exact ⟨lower.1 v member a held, args.1 v member a held⟩
    · exact ⟨lower.2 entry member a held, args.2 entry member a held⟩
  · rw [expandUnlimited_eq, guarded, if_neg below]
    exact raised

/-- A capture terminates if its body ends whatever is added to what it captured. -/
theorem terminates_of_body [Host.HandsOn] (raised : alarm ≠ .callDepth) {c : Capture}
    (captured : ∀ b ∈ c.bindings, b.2.Holds (Capture.Terminates env rank alarm))
    (body : ∀ s', s'.Holds (Capture.Terminates env rank alarm) →
      Ends (· ≠ .callDepth) (fun _ => True) (blocks env (expandUnlimited env rank alarm)
        (c.definition.depth + 1) s' c.definition.body)) :
    c.Terminates env rank alarm := by
  rw [Capture.Terminates]
  intro s k args
  rw [expandUnlimited_eq, guarded]
  split
  · refine invoke_returns (fun _ _ => nofun) captured (fun _ _ _ _ _ _ => nofun)
      (args.mono fun a ⟨_, terminates⟩ => terminates) fun s' added => body s' ?_
    exact Lexical.Holds.adds ⟨captured, Scope.withNewline_ne k.indent⟩ added
  · exact raised

mutual

theorem block_terminates [Host.HandsOn] (raised : alarm ≠ .callDepth) :
    ∀ (b : Block) (depth : Nat) (s : Lexical), s.Holds (Capture.Terminates env rank alarm) →
      Ends (· ≠ .callDepth) (fun o => o.1.Holds (Capture.Terminates env rank alarm))
        (block env (expandUnlimited env rank alarm) depth s b)
  | .text parts layout, depth, s, h => by
    unfold block
    refine Returns.keeps (indented_returns (fun _ _ => nofun) h.indent layout ?_) h
    intro indent place _
    exact text_returns (fun _ _ => nofun) place (.except _)
  | .call name args body layout, depth, s, h => by
    unfold block
    refine Ends.bind (.of_except fun target found c (same : target = .inr c) =>
      h.sees.called_holds (same ▸ found)) fun target terminates => ?_
    refine Ends.bind (.of_except fun o evaluated => h.sees.evalArgs_hold evaluated)
      fun ⟨vs, named⟩ held => ?_
    refine Returns.keeps (indented_returns (fun _ _ => nofun) h.indent layout ?_) h
    intro indent place nonempty
    have inside := blocks_terminate raised body depth _ (h.withIndent nonempty)
    refine Ends.bind (confined_returns inside) fun o same => ?_
    simp only [same]
    exact finishCall_returns (fun _ _ => nofun) fun c same =>
      call_terminates raised (terminates c same) held
  | .embed e layout, depth, s, h => by
    unfold block
    refine Ends.bind (.except _) fun v _ => Ends.bind (.except _) fun ns _ => ?_
    refine Returns.keeps (indented_returns (fun _ _ => nofun) h.indent layout ?_) h
    intro indent place _
    exact embed_returns (fun _ _ => nofun) ns place
  | .define signature body, depth, s, h => by
    unfold block
    have terminates : (Capture.mk ⟨signature, body, depth⟩ s.bindings).Terminates env rank alarm := by
      -- The body is a part of the script, whatever the capture is called with later.
      refine terminates_of_body raised h.held fun s' h' => ?_
      exact (blocks_terminate raised body (depth + 1) s' h').imp fun _ _ => trivial
    exact h.push (tagSymbol signature.name.name) (Value.holds_closure.mpr terminates)
  | .assign name e, depth, s, h => by
    unfold block
    refine Ends.bind (.of_except fun v evaluated => h.sees.eval_holds evaluated) fun v holds => ?_
    exact h.push (varSymbol name.name) holds
  | .context names, depth, s, h => by
    unfold block
    exact Ends.bind (bindContext_terminates h names) fun s' h' => h'
  | .importFrom path none span, depth, s, h => by
    unfold block
    exact Ends.bind (.except _) fun symbols _ => h.pushAll symbols
  | .importFrom path (some items) span, depth, s, h => by
    unfold block
    exact Ends.bind (bindItems_terminates h path items) fun s' h' => h'
  | .branch condition thenBlocks elseBlocks, depth, s, h => by
    unfold block
    refine Ends.bind (.except _) fun v _ => ?_
    split
    · exact Returns.keeps (confined_returns (blocks_terminate raised thenBlocks depth s h)) h
    · exact Returns.keeps (confined_returns (blocks_terminate raised elseBlocks depth s h)) h
  | .loop name items body, depth, s, h => by
    unfold block
    refine Ends.bind (.of_except fun v evaluated => h.sees.eval_holds evaluated) fun v holds => ?_
    split
    · next values =>
      have iterations : ∀ w ∈ values, Ends (· ≠ .callDepth)
          (fun o => o.1.Holds (Capture.Terminates env rank alarm))
          (blocks env (expandUnlimited env rank alarm) depth
            (Scoping.push (varSymbol name.name) w s) body) := by
        intro w member
        have held := Value.holds_list.mp holds w member
        exact blocks_terminate raised body depth _ (h.push (varSymbol name.name) held)
      exact Ends.bind (forEach_ends (varSymbol name.name) .none values iterations) fun o _ => h
    · exact nofun

theorem blocks_terminate [Host.HandsOn] (raised : alarm ≠ .callDepth) :
    ∀ (bs : List Block) (depth : Nat) (s : Lexical), s.Holds (Capture.Terminates env rank alarm) →
      Ends (· ≠ .callDepth) (fun o => o.1.Holds (Capture.Terminates env rank alarm))
        (blocks env (expandUnlimited env rank alarm) depth s bs)
  | [], depth, s, h => by
    unfold blocks
    exact h
  | b :: bs, depth, s, h => by
    unfold blocks
    refine Ends.bind (block_terminates raised b depth s h) fun ⟨s₁, ns⟩ h₁ => ?_
    exact Ends.bind (blocks_terminate raised bs depth s₁ h₁) fun ⟨s₂, more⟩ h₂ => h₂

end

end Translate

/-! ### Templates -/

namespace Template

/-- The template with another limit on calls inside each other. -/
def withCallLimit (limit : Nat) (t : Template) : Template :=
  { t with engine := { t.engine with callLimit := limit } }

section Hosted

variable [Host]

/-- Translates the template with lexical scoping, with at most `limit` calls inside each other, as
long as they pass captures of a lower rank only. -/
def translateRanked (rank : Capture → Nat) (alarm : Stop) (limit : Nat) (t : Template)
    (context : Dict (Value Empty)) : Run (Document Capture) :=
  scriptWith (t.env context) (expandRanked (t.env context) rank alarm limit) Lexical.start
    t.script.blocks

/-- However far the translation is followed, every call passes captures of a lower rank than that of
the one it calls, so that no alarm is raised. -/
def PassesLower (rank : Capture → Nat) (t : Template) (context : Dict (Value Empty)) : Prop :=
  ∀ alarm limit, t.translateRanked rank alarm limit context =
    (t.withCallLimit limit).translateLexically context

variable {t : Template} {context : Dict (Value Empty)}

/-- A template passes lower captures only if it is translated once without an alarm. With a lower limit
no alarm is raised either, and with a higher one nothing changes. -/
theorem passesLower_of_ok {rank : Capture → Nat} {alarm : Stop} (raised : alarm ≠ .callDepth)
    {limit : Nat} {d : Document Capture}
    (translated : t.translateRanked rank alarm limit context = .ok d) : t.PassesLower rank context := by
  have goes : t.translateRanked rank alarm limit context ≠ .error .callDepth := by
    rw [translated]
    nofun
  have same {limit limit' : Nat} (le : limit ≤ limit') :
      SameUnless .callDepth (t.translateRanked rank alarm limit context)
        (t.translateRanked rank alarm limit' context) :=
    scriptWith_composes (SameUnless.composes .callDepth) (pair _ _) (expandRanked_same le) _ _
  have silent (other : Nat) : t.translateRanked rank alarm other context ≠ .error alarm := by
    intro stopped
    rcases Nat.le_total limit other with more | less
    · rw [(same more).eq goes, translated] at stopped
      cases stopped
    · have later := (same less).eq fun deep => raised (Except.error.inj (stopped.symm.trans deep))
      rw [translated, stopped] at later
      cases later
  intro alarm' other
  have lexically : SameUnless alarm (t.translateRanked rank alarm other context)
      ((t.withCallLimit other).translateLexically context) :=
    scriptWith_composes (SameUnless.composes alarm) (pair _ _) (expandRanked_expand other) _ _
  have alarms : Alarms _ fun alarm => t.translateRanked rank alarm other context :=
    scriptWith_composes Alarms.composes _ (expandRanked_alarms other) _ _
  rw [lexically.eq (silent other)]
  exact alarms.resolve_left (fun all => silent other (all alarm)) alarm' alarm

variable [Host.HandsOn]

theorem exists_translateRanked (rank : Capture → Nat) {alarm : Stop} (raised : alarm ≠ .callDepth)
    (t : Template) (context : Dict (Value Empty)) :
    ∃ limit, t.translateRanked rank alarm limit context ≠ .error .callDepth := by
  have goes : Ends (· ≠ .callDepth) (fun _ => True) (scriptWith (t.env context)
      (expandUnlimited (t.env context) rank alarm) Lexical.start t.script.blocks) := by
    unfold scriptWith
    refine Ends.bind (.except _) fun symbols _ => ?_
    have start : Lexical.start.Holds (Capture.Terminates (t.env context) rank alarm) :=
      ⟨nofun, nofun⟩
    refine Ends.bind (blocks_terminate raised _ _ _ (start.pushAll symbols)) fun o _ => ?_
    exact .except _
  obtain ⟨limit, settled⟩ := scriptWith_composes Settles.composes
    (expandUpTo (t.env context) rank alarm) expandUpTo_settles Lexical.start t.script.blocks
  refine ⟨limit, fun stopped => goes.allowed_of_error ?_ rfl⟩
  exact (settled limit (Nat.le_refl limit)).symm.trans stopped

/-- If captures can be ranked so that every call passes captures of a lower rank than that of the one
it calls, the translation terminates: calls are inside each other up to some limit, and beyond it no
limit matters. -/
theorem translate_terminates {rank : Capture → Nat} {t : Template} {context : Dict (Value Empty)}
    (ranked : t.PassesLower rank context) :
    ∃ limit, (t.withCallLimit limit).translate context ≠ .error .callDepth ∧
      ∀ more, limit ≤ more →
        (t.withCallLimit more).translate context = (t.withCallLimit limit).translate context := by
  have raised : Stop.splitCharacter ≠ .callDepth := nofun
  obtain ⟨limit, goes⟩ := exists_translateRanked rank raised t context
  have lexically : (t.withCallLimit limit).translate context ≠ .error .callDepth := by
    rw [ranked .splitCharacter limit] at goes
    exact fun stopped => goes ((translate_eq_error _ context).mp stopped)
  refine ⟨limit, lexically, fun more le => ?_⟩
  exact (script_same le (.start : Translate.State Closure) t.script.blocks).eq lexically

end Hosted

/-- A list is passed to a definition together with a later definition for its items. -/
def laterDefinition : List Block :=
  [.define ⟨⟨"each", {}⟩, [⟨⟨"items", {}⟩, none⟩, ⟨⟨"tag", {}⟩, none⟩], none, some 2⟩
      [.loop ⟨"i", {}⟩ (.var ⟨"items", {}⟩ [])
        [.call ⟨"tag", {}⟩ [.positional (.var ⟨"i", {}⟩ [])] [] {}]],
    .define ⟨⟨"li", {}⟩, [⟨⟨"x", {}⟩, none⟩], none, some 2⟩
      [.text [.raw "-", .expr (.var ⟨"x", {}⟩ [])] {}],
    .call ⟨"each", {}⟩ [.positional (.list [.literal (.string "a") {}, .literal (.string "b") {}]),
      .positional (.tagRef ⟨"li", {}⟩)] [] {}]

theorem translate_terminates_laterDefinition :
    letI := Host.passing
    let t : Template := ⟨{ modules := .ofRegistry [] }, "", laterDefinition, some 1⟩
    let rank : Capture → Nat := (·.definition.signature.params.length)
    t.PassesLower rank [] ∧
      ∃ limit, (t.withCallLimit limit).translate [] ≠ .error .callDepth ∧
        ∀ more, limit ≤ more →
          (t.withCallLimit more).translate [] = (t.withCallLimit limit).translate [] := by
  let := Host.passing
  have := Host.handsOn_passing
  intro t rank
  have translated : t.translateRanked rank .splitCharacter 2 [] = .ok ⟨[.text "-a", .text "-b"]⟩ := by
    simp only [t, rank]
    rfl
  have raised : Stop.splitCharacter ≠ .callDepth := nofun
  have ranked : t.PassesLower rank [] := passesLower_of_ok raised translated
  exact ⟨ranked, translate_terminates ranked⟩

end Template

/-! ### Self-application -/

namespace Translate

/-- A definition that calls its argument with that argument. -/
def selfApplying (readDepth : Option Nat) : Definition where
  signature := ⟨⟨"f", {}⟩, [⟨⟨"x", {}⟩, none⟩], none, readDepth⟩
  body := [.call ⟨"x", {}⟩ [.positional (.var ⟨"x", {}⟩ [])] [] {}]
  depth := 1

/-- A definition that calls its argument with that argument is called with itself. -/
def selfApplication (readDepth : Option Nat) : List Block :=
  [.define (selfApplying readDepth).signature (selfApplying readDepth).body,
    .call ⟨"f", {}⟩ [.positional (.tagRef ⟨"f", {}⟩)] [] {}]

/-- The capture is called with itself. -/
def selfCall (c : Capture) (indent : String) : Call Capture :=
  { positional := [.closure c], named := [], body := [], indent, span := {} }

variable [Host] {env : Env}

theorem expand_selfCall {readDepth : Option Nat} {bindings : List (String × Value Capture)}
    (free : lastBinding? "%x" bindings = none) (limit : Nat) (s : Lexical) (indent : String) :
    let c : Capture := .mk (selfApplying readDepth) bindings
    expand env limit s c (selfCall c indent) = .error .callDepth := by
  intro c
  induction limit generalizing s indent with
  | zero => rfl
  | succ limit ih =>
    let inside : Lexical := ⟨bindings ++ [("$x", .closure c)], Scope.withNewline indent⟩
    have tag : Scoping.find? (tagSymbol "x") inside = none :=
      (lastBinding?_append "%x" "$x" _ bindings).trans free
    have var : Scoping.find? (varSymbol "x") inside = some (bindings.length, .closure c) :=
      lastBinding?_append "$x" "$x" _ bindings
    have target : called env inside ⟨"x", {}⟩ = .ok (.inr c) := by
      simp only [called, tag, var, called.callable?]
    have value : eval env inside (.var ⟨"x", {}⟩ []) = .ok (.closure c) := by
      simp only [eval, Expr.eval, valueOf, value?, var, Option.map_some, Value.follow]
      rfl
    have stops : finishCall env (expand env limit) inside ⟨"x", {}⟩ (.inr c) [.closure c] [] [] none
        inside.indent = .error .callDepth := by
      change (expand env limit inside c (selfCall c inside.indent) >>= _) = _
      rw [ih, error_bind]
    change (blocks env (expand env limit) 2 inside (selfApplying readDepth).body >>= _) = _
    have body : block env (expand env limit) 2 inside
        (.call ⟨"x", {}⟩ [.positional (.var ⟨"x", {}⟩ [])] [] {}) = .error .callDepth := by
      simp only [block, target, evalArgs, value]
      exact stops
    simp only [selfApplying, blocks, body]
    rfl

theorem script_selfApplication {readDepth : Option Nat} {symbols : Dict (Value Empty)}
    (found : env.modules.initialSymbols = .ok symbols)
    (tag : Scoping.find? "%x" (pushAll Lexical.start symbols) = none)
    (var : Scoping.find? "$f" (pushAll Lexical.start symbols) = none) (limit : Nat) :
    script env limit Lexical.start (selfApplication readDepth) = .error .callDepth := by
  let outside := pushAll Lexical.start symbols
  let c : Capture := .mk (selfApplying readDepth) outside.bindings
  let s : Lexical := ⟨outside.bindings ++ [("%f", .closure c)], outside.indent⟩
  have tag' : Scoping.find? (tagSymbol "f") s = some (outside.bindings.length, .closure c) :=
    lastBinding?_append "%f" "%f" _ outside.bindings
  have var' : Scoping.find? (varSymbol "f") s = none :=
    (lastBinding?_append "$f" "%f" _ outside.bindings).trans var
  have target : called env s ⟨"f", {}⟩ = .ok (.inr c) := by
    simp only [called, tag', var', called.callable?]
  have value : eval env s (.tagRef ⟨"f", {}⟩) = .ok (.closure c) := by
    simp only [eval, Expr.eval, valueOf, value?, tag', Option.map_some]
    rfl
  have stops : finishCall env (expand env limit) s ⟨"f", {}⟩ (.inr c) [.closure c] [] [] none
      s.indent = .error .callDepth := by
    change (expand env limit s c (selfCall c s.indent) >>= _) = _
    rw [expand_selfCall tag, error_bind]
  have call : block env (expand env limit) 1 s
      (.call ⟨"f", {}⟩ [.positional (.tagRef ⟨"f", {}⟩)] [] {}) = .error .callDepth := by
    simp only [block, target, evalArgs, value]
    exact stops
  have body : blocks env (expand env limit) 1 outside (selfApplication readDepth) =
      .error .callDepth := by
    change (blocks env (expand env limit) 1 s
      [.call ⟨"f", {}⟩ [.positional (.tagRef ⟨"f", {}⟩)] [] {}] >>= _) = _
    simp only [blocks, call]
    rfl
  unfold script scriptWith
  rw [found]
  change (blocks env (expand env limit) 1 outside (selfApplication readDepth) >>= _) = _
  rw [body, error_bind]

end Translate

namespace Template

theorem selfApplication_diverges :
    letI := Host.passing
    let engine : Engine := { modules := .ofRegistry [] }
    let t : Template := ⟨engine, "", selfApplication (some 2), some 1⟩
    engine.compile ⟨"", selfApplication none⟩ = .ok t ∧
      ∀ limit, (t.withCallLimit limit).translate [] = .error .callDepth := by
  let := Host.passing
  have := Host.handsOn_passing
  intro engine t
  have compiled : engine.compile ⟨"", selfApplication none⟩ = .ok t := by
    rw [Engine.compile, Script.resolve_eq_resolveDeclared]
    rfl
  refine ⟨compiled, fun limit => ?_⟩
  have clear : (do
      let symbols ← engine.modules.initialSymbols
      let s := pushAll Lexical.start symbols
      .ok ((Scoping.find? "%x" s).isNone && (Scoping.find? "$f" s).isNone)) = .ok true := rfl
  obtain ⟨symbols, found, clear⟩ := bind_eq_ok.mp clear
  obtain ⟨tag, var⟩ := Bool.and_eq_true_iff.mp (Except.ok.inj clear)
  rw [translate_eq_error]
  exact script_selfApplication found (Option.isNone_iff_eq_none.mp tag)
    (Option.isNone_iff_eq_none.mp var) limit

end Template

end MarkupTemplate

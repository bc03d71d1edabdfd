import Mathlib.Logic.Relation
import MarkupTemplate.Proofs.Result
import MarkupTemplate.Script.Translate

/-!
# Stages of a translation

The blocks, texts and calls that a translation comes to, each with the state that it finds there. One
stage leads to another if translating the one gets as far as the other; so a translation fails with
whatever a stage that it comes to fails with.
-/

namespace MarkupTemplate

namespace Translate

open Scoping

/-- Something that a translation comes to, with at most `limit` calls inside each other from there. -/
inductive Stage (σ κ : Type) where
  | blocks (limit depth : Nat) (s : σ) (bs : List Block)
  | text (s : σ) (parts : List Part)
  | call (limit : Nat) (s : σ) (c : κ) (call : Call κ)
  /-- A call with its parameters bound, and its body to be bound next. -/
  | entered (limit : Nat) (s : σ) (c : κ) (call : Call κ)

variable {σ κ μ : Type} [Scoping σ κ μ]

/-- The state in which a block with some layout makes its nodes, and the absolute indentation if it
starts on a line of its own. -/
def opened (s : σ) (layout : Layout) : Except Error (σ × Option String) :=
  if !layout.outline then .ok (s, none)
  else
    match layout.indent.toList.find? (!Text.isIndentChar ·) with
    | some c => fail (.indentNotBlank c)
    | none =>
      let s := layout.indent.toList.foldl (fun s c => indentBy c s) s
      .ok (s, some (indent s))

variable [Host] [Defined κ] {env : Env} {s s' s'' : σ}

/-- Translating the one stage gets as far as the other. -/
inductive Leads (env : Env) : Stage σ κ → Stage σ κ → Prop
  | next {limit depth : Nat} {s s' : σ} {b : Block} {bs : List Block} {nodes : List (Node κ)}
      (done : block env (expand env limit) depth s b = .ok (s', nodes)) :
      Leads env (.blocks limit depth s (b :: bs)) (.blocks limit depth s' bs)
  | text {limit depth : Nat} {s s' : σ} {parts : List Part} {layout : Layout} {bs : List Block}
      {place : Option String} (opens : opened s layout = .ok (s', place)) :
      Leads env (.blocks limit depth s (.text parts layout :: bs)) (.text s' parts)
  | body {limit depth : Nat} {s s' : σ} {name : Ident} {args : List Arg} {body bs : List Block}
      {layout : Layout} {target : Tag ⊕ κ} {vs : List (Value κ)} {named : List (String × Value κ)}
      {place : Option String} (calls : called env s name = .ok target)
      (passes : evalArgs env s args = .ok (vs, named)) (opens : opened s layout = .ok (s', place)) :
      Leads env (.blocks limit depth s (.call name args body layout :: bs))
        (.blocks limit depth s' body)
  | call {limit depth : Nat} {s s' s'' : σ} {name : Ident} {args : List Arg} {body bs : List Block}
      {layout : Layout} {c : κ} {vs : List (Value κ)} {named : List (String × Value κ)}
      {place : Option String} {nodes : List (Node κ)} (calls : called env s name = .ok (.inr c))
      (passes : evalArgs env s args = .ok (vs, named)) (opens : opened s layout = .ok (s', place))
      (done : confined s' (fun s => blocks env (expand env limit) depth s body) = .ok (s'', nodes)) :
      Leads env (.blocks limit depth s (.call name args body layout :: bs))
        (.call limit s'' c ⟨vs, named, nodes, place.getD (indent s'), name.span⟩)
  | branch {limit depth : Nat} {s : σ} {condition : Expr} {thenBlocks elseBlocks bs : List Block}
      {v : Value κ} (tests : eval env s condition = .ok v) :
      Leads env (.blocks limit depth s (.branch condition thenBlocks elseBlocks :: bs))
        (.blocks limit depth s (if v.isTruthy then thenBlocks else elseBlocks))
  | loop {limit depth : Nat} {s s' s'' : σ} {name : Ident} {items : Expr} {body bs : List Block}
      {earlier later : List (Value κ)} {v : Value κ} {nodes : List (Node κ)}
      (ranges : eval env s items = .ok (.list (earlier ++ v :: later)))
      (done : forEach (length s) (fun s => blocks env (expand env limit) depth s body)
        (push (varSymbol name.name) .none s) earlier = .ok (s', nodes))
      (binds : Scoping.set (length s) v s' = .ok s'') :
      Leads env (.blocks limit depth s (.loop name items body :: bs)) (.blocks limit depth s'' body)
  | enter {limit : Nat} {s s' s'' : σ} {c : κ} {call : Call κ}
      {slots : List (Param × Option (Value κ))}
      (accepts : call.arguments (Defined.definition c).signature = .ok slots)
      (enters : Scoping.enter c call.indent s = .ok s')
      (binds : bindParams env c call.span s' 0 slots = .ok s'') :
      Leads env (.call (limit + 1) s c call) (.entered limit s'' c call)
  | run {limit : Nat} {s s' : σ} {c : κ} {call : Call κ}
      (binds : bindBody s call (Defined.definition c).signature.bodyParam = .ok s') :
      Leads env (.entered limit s c call)
        (.blocks limit ((Defined.definition c).depth + 1) s' (Defined.definition c).body)

/-- A translation that has come to the one stage comes to the other. -/
abbrev Reaches (env : Env) : Stage σ κ → Stage σ κ → Prop := Relation.ReflTransGen (Leads env)

/-! ### Failing on the way -/

/-- Translating the stage stops in some way. -/
def Stage.Stops (env : Env) (stop : Stop) : Stage σ κ → Prop
  | .blocks limit depth s bs => Translate.blocks env (expand env limit) depth s bs = .error stop
  | .text s parts => (liftM (writeParts env s parts) : Run String) = .error stop
  | .call limit s c k => expand env limit s c k = .error stop
  | .entered limit s c k => (do
      let s ← bindBody s k (Defined.definition c).signature.bodyParam
      Translate.blocks env (expand env limit) ((Defined.definition c).depth + 1) s
        (Defined.definition c).body) = .error stop

omit [Host] [Defined κ] in
theorem confined_stops {run : σ → Run (Output σ κ)} {stop : Stop} (fails : run s = .error stop) :
    confined s run = .error stop := by
  rw [confined, fails]
  rfl

omit [Host] [Defined κ] in
theorem indented_stops {layout : Layout} {run : σ → Option String → Run (Output σ κ)}
    {place : Option String} (opens : opened s layout = .ok (s', place)) {stop : Stop}
    (fails : run s' place = .error stop) : indented s layout run = .error stop := by
  unfold opened at opens
  unfold indented
  cases outline : layout.outline with
  | false =>
    rw [outline] at opens
    obtain ⟨rfl, rfl⟩ := Prod.mk.inj (Except.ok.inj opens)
    exact fails
  | true =>
    rw [outline] at opens
    cases blank : layout.indent.toList.find? (!Text.isIndentChar ·) with
    | some c =>
      rw [blank] at opens
      cases opens
    | none =>
      rw [blank] at opens
      obtain ⟨rfl, rfl⟩ := Prod.mk.inj (Except.ok.inj opens)
      exact congrArg (· >>= _) fails

omit [Host] [Defined κ] in
theorem forEach_stops {run : σ → Run (Output σ κ)} {index : Nat} {earlier later : List (Value κ)}
    {v : Value κ} {nodes : List (Node κ)} {stop : Stop}
    (done : forEach index run s earlier = .ok (s', nodes))
    (binds : Scoping.set index v s' = .ok s'') (fails : run s'' = .error stop) :
    forEach index run s (earlier ++ v :: later) = .error stop := by
  induction earlier generalizing s nodes with
  | nil =>
    obtain ⟨rfl, rfl⟩ := Prod.mk.inj (Except.ok.inj done)
    rw [List.nil_append, forEach, binds]
    change confined s'' run >>= _ = _
    rw [confined_stops fails]
    rfl
  | cons w ws ih =>
    obtain ⟨s₁, set, done⟩ := bind_eq_ok.mp done
    obtain ⟨⟨s₂, these⟩, first, done⟩ := bind_eq_ok.mp done
    obtain ⟨⟨s₃, those⟩, rest, done⟩ := bind_eq_ok.mp done
    obtain ⟨rfl, -⟩ := Prod.mk.inj (Except.ok.inj done)
    rw [List.cons_append, forEach, set, ok_bind, first, ok_bind]
    dsimp only
    rw [ih rest, error_bind]

/-- What a stage that is led to fails with is what the stage before it fails with. -/
theorem Leads.stops {stage stage' : Stage σ κ} (leads : Leads env stage stage') {stop : Stop}
    (fails : stage'.Stops env stop) : stage.Stops env stop := by
  have first : ∀ {limit depth : Nat} {s : σ} {b : Block} {bs : List Block},
      block env (expand env limit) depth s b = .error stop →
      (Stage.blocks limit depth s (b :: bs) : Stage σ κ).Stops env stop := by
    intro limit depth s b bs fails
    rw [Stage.Stops, blocks, fails]
    rfl
  cases leads with
  | next done =>
    change Translate.blocks _ _ _ _ _ = _ at fails
    simp only [Stage.Stops, blocks, done, ok_bind, fails, error_bind]
  | text opens =>
    refine first ?_
    change liftM (writeParts _ _ _) = _ at fails
    rw [block]
    refine indented_stops opens ?_
    rw [Translate.text, fails, error_bind]
  | body calls passes opens =>
    refine first ?_
    simp only [block, calls, passes, lift_eq_ofExcept, ofExcept_ok, ok_bind]
    refine indented_stops opens ?_
    have inner : confined _ (fun s => blocks env (expand env _) _ s _) = .error stop :=
      confined_stops fails
    simp only [inner, error_bind]
  | call calls passes opens done =>
    refine first ?_
    change expand _ _ _ _ _ = _ at fails
    simp only [block, calls, passes, lift_eq_ofExcept, ofExcept_ok, ok_bind]
    refine indented_stops opens ?_
    simp only [done, ok_bind, finishCall, fails, error_bind]
  | branch tests =>
    refine first ?_
    change Translate.blocks _ _ _ _ _ = _ at fails
    simp only [block, tests, lift_eq_ofExcept, ofExcept_ok, ok_bind]
    split
    · next holds => exact confined_stops (by rwa [if_pos holds] at fails)
    · next holds => exact confined_stops (by rwa [if_neg holds] at fails)
  | loop ranges done binds =>
    refine first ?_
    simp only [block, ranges, lift_eq_ofExcept, ofExcept_ok, ok_bind]
    rw [forEach_stops done binds fails, error_bind]
  | enter accepts enters binds =>
    change invoke _ _ _ _ _ = _
    simp only [invoke, accepts, mapError_ok, locate, enters, binds, lift_eq_ofExcept,
      ofExcept_ok, ok_bind]
    rcases bind_eq_error.mp fails with failed | ⟨s, bound, failed⟩
    · rw [failed, error_bind]
    · rw [bound, ok_bind, failed, error_bind]
  | run binds =>
    simp only [Stage.Stops, binds, ok_bind]
    exact fails

theorem Reaches.stops {stage stage' : Stage σ κ} (reaches : Reaches env stage stage') {stop : Stop}
    (fails : stage'.Stops env stop) : stage.Stops env stop := by
  induction reaches with
  | refl => exact fails
  | tail _ leads ih => exact ih (leads.stops fails)

end Translate

end MarkupTemplate

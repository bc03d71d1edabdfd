import MarkupTemplate.Proofs.Placement.Stages
import MarkupTemplate.Proofs.Simulation.Calls

/-!
# Stages in simulations

Whatever a translation comes to on the states that a simulation reads, the translation here comes to as
well, and its states are sound there.
-/

namespace MarkupTemplate

namespace Translate

variable {σ σ' κ κ' μ μ' : Type} [Host] [Defined κ] [Defined κ'] [Scoping σ κ μ] [Scoping σ' κ' μ']
  {env : Env} (S : Simulation env.source σ σ') {s : σ}

namespace Simulation

/-- A stage with a sound state, and with closures, values and nodes of its kind. -/
def SoundAt : Stage σ κ → Prop
  | .blocks _ _ s _ | .text s _ => S.Sound s
  | .call _ s c k | .entered _ s c k => S.Sound s ∧ S.Holds s (.closure c) ∧
      S.ArgsHold s k.positional k.named ∧ S.Made s k.body

/-- The stage as it is read. -/
def stage : Stage σ κ → Stage σ' κ'
  | .blocks limit depth s bs => .blocks limit depth (S.state s) bs
  | .text s parts => .text (S.state s) parts
  | .call limit s c k => .call limit (S.state s) (S.closure c) (k.mapClosures S.closure)
  | .entered limit s c k => .entered limit (S.state s) (S.closure c) (k.mapClosures S.closure)

/-- A state in which a block makes its nodes. -/
theorem opened_follows (h : S.Sound s) (layout : Layout) :
    Follows (Prod.map S.state id) (fun o => S.Sound o.1 ∧
        (∀ v, S.Holds s v → S.Holds o.1 v) ∧ ∀ ns, S.Made s ns → S.Made o.1 ns)
      (liftM (opened s layout)) (liftM (opened (S.state s) layout)) := by
  unfold opened
  split
  · exact .ok (f := Prod.map S.state id) (a := (s, none)) ⟨h, fun _ => id, fun _ => id⟩
  · split
    · exact .error _
    · obtain ⟨same, after⟩ := S.indentBy_moves h layout.indent.toList
      simp only [same, S.indent]
      exact .ok (f := Prod.map S.state id) (a := (_, some _)) after

section Reading

variable {t t' : σ'} {limit depth : Nat} {layout : Layout} {place : Option String}

theorem of_opened (h : S.Sound s) (opens : opened (S.state s) layout = .ok (t, place)) :
    ∃ s', S.Sound s' ∧ (∀ v, S.Holds s v → S.Holds s' v) ∧ S.state s' = t := by
  obtain ⟨⟨s', _⟩, ⟨h', holds, -⟩, same⟩ :=
    (S.opened_follows h layout).of_ok (ofExcept_eq_ok.mpr opens)
  exact ⟨s', h', holds, congrArg Prod.fst same⟩

variable (unchanged : S.recast = .none)

include unchanged

/-- Blocks are translated as they are. -/
theorem blocks_follow (h : S.Sound s) (bs : List Block) :
    S.Translates s (blocks env (expand env limit) depth s bs)
      (blocks env (expand env limit) depth (S.state s) bs) := by
  have follows := S.blocks_translates (S.expand_answers limit) depth h bs
  rwa [unchanged] at follows

/-- The state, the closure and the arguments with which a block calls a closure. -/
theorem of_call (h : S.Sound s) {name : Ident} {args : List Arg} {body : List Block} {c' : κ'}
    {vs : List (Value κ')} {named : List (String × Value κ')} {ns : List (Node κ')}
    (calls : called env (S.state s) name = .ok (.inr c'))
    (passes : evalArgs env (S.state s) args = .ok (vs, named))
    (opens : opened (S.state s) layout = .ok (t, place))
    (done : confined t (fun s => blocks env (expand env limit) depth s body) = .ok (t', ns)) :
    ∃ s' c k, S.SoundAt (.call limit s' c k) ∧ S.state s' = t' ∧ S.closure c = c' ∧
      k.mapClosures S.closure = ⟨vs, named, ns, place.getD (Scoping.indent t), name.span⟩ := by
  obtain ⟨target, held, called⟩ := (S.called_follows h name).of_ok (ofExcept_eq_ok.mpr calls)
  obtain ⟨⟨vs, named⟩, hold, passed⟩ := (S.evalArgs_follows h args).of_ok (ofExcept_eq_ok.mpr passes)
  obtain ⟨rfl, rfl⟩ := Prod.mk.inj passed
  obtain ⟨s₁, h₁, deeper, rfl⟩ := S.of_opened h opens
  have inner : Follows S.output _ (confined s₁ fun s => blocks env (expand env limit) depth s body)
      (confined (S.state s₁) fun s => blocks env (expand env limit) depth s body) :=
    S.confined_translates h₁ (S.blocks_follow unchanged h₁ body)
  obtain ⟨⟨s₂, ns⟩, ⟨⟨h₂, grows, made⟩, -⟩, same⟩ := inner.of_ok done
  obtain ⟨rfl, rfl⟩ := Prod.mk.inj same
  cases target with
  | inl tag => cases called
  | inr c =>
    have holds : ∀ v, S.Holds s v → S.Holds s₂ v :=
      fun v held => S.holds_grows grows (deeper v held)
    refine ⟨s₂, c, ⟨vs, named, ns, place.getD (Scoping.indent s₁), name.span⟩,
      ⟨h₂, holds _ (held c rfl), hold.imp S holds, made⟩, rfl, Sum.inr.inj called, ?_⟩
    simp only [Call.mapClosures, S.indent]

/-- The state in which a loop translates its body for one of the items. -/
theorem of_loop (h : S.Sound s) {name : Ident} {items : Expr} {body : List Block}
    {earlier later : List (Value κ')} {v : Value κ'} {ns : List (Node κ')}
    (ranges : eval env (S.state s) items = .ok (.list (earlier ++ v :: later)))
    (done : forEach (Scoping.length (S.state s))
      (fun s => blocks env (expand env limit) depth s body)
      (Scoping.push (varSymbol name.name) .none (S.state s)) earlier = .ok (t, ns))
    (binds : Scoping.set (Scoping.length (S.state s)) v t = .ok t') :
    ∃ s', S.Sound s' ∧ S.state s' = t' := by
  obtain ⟨w, held, listed⟩ := (S.eval_follows h items).of_ok (ofExcept_eq_ok.mpr ranges)
  cases w with
  | list ws =>
    have kind := S.kind h
    simp only [Simulation.value, Value.mapClosures_list] at listed
    obtain ⟨earlier, rest, rfl, rfl, split⟩ := List.map_eq_append_iff.mp (Value.list.inj listed)
    obtain ⟨u, later, rfl, rfl, rfl⟩ := List.map_eq_cons_iff.mp split
    obtain ⟨before, here⟩ := List.forall_mem_append.mp (kind.inherits.list.mp held)
    obtain ⟨pushed, grows⟩ := S.sound_push h (varSymbol name.name) kind.inherits.none
    have first := S.push h (varSymbol name.name) .none
    rw [S.length h, show Scoping.push (varSymbol name.name) .none (S.state s) = _ from first] at done
    obtain ⟨⟨s₁, ns⟩, ⟨⟨h₁, grows₁, -⟩, length, -⟩, same⟩ := (S.forEach_translates
      (fun s₁ h₁ => S.blocks_follow unchanged h₁ body) earlier before pushed grows
      (S.length_push h _ _)).of_ok done
    obtain ⟨rfl, rfl⟩ := Prod.mk.inj same
    rw [S.length h] at binds
    obtain ⟨s₂, ⟨h₂, -⟩, same⟩ :=
      (S.set h₁ grows₁ length (here u List.mem_cons_self)).of_ok (ofExcept_eq_ok.mpr binds)
    exact ⟨s₂, h₂, same⟩
  | _ => cases listed

end Reading

variable (unchanged : S.recast = .none)

include unchanged

/-- What a stage leads to as it is read is a stage as it is read. -/
theorem leads (stage : Stage σ κ) (sound : S.SoundAt stage) {stage' : Stage σ' κ'}
    (leads : Leads env (S.stage stage) stage') : ∃ next, S.SoundAt next ∧ S.stage next = stage' := by
  have definition (c : κ) : Defined.definition (S.closure c) = Defined.definition c := by
    rw [S.definition, unchanged]
    rfl
  cases stage with
  | text s parts => cases leads
  | blocks limit depth s bs =>
    have h : S.Sound s := sound
    change Leads env (.blocks limit depth (S.state s) bs) stage' at leads
    cases leads with
    | @next _ _ _ _ b bs _ done =>
      have follows := S.block_translates (S.expand_answers limit) depth h b
      have same : S.recast.block b = b := by
        rw [unchanged]
        cases b <;> rfl
      rw [same] at follows
      obtain ⟨⟨s', ns⟩, ⟨h', -⟩, same⟩ := follows.of_ok done
      obtain ⟨rfl, rfl⟩ := Prod.mk.inj same
      exact ⟨.blocks limit depth s' _, h', rfl⟩
    | text opens =>
      obtain ⟨s', h', -, rfl⟩ := S.of_opened h opens
      exact ⟨.text s' _, h', rfl⟩
    | body calls passes opens =>
      obtain ⟨s', h', -, rfl⟩ := S.of_opened h opens
      exact ⟨.blocks limit depth s' _, h', rfl⟩
    | call calls passes opens done =>
      obtain ⟨s', c, k, sound, rfl, rfl, same⟩ := S.of_call unchanged h calls passes opens done
      exact ⟨.call limit s' c k, sound, congrArg (Stage.call limit (S.state s') (S.closure c)) same⟩
    | branch tests =>
      obtain ⟨v, -, rfl⟩ := (S.eval_follows h _).of_ok (ofExcept_eq_ok.mpr tests)
      rw [Value.isTruthy_mapClosures]
      exact ⟨.blocks limit depth s _, h, rfl⟩
    | loop ranges done binds =>
      obtain ⟨s', h', rfl⟩ := S.of_loop unchanged h ranges done binds
      exact ⟨.blocks limit depth s' _, h', rfl⟩
  | call limit s c k =>
    obtain ⟨h, held, hold, made⟩ := sound
    change Leads env (.call limit (S.state s) (S.closure c) (k.mapClosures S.closure)) stage' at leads
    cases leads with
    | @enter limit _ _ _ _ _ _ accepts enters binds =>
      rw [definition, Call.arguments_mapClosures] at accepts
      obtain ⟨slots, accepted, rfl⟩ := map_eq_ok.mp accepts
      obtain ⟨params, filled⟩ := Call.arguments_inherit hold.1 hold.2 accepted
      obtain ⟨s₁, ⟨h₁, entered⟩, rfl⟩ := (S.enter h held k.indent).of_ok enters
      have holds : ∀ v, S.Holds s v → S.Holds s₁ v := fun _ => S.holds_enters h entered
      obtain ⟨s', ⟨h', grows⟩, rfl⟩ := (S.bindParams_moves h₁ (holds _ held) k.span [] params.symm
        fun p v member => holds v (filled p v member)).of_ok binds
      have holds' : ∀ v, S.Holds s v → S.Holds s' v := fun v held => S.holds_grows grows (holds v held)
      exact ⟨.entered limit s' c k, ⟨h', holds' _ held, hold.imp S holds',
        S.made_grows grows (S.made_enters h entered made)⟩, rfl⟩
  | entered limit s c k =>
    obtain ⟨h, held, hold, made⟩ := sound
    change Leads env (.entered limit (S.state s) (S.closure c) (k.mapClosures S.closure)) stage'
      at leads
    cases leads with
    | run binds =>
      rw [definition] at binds ⊢
      obtain ⟨s', ⟨h', -⟩, rfl⟩ := (S.bindBody_moves h made _).of_ok binds
      exact ⟨.blocks _ _ s' _, h', rfl⟩

/-- Whatever is come to from a stage as it is read is a stage as it is read. -/
theorem reaches (stage : Stage σ κ) (sound : S.SoundAt stage) {stage' : Stage σ' κ'}
    (reaches : Reaches env (S.stage stage) stage') :
    ∃ next, S.SoundAt next ∧ S.stage next = stage' := by
  induction reaches with
  | refl => exact ⟨stage, sound, rfl⟩
  | tail _ leads ih =>
    obtain ⟨next, sound', rfl⟩ := ih
    exact S.leads unchanged next sound' leads

end Simulation

end Translate

end MarkupTemplate

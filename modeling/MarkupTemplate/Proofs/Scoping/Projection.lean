import MarkupTemplate.Proofs.Scoping.Steps
import MarkupTemplate.Proofs.Simulation.Calls

/-!
# Projections

A projection reads the states of audited translations as states of another scoping, so that on sound
states every operation does there what it does here. If the functions of the host program hand on no
closures but those that their arguments hold, then it is a simulation of all sound states.
-/

namespace MarkupTemplate

open Scope

namespace Translate

open Audited

theorem Audited.foldl_indentBy (s : Audited Twin) (added : List Char) :
    added.foldl (fun s c => Scoping.indentBy c s) s =
      s.withIndent (s.state.stack.indent ++ String.ofList added) := by
  have all := indentBy_all (w := (withIndent · s)) (fun _ _ => rfl) s.state.stack.indent added
  rwa [s.withIndent_self] at all

/-- A reading of states with twin closures as states of another scoping. -/
structure Projection [Host] (source : String) (σ : Type) {κ μ : Type} [Defined κ] [Scoping σ κ μ] where
  closure : Twin → κ
  state : Audited Twin → σ
  definition : ∀ c, Defined.definition (closure c) = c.closure.toDefinition
  count : ∀ c, Defined.length (closure c) = c.branch.length
  find? : ∀ {s : Audited Twin}, Sound source s → ∀ name,
    Scoping.find? name (state s) =
      (lastBinding? name s.view).map (Prod.map id (Value.mapClosures closure))
  length : ∀ {s : Audited Twin}, Sound source s → Scoping.length (state s) = s.length
  push : ∀ {s : Audited Twin}, Sound source s → ∀ name v,
    Scoping.push name (v.mapClosures closure) (state s) = state (s.push name v)
  set : ∀ {s : Audited Twin} {index : Nat}, Sound source s →
    s.state.stack.trunkLength s.store ≤ index → index + 1 = s.length → ∀ v,
    Scoping.set index (v.mapClosures closure) (state s) = .ok (state (Sound.replaced index v s))
  indent : ∀ s, Scoping.indent (state s) = s.state.stack.indent
  indentBy : ∀ s c,
    Scoping.indentBy c (state s) = state (s.withIndent (s.state.stack.indent.push c))
  dedent : ∀ {s : Audited Twin}, 1 < s.state.stack.indent.utf8ByteSize →
    Scoping.dedent (state s) =
      .ok (state (s.withIndent (String.ofList s.state.stack.indent.toList.dropLast)))
  reset : ∀ {s s' : Audited Twin}, Sound source s → Sound source s' → Grows source s s' →
    Scoping.reset (Scoping.mark (state s)) (state s') = .ok (state (Sound.restored s.length s'))
  close : ∀ {s : Audited Twin}, Sound source s → ∀ d,
    Scoping.close d (state s) = (closure (s.close d).1, state (s.close d).2)
  enter : ∀ {s : Audited Twin} {c : Twin}, Sound source s → Fits source s s.branch c → ∀ indent,
    Scoping.enter (closure c) indent (state s) = .ok (state (Sound.entered c indent s))
  leave : ∀ {s s' : Audited Twin}, Sound source s → Sound source s' → s.level < s'.level →
    (∀ id < s'.level, s'.store.levels[id]? = s.store.levels[id]?) →
    Keeps source s.branch s s' →
    Scoping.leave (Scoping.mark (state s)) (state s') = state (Sound.left s s')
  default : ∀ {s : Audited Twin} {c : Twin} {index : Nat} {p : Param} {e : Expr},
    Sound source s → Captured source s c → c.closure.signature.params[index]? = some p →
    p.default = some e →
    Scoping.default (closure c) index (fun look => e.eval source look) (state s) =
      (fun v => (v.mapClosures closure, state (Sound.kept c.id index ⟨some v⟩ s))) <$>
        Run.ofExcept (e.eval source (s.state.look c.branch))

namespace Sound

variable [Host] {source : String} {s s' : Audited Twin} {c : Twin}

theorem start (source : String) (alarm : Stop) : Sound source (Audited.start alarm) := by
  have levels : ∀ (id : Nat) (l : Level (Value Twin)),
      (Audited.start alarm : Audited Twin).store.levels[id]? = some l → l = .empty none := by
    intro id l hl
    have hl : ((Store.empty : Store (Value Twin)).add (.empty none)).1.levels[id]? = some l := hl
    rw [Store.levels_add] at hl
    split at hl
    · exact (Option.some.inj hl).symm
    · simp [Store.empty] at hl
  refine ⟨Store.wellFormed_empty.newStack, Nat.one_pos, fun i inside => absurd inside ?_,
    fun id l _ hl => ?_, fun id l k b hl hb => ?_, fun _ _ => Nat.le_refl 0, rfl,
    fun _ _ _ => rfl, ?_⟩
  · exact Nat.not_lt_zero i
  · rw [levels id l hl]
    rfl
  · rw [levels id l hl] at hb
    simp [Level.empty] at hb
  · change "\n" ≠ ""
    decide

theorem sees (h : Sound source s) : Sees (Fits source s s.branch) s := by
  intro name i v found
  exact h.found h.full ((h.find?_eq name).symm.trans found)

/-- What a captured closure sees fits on its branch. -/
theorem look_holds (h : Sound source s) (captured : Captured source s c) (name : String)
    (v : Value Twin) (found : s.state.look c.branch name = some v) :
    v.Holds (Fits source s c.branch) := by
  have full := captured.full h.store
  rw [h.look_eq full] at found
  obtain ⟨⟨i, w⟩, last, rfl⟩ := Option.map_eq_some_iff.mp found
  exact h.found full last

/-- The last value is replaced. -/
theorem set_last (h : Sound source s') (grows : Grows source s s') (length : s'.length = s.length + 1)
    {v : Value Twin} (fits : v.Holds (Fits source s s.branch)) :
    s'.state.stack.trunkLength s'.store ≤ s.length ∧ Sound source (replaced s.length v s') ∧
      Grows source s (replaced s.length v s') ∧ (replaced s.length v s').length = s.length + 1 := by
  obtain ⟨trunk, top⟩ := trunkLength_eq grows
  have own : s'.state.stack.trunkLength s'.store ≤ s.length := trunk ▸ top
  have branch : s.branch = ⟨s'.level, s.length⟩ :=
    congrArg (Branch.mk · s.length) (congrArg Stack.level grows.stack.symm)
  have holds : v.Holds (Fits source s' ⟨s'.level, s.length⟩) :=
    fits.mono fun c fits => branch ▸ grows.keeps.fits (.refl _) fits
  have length' : (replaced s.length v s').length = s.length + 1 :=
    (Stack.length_set h.level s.length v).trans length
  exact ⟨own, h.replace own length.symm holds,
    ⟨grows.stack, by omega, grows.keeps.trans (branch ▸ h.keeps_replaced own v)⟩, length'⟩

/-- The indentation of a block is taken away again. -/
theorem withIndent_back (h : Sound source s) (h' : Sound source s') {indent : String}
    (grows : Grows source (s.withIndent indent) s') :
    s' = s'.withIndent indent ∧ Sound source (s'.withIndent s.state.stack.indent) ∧
      Grows source s (s'.withIndent s.state.stack.indent) := by
  have same : s'.state.stack.indent = indent := congrArg Stack.indent grows.stack
  have within : s.branch.Within s'.branch := grows.within
  refine ⟨by rw [← same, withIndent_self], h'.withIndent h.indent, ?_, grows.length, ?_⟩
  · change { s'.state.stack with indent := s.state.stack.indent } = s.state.stack
    rw [grows.stack]
    rfl
  · exact ((h.keeps_withIndent (.refl _) indent).trans grows.keeps).trans (h'.keeps_withIndent within _)

end Sound

/-- The second state is the first one on a new stack in the scope of a closure. -/
structure Enters [Host] (source : String) (s s' : Audited Twin) : Prop where
  above : s.level < s'.level
  levels : ∀ id < s'.level, s'.store.levels[id]? = s.store.levels[id]?
  keeps : Keeps source s.branch s s'

section Entering

variable [Host] {source : String} {s s' s'' : Audited Twin} {c : Twin}

theorem Sound.enters (h : Sound source s) (fits : Fits source s s.branch c) (indent : String) :
    Enters source s (Sound.entered c indent s) :=
  ⟨h.level, fun _ => Sound.levels_entered indent, h.keeps_entered fits indent⟩

/-- What fits on a branch fits in a scope that is entered from there. -/
theorem Enters.fits (h : Enters source s s') (fits : Fits source s s.branch c) :
    Fits source s' s'.branch c :=
  (h.keeps.fits (.refl _) fits).mono (.inl h.above)

theorem Enters.trans (h : Enters source s s') (grows : Grows source s' s'') :
    Enters source s s'' := by
  have level : s''.level = s'.level := congrArg Stack.level grows.stack
  refine ⟨level ▸ h.above, fun id below => ?_, h.keeps.trans
    (grows.keeps.mono (.inl h.above) h.keeps.agree.inside)⟩
  rw [level] at below
  exact (grows.keeps.agree.store.lower id below).trans (h.levels id below)

end Entering

namespace Projection

variable {σ κ μ : Type} [Host] [Defined κ] [Scoping σ κ μ] {source : String} (P : Projection source σ)

theorem dedent_eq (s : Audited Twin) (indent : String) (c : Char) (nonempty : indent ≠ "") :
    Scoping.dedent (P.state (s.withIndent (indent.push c))) = .ok (P.state (s.withIndent indent)) ∧
      Scoping.dedent (s.withIndent (indent.push c)) = .ok (s.withIndent indent) := by
  have size := push_utf8ByteSize nonempty c
  have there := P.dedent (s := s.withIndent (indent.push c)) size
  have cut : String.ofList (indent.push c).toList.dropLast = indent := dropLast_push indent c
  have here : (s.withIndent (indent.push c)).state.dedent = .ok (s.withIndent indent).state := by
    have long : ¬ (s.withIndent (indent.push c)).state.stack.indent.utf8ByteSize ≤ 1 :=
      Nat.not_le.mpr size
    rw [State.dedent, Stack.dedent, if_neg long]
    exact congrArg (fun i => Except.ok (s.withIndent i).state) cut
  refine ⟨there.trans (congrArg (fun i => Except.ok (P.state (s.withIndent i))) cut), ?_⟩
  change (do
    let state ← (s.withIndent (indent.push c)).state.dedent
    .ok { s.withIndent (indent.push c) with state }) = _
  rw [here]
  rfl

variable {s s' : Audited Twin} {c : Twin}

theorem set_follows (h : Sound source s') (grows : Grows source s s')
    (length : s'.length = s.length + 1) {v : Value Twin}
    (fits : v.Holds (Fits source s s.branch)) :
    Follows P.state (fun s'' => Sound source s'' ∧ Grows source s s'' ∧
        s''.length = s.length + 1 ∧ ∀ _ : List (Node Twin), True → True)
      (liftM (Scoping.set s.length v s'))
      (liftM (Scoping.set s.length (v.mapClosures P.closure) (P.state s'))) := by
  obtain ⟨own, sound, grows', length'⟩ := h.set_last grows length fits
  have twin : (Scoping.set s.length v s' : Except Error (Audited Twin)) =
      .ok (Sound.replaced s.length v s') := Sound.set_eq_ok own length.symm v
  rw [twin, P.set h own length.symm]
  exact .ok ⟨sound, grows', length', fun _ => id⟩

theorem dedentBy_follows (h : Sound source s) (h' : Sound source s') {added : List Char}
    (grows : Grows source (added.foldl (fun s c => Scoping.indentBy c s) s) s') :
    Follows P.state (fun s'' => Sound source s'' ∧ Grows source s s'' ∧
        ∀ _ : List (Node Twin), True → True)
      (dedentBy added.length s') (dedentBy added.length (P.state s')) := by
  rw [foldl_indentBy] at grows
  obtain ⟨same, sound, grows'⟩ := h.withIndent_back h' grows
  have there := dedentBy_all (w := fun i => P.state (s'.withIndent i))
    (fun i c nonempty => (P.dedent_eq s' i c nonempty).1) h.indent added
  have here := dedentBy_all (w := (withIndent · s'))
    (fun i c nonempty => (P.dedent_eq s' i c nonempty).2) h.indent added
  rw [← same] at there here
  rw [there, here]
  exact .ok ⟨sound, grows', fun _ => id⟩

theorem default_follows [Host.HandsOn] (h : Sound source s) (fits : Fits source s s.branch c)
    {index : Nat} {p : Param} {e : Expr} (param : c.closure.signature.params[index]? = some p)
    (hasDefault : p.default = some e) :
    Follows (Prod.map (Value.mapClosures P.closure) P.state)
      (fun o => Sound source o.2 ∧ Grows source s o.2 ∧ o.1.Holds (Fits source o.2 o.2.branch))
      (Scoping.default c index (fun look => e.eval source look) s)
      (Scoping.default (P.closure c) index (fun look => e.eval source look) (P.state s)) := by
  rw [Sound.default_eq fits.1 param hasDefault, P.default h fits.1 param hasDefault]
  cases value : e.eval source (s.state.look c.branch) with
  | error e => exact .error _
  | ok v =>
    have grows := Sound.grows_kept h fits.1 param hasDefault value
    refine Follows.ok (f := Prod.map (Value.mapClosures P.closure) P.state)
      (a := (v, Sound.kept c.id index ⟨some v⟩ s))
      ⟨Sound.keep h fits.1 param hasDefault value, grows, ?_⟩
    have here := Expr.eval_holds (h.look_holds fits.1) e v value
    exact here.mono fun _ inner => grows.fits (inner.mono fits.2)

/-- The simulation of sound states, with values that hold closures which fit. -/
def simulation [Host.HandsOn] : Simulation source (Audited Twin) σ where
  closure := P.closure
  state := P.state
  recast := .none
  Sound := Sound source
  Grows := Grows source
  Enters := Enters source
  Holds s v := v.Holds (Fits source s s.branch)
  Made _ _ := True
  stands := Recasting.none_stands
  definition := P.definition
  count := P.count
  kind _ := .of_values (Value.hereditary_holds _) Value.holds_lift Value.holds_nodes
  refl := Sound.grows
  trans := Grows.trans
  holds_grows grows held := held.mono fun _ => grows.fits
  made_grows _ := id
  visible h := h.sees.visible
  find? h name := by
    rw [P.find? h, ← h.find?_eq]
    rfl
  length := P.length
  push := P.push
  sound_push h name _ fits := ⟨h.push name fits, h.grows_push name _⟩
  length_push := Sound.length_push
  set := P.set_follows
  indent := P.indent
  indentBy := P.indentBy
  sound_indentBy h c := h.withIndent String.push_ne_empty
  holds_indentBy h c held := held.mono fun _ => (h.keeps_withIndent (.refl _) _).fits (.refl _)
  made_indentBy _ _ := id
  dedent := P.dedentBy_follows
  reset {s s'} h h' grows := by
    rw [P.reset h h' grows, Sound.reset_eq_ok h' grows]
    exact .ok ⟨h.restore h' grows, Sound.grows_restored h' grows, Sound.length_restored h' grows,
      fun _ => id⟩
  close := P.close
  sound_close h d :=
    ⟨h.close d, h.grows_close d, Value.holds_closure.mpr (h.fits_close d)⟩
  enter {s c} h held indent := by
    have fits := Value.holds_closure.mp held
    have entered : (Scoping.enter c indent s : Run (Audited Twin)) =
        .ok (Sound.entered c indent s) := if_pos fits.1.intact
    rw [P.enter h fits, entered]
    exact .ok ⟨h.enter fits indent, h.enters fits indent⟩
  holds_enters _ enters held := held.mono fun _ => enters.fits
  made_enters _ _ := id
  leave {s s' s''} h enters h'' grows := by
    obtain ⟨above, same, keeps⟩ := enters.trans grows
    exact ⟨P.leave h h'' above same keeps, h.leave h'' above same keeps,
      Sound.grows_left h'' above same keeps, fun _ => id⟩
  default h held param hasDefault :=
    P.default_follows h (Value.holds_closure.mp held) param hasDefault

/-- Translating a script is read through a projection. -/
theorem script_eq [Host.HandsOn] {env : Env} (P : Projection env.source σ) (alarm : Stop)
    (limit : Nat) (blocks : List Block) :
    script env limit (P.state (.start alarm)) blocks =
      Document.mapClosures P.closure <$> script env limit (.start alarm : Audited Twin) blocks :=
  P.simulation.script_eq (Sound.start env.source alarm) limit blocks

end Projection

end Translate

end MarkupTemplate

import MarkupTemplate.Proofs.Simulation.Levels
import MarkupTemplate.Proofs.Simulation.Stages

/-!
# Defaults are evaluated once

Scoping on branches with a list of defaults that are not to be evaluated: the translation stops when it
is about to evaluate one of them. A default that is evaluated joins the list, so stopping is what a
second evaluation would lead to. `translateOnce_eq` shows that it never does.
-/

namespace MarkupTemplate

open Scope

namespace Translate

/-- A state, and the defaults that are not to be evaluated. -/
@[ext] structure Watched (κ : Type) where
  state : State κ
  /-- Whether the default of a parameter is one, by the number of the closure and the place of the
  parameter. -/
  forbidden : Nat → Nat → Bool := fun _ _ => false
  /-- What the translation stops with instead. -/
  alarm : Stop

namespace Watched

variable {κ : Type}

/-- The state before anything is bound, in which every default may be evaluated. -/
def start (alarm : Stop) : Watched κ := { state := .start, alarm }

/-- The state after the default of a parameter has been evaluated. -/
def forbid (id index : Nat) (s : Watched κ) : Watched κ :=
  { s with forbidden := fun i j => (i == id && j == index) || s.forbidden i j }

variable [Closing κ]

/-- The default of a parameter of a closure. Where it is evaluated, this is watched. -/
def default (c : κ) (index : Nat) (compute : (String → Option (Value κ)) → Except Error (Value κ))
    (s : Watched κ) : Run (Value κ × Watched κ) := do
  let ⟨_, id, branch⟩ := Closing.closure c
  let evaluate (s : Watched κ) : Run (Value κ) × Watched κ :=
    if s.forbidden id index then (.error s.alarm, s)
    else (Run.ofExcept (compute (s.state.look branch)), s.forbid id index)
  let (result, cell, s) := (s.state.cells id index).get evaluate s
  let v ← result
  .ok (v, { s with state := s.state.keep id index cell })

end Watched

instance {κ : Type} [Closing κ] : Scoping (Watched κ) κ Mark where
  find? symbol s := Scoping.find? symbol s.state
  length s := Scoping.length s.state
  push symbol v s := { s with state := s.state.push symbol v }
  set index v s := do
    let state ← s.state.set index v
    .ok { s with state }
  indent s := Scoping.indent s.state
  indentBy c s := { s with state := Scoping.indentBy c s.state }
  dedent s := do
    let state ← s.state.dedent
    .ok { s with state }
  mark s := s.state.mark
  reset m s := do
    let state ← s.state.reset m
    .ok { s with state }
  close d s :=
    let (c, state) := s.state.close d
    (c, { s with state })
  enter c indent s := .ok { s with state := s.state.enter c indent }
  leave m s := { s with state := s.state.leave m }
  default := Watched.default

/-! ### What is watched -/

namespace Watched

variable {κ : Type} [Closing κ] {c : κ} {index : Nat}
  {compute : (String → Option (Value κ)) → Except Error (Value κ)} {s : Watched κ}

theorem default_computed {v : Value κ} (here : s.state.cells (Closing.closure c).id index = ⟨some v⟩) :
    s.default c index compute =
      .ok (v, { s with state := s.state.keep (Closing.closure c).id index ⟨some v⟩ }) := by
  simp only [default, Deferred.get, here, ok_bind]

theorem default_pending (here : s.state.cells (Closing.closure c).id index = ⟨none⟩)
    (allowed : s.forbidden (Closing.closure c).id index = false) :
    s.default c index compute =
      (fun v => (v, { s.forbid (Closing.closure c).id index with
        state := s.state.keep (Closing.closure c).id index ⟨some v⟩ })) <$>
          Run.ofExcept (compute (s.state.look (Closing.closure c).branch)) := by
  simp only [default, Deferred.get, here, allowed, Bool.false_eq_true, if_false]
  cases compute (s.state.look (Closing.closure c).branch) <;> rfl

end Watched

/-! ### Watching a translation -/

section Watching

variable {source : String} {s : Watched Closure} {c : Closure}

/-- The invariant of translations that are watched: what is forbidden is what has been computed. -/
structure Watched.Sound (s : Watched Closure) : Prop where
  inRange : s.state.InRange
  forbidden : ∀ id index, s.forbidden id index = (s.state.cells id index).isComputed

namespace Watched.Sound

theorem start (alarm : Stop) : (Watched.start alarm).Sound := ⟨.start, fun _ _ => rfl⟩

/-- A default is found, or computed and then forbidden. -/
theorem default_follows (h : s.Sound) (c : Closure) (index : Nat)
    (compute : (String → Option (Value Closure)) → Except Error (Value Closure))
    (bounded : ∀ v, compute (s.state.look c.branch) = .ok v → s.state.Bounded v) :
    Follows (Prod.map id Watched.state)
      (fun o => o.2.Sound ∧ s.state.Extends o.2.state ∧ o.2.state.Bounded o.1)
      (s.default c index compute) (Run.ofExcept (s.state.default c index compute)) := by
  rw [State.default_eq]
  rcases here : s.state.cells (Closing.closure c).id index with ⟨_ | v⟩
  · have allowed : s.forbidden (Closing.closure c).id index = false := by
      rw [h.forbidden, here]
      rfl
    rw [default_pending here allowed, Option.elim]
    cases value : compute (s.state.look (Closing.closure c).branch) with
    | error e => exact .error _
    | ok v =>
      have held := bounded v value
      refine Follows.ok (f := Prod.map id Watched.state) (a := (v, _))
        ⟨⟨h.inRange.keep c.id index held, fun i j => ?_⟩, ⟨rfl, Nat.le_refl _⟩, held⟩
      simp only [forbid, State.keep, h.forbidden]
      by_cases same : i = (Closing.closure c).id ∧ j = index
      · simp [same, Deferred.isComputed]
      · have other : (i == (Closing.closure c).id && j == index) = false := by
          rw [Bool.and_eq_false_iff, beq_eq_false_iff_ne, beq_eq_false_iff_ne]
          exact not_and_or.mp same
        rw [if_neg same, other, Bool.false_or]
  · have held := h.inRange.kept c.id index v (congrArg Deferred.value? here)
    rw [default_computed here]
    refine Follows.ok (f := Prod.map id Watched.state)
      (a := (v, { s with state := s.state.keep (Closing.closure c).id index ⟨some v⟩ }))
      ⟨⟨h.inRange.keep c.id index held, fun i j => ?_⟩, ⟨rfl, Nat.le_refl _⟩, held⟩
    simp only [State.keep, h.forbidden]
    split
    · next same =>
      rw [same.1, same.2, here]
    · rfl

theorem dedentBy_follows (h : s.Sound) (n : Nat) :
    Follows Watched.state (fun s' => s'.Sound ∧ s.state.Extends s'.state) (dedentBy n s)
      (dedentBy n s.state) := by
  induction n generalizing s with
  | zero => exact .ok ⟨h, .refl _⟩
  | succ n ih =>
    refine Follows.bind (f := Watched.state)
      (p := fun s' => s'.Sound ∧ s.state.Extends s'.state) ?_ fun s' ⟨h', grows⟩ =>
        (ih h').imp fun _ after => ⟨after.1, grows.trans after.2⟩
    change Follows _ _ (liftM (do
      let state ← s.state.dedent
      .ok { s with state })) (liftM s.state.dedent)
    cases done : s.state.dedent with
    | error e => exact .error _
    | ok state =>
      obtain ⟨inRange, grows, cells⟩ := h.inRange.dedent done
      exact Follows.ok (f := Watched.state) (a := { s with state })
        ⟨⟨inRange, fun id index => cells ▸ h.forbidden id index⟩, grows⟩

end Watched.Sound

theorem Watched.extends_indentBy (s : Watched Closure) (added : List Char) :
    s.state.Extends (added.foldl (fun s c => Scoping.indentBy c s) s).state := by
  induction added generalizing s with
  | nil => exact .refl _
  | cons c added ih =>
    have first : s.state.Extends (Scoping.indentBy c s).state := ⟨rfl, Nat.le_refl _⟩
    exact first.trans (ih _)

variable [Host]

/-- The state without the list, in which nothing has been forbidden but what has been computed. -/
def unwatched (source : String) : Simulation source (Watched Closure) (State Closure) where
  closure := id
  state := Watched.state
  recast := .none
  Sound := Watched.Sound
  Grows s s' := s.state.Extends s'.state
  Enters s s' := s.state.size ≤ s'.state.size
  Holds s := s.state.Bounded
  Made s := Node.Throughout (Closure.Below s.state.size)
  stands := Recasting.none_stands
  definition _ := rfl
  count _ := rfl
  kind _ := .throughout _
  refl _ := .refl _
  trans := .trans
  holds_grows grows held := held.below grows.size
  made_grows grows made := made.below grows.size
  visible h _ _ _ found := h.inRange.bound.findBelow found
  find? {s} _ name := by
    change Scoping.find? name s.state = (Scoping.find? name s.state).map _
    rw [Value.mapClosures_id', Prod.map_id, Option.map_id]
    rfl
  length _ := rfl
  push _ name v := by
    rw [Value.mapClosures_id]
    rfl
  sound_push h name _ held := by
    obtain ⟨inRange, grows⟩ := h.inRange.push name held
    exact ⟨⟨inRange, h.forbidden⟩, grows⟩
  length_push h name v := Stack.length_push h.inRange.level name v
  set {s s'} h grows length v held := by
    rw [Value.mapClosures_id]
    change Follows _ _ (liftM (do
      let state ← s'.state.set (Scoping.length s) v
      .ok { s' with state })) (liftM (s'.state.set (Scoping.length s) v))
    cases done : s'.state.set (Scoping.length s) v with
    | error e => exact .error _
    | ok state =>
      obtain ⟨inRange, grows', length', cells⟩ := h.inRange.set (held.below grows.size) done
      exact Follows.ok (f := Watched.state) (a := { s' with state })
        ⟨⟨inRange, fun id index => cells ▸ h.forbidden id index⟩, grows.trans grows',
          length'.trans length, fun _ made => made.below grows'.size⟩
  indent _ := rfl
  indentBy _ _ := rfl
  sound_indentBy h _ := ⟨h.inRange.withStore h.inRange.store rfl h.inRange.bound h.inRange.level,
    h.forbidden⟩
  holds_indentBy _ _ := id
  made_indentBy _ _ := id
  dedent {s s'} _ h' added grows := (h'.dedentBy_follows added.length).imp fun _ after =>
    ⟨after.1, (s.extends_indentBy added).trans (grows.trans after.2), fun _ made =>
      made.below after.2.size⟩
  reset {s s'} h h' grows := by
    change Follows _ _ (do
      let state ← s'.state.reset s.state.mark
      .ok { s' with state }) (s'.state.reset s.state.mark)
    cases done : s'.state.reset s.state.mark with
    | error e => exact .error _
    | ok state =>
      obtain ⟨inRange, grows', length, cells⟩ := h'.inRange.reset done
      exact Follows.ok (f := Watched.state) (a := { s' with state })
        ⟨⟨inRange, fun id index => cells ▸ h'.forbidden id index⟩, grows.trans grows', length,
          fun _ made => made.below grows'.size⟩
  close _ _ := rfl
  sound_close h d := by
    obtain ⟨inRange, grows, held⟩ := h.inRange.close d
    exact ⟨⟨inRange, h.forbidden⟩, grows, held⟩
  enter {s c} h held indent := by
    exact Follows.ok (f := Watched.state) (a := { s with state := s.state.enter c indent })
      ⟨⟨h.inRange.enter held indent, h.forbidden⟩, s.state.size_le_enter c indent⟩
  holds_enters _ size held := held.below size
  made_enters _ size made := made.below size
  leave {s s' s''} h enters h'' grows := by
    obtain ⟨inRange, back, size⟩ := h.inRange.leave h''.inRange (Nat.le_trans enters grows.size)
    exact ⟨rfl, ⟨inRange, h''.forbidden⟩, back, fun _ made => made.below (Nat.le_of_eq size)⟩
  default {s c index p e} h _ _ _ := by
    have follows := h.default_follows c index (fun look => e.eval source look)
      fun _ value => h.inRange.eval value
    have nothing : (Prod.map (Value.mapClosures id) Watched.state :
        Value Closure × Watched Closure → Value Closure × State Closure) =
          Prod.map id Watched.state := by
      rw [Value.mapClosures_id']
    rw [nothing]
    exact follows

end Watching

end Translate

namespace Template

open Translate

/-- Translates the template, and stops before a default is evaluated again. -/
def translateOnce [Host] (alarm : Stop) (t : Template) (context : Dict (Value Empty)) :
    Run (Document Closure) :=
  Translate.script (t.env context) t.engine.callLimit (Watched.start alarm : Watched Closure)
    t.script.blocks

/-- No default is evaluated again. -/
theorem translateOnce_eq [Host] (t : Template) (context : Dict (Value Empty)) (alarm : Stop) :
    t.translateOnce alarm context = t.translate context := by
  have read := (unwatched (t.env context).source).script_eq (.start alarm) t.engine.callLimit
    t.script.blocks
  have nothing : (Document.mapClosures id : Document Closure → Document Closure) = id :=
    funext Document.mapClosures_id
  change t.translate context = Document.mapClosures id <$> t.translateOnce alarm context at read
  rw [read, nothing, id_map]

end Template

end MarkupTemplate

import MarkupTemplate.Proofs.Hereditary
import MarkupTemplate.Proofs.Replace.Script

/-!
# Simulations

A simulation reads the states of one scoping as states of another one, so that every operation does
there what it does here. It may be one of sound states only, and of values and nodes of some kind that
all operations keep. `Follows` relates two computations of which one is read off the other, together
with what holds after them.
-/

namespace MarkupTemplate

namespace Translate

/-! ### Computations that follow others -/

section Follows

variable {α α' β β' : Type}

/-- A computation whose results are those of another one, seen through a function, and satisfy a
condition there. -/
def Follows (f : α → α') (p : α → Prop) (r : Run α) (r' : Run α') : Prop :=
  (∀ a, r = .ok a → p a) ∧ r' = f <$> r

variable {f : α → α'} {g : β → β'} {p : α → Prop} {p' : β → Prop}

theorem Follows.ok {a : α} (h : p a) : Follows f p (.ok a) (.ok (f a)) :=
  ⟨fun _ same => Except.ok.inj same ▸ h, rfl⟩

theorem Follows.error (e : Stop) : Follows f p (.error e) (.error e) :=
  ⟨fun _ impossible => (nomatch impossible), rfl⟩

theorem Follows.bind {r : Run α} {r' : Run α'} {k : α → Run β} {k' : α' → Run β'}
    (h : Follows f p r r') (next : ∀ a, p a → Follows g p' (k a) (k' (f a))) :
    Follows g p' (r >>= k) (r' >>= k') := by
  obtain ⟨holds, rfl⟩ := h
  cases r with
  | error e => exact .error e
  | ok a => exact next a (holds a rfl)

theorem Follows.lift {x : Except Error α} {x' : Except Error α'} (same : x' = f <$> x)
    (holds : ∀ a, x = .ok a → p a) : Follows f p (liftM x) (liftM x') := by
  subst same
  cases x with
  | error e => exact .error _
  | ok a => exact .ok (holds a rfl)

theorem Follows.imp {p' : α → Prop} {r : Run α} {r' : Run α'} (h : Follows f p r r')
    (weaker : ∀ a, p a → p' a) : Follows f p' r r' :=
  ⟨fun a ok => weaker a (h.1 a ok), h.2⟩

theorem Follows.of_ok {r : Run α} {r' : Run α'} {a' : α'} (h : Follows f p r r')
    (ok : r' = .ok a') : ∃ a, p a ∧ f a = a' := by
  obtain ⟨holds, rfl⟩ := h
  obtain ⟨a, found, same⟩ := map_eq_ok.mp ok
  exact ⟨a, holds a found, same⟩

end Follows

/-! ### What is made of values -/

/-- A property of values and one of nodes that hold of whatever a translation makes of such values and
nodes. -/
structure Kind {κ : Type} [Host] [Shows κ] (Q : Value κ → Prop) (R : List (Node κ) → Prop) : Prop where
  inherits : Value.Hereditary Q
  lift (v : Value Empty) : Q v.lift
  nodes {ns : List (Node κ)} : R ns → Q (.nodes ns)
  flatten {v : Value κ} {ns : List (Node κ)} : Q v → v.flatten = .ok ns → R ns
  nil : R []
  append {ns ns' : List (Node κ)} : R ns → R ns' → R (ns ++ ns')
  text (s : String) : R [.text s]
  ofHead {head : Head (Value κ)} {indent : Option Indent} {body : List (Node κ)} {n : Node κ} :
    (∀ v ∈ head.positional, Q v) → (∀ entry ∈ head.named, Q entry.2) → R body →
      Node.ofHead head indent body = .ok n → R [n]
  anchor (base : String) {ns : List (Node κ)} : R ns → R (Node.anchorList base ns)
  startLine {place : Option String} {ns ns' : List (Node κ)} :
    R ns → MarkupTemplate.startLine place ns = .ok ns' → R ns'
  demote {base : String} {ns ns' : List (Node κ)} : R ns → demoteAll base ns = .ok ns' → R ns'

/-- A property of values only. -/
theorem Kind.of_values {κ : Type} [Host] [Shows κ] {Q : Value κ → Prop} (inherits : Value.Hereditary Q)
    (lift : ∀ v : Value Empty, Q v.lift) (nodes : ∀ ns, Q (.nodes ns)) :
    Kind Q fun _ => True := by
  refine ⟨inherits, lift, fun _ => nodes _, ?_, ?_, ?_, ?_, ?_, ?_, ?_, ?_⟩ <;> intros <;> trivial

/-! ### Recasting scripts -/

/-- What stands for the blocks of a script, and for the depths that its definitions are charged with. -/
structure Recasting where
  blocks : List Block → List Block
  readDepth : Option Nat → Option Nat

namespace Recasting

/-- Everything stands for itself. -/
def none : Recasting := ⟨id, id⟩

variable (r : Recasting)

def signature (s : Signature) : Signature := { s with readDepth := r.readDepth s.readDepth }

def definition (d : Definition) : Definition := ⟨r.signature d.signature, r.blocks d.body, d.depth⟩

/-- A block with what stands for the blocks inside. -/
def block : Block → Block
  | .call name args body layout => .call name args (r.blocks body) layout
  | .define signature body => .define (r.signature signature) (r.blocks body)
  | .branch condition thenBlocks elseBlocks =>
    .branch condition (r.blocks thenBlocks) (r.blocks elseBlocks)
  | .loop name items body => .loop name items (r.blocks body)
  | .text parts layout => .text parts layout
  | .embed e layout => .embed e layout
  | .assign name e => .assign name e
  | .context names => .context names
  | .importFrom path items span => .importFrom path items span

/-- What stands for some blocks does, in every state, what they do with what stands for those inside. -/
structure Stands (σ : Type) {κ μ : Type} [Host] [Defined κ] [Scoping σ κ μ] : Prop where
  nil : r.blocks [] = []
  cons (env : Env) (call : Caller σ κ) (depth : Nat) (s : σ) (b : Block) (bs : List Block) :
    Translate.blocks env call depth s (r.blocks (b :: bs)) =
      Translate.blocks env call depth s (r.block b :: r.blocks bs)

theorem none_stands {σ κ μ : Type} [Host] [Defined κ] [Scoping σ κ μ] : none.Stands σ where
  nil := rfl
  cons _ _ _ _ b _ := by cases b <;> rfl

end Recasting

/-! ### Simulations -/

/-- A reading of states of one scoping as states of another one. -/
structure Simulation [Host] (source : String) (σ σ' : Type) {κ κ' μ μ' : Type} [Defined κ] [Defined κ']
    [Scoping σ κ μ] [Scoping σ' κ' μ'] where
  closure : κ → κ'
  state : σ → σ'
  recast : Recasting
  Sound : σ → Prop
  /-- The second state has come out of the first one on the same stack. -/
  Grows : σ → σ → Prop
  /-- The second state is the first one on a new stack. -/
  Enters : σ → σ → Prop
  Holds : σ → Value κ → Prop
  Made : σ → List (Node κ) → Prop
  stands : recast.Stands σ'
  definition : ∀ c, Defined.definition (closure c) = recast.definition (Defined.definition c)
  count : ∀ c, Defined.length (closure c) = Defined.length c
  kind : ∀ {s}, Sound s → Kind (Holds s) (Made s)
  refl : ∀ {s}, Sound s → Grows s s
  trans : ∀ {s s' s''}, Grows s s' → Grows s' s'' → Grows s s''
  holds_grows : ∀ {s s' v}, Grows s s' → Holds s v → Holds s' v
  made_grows : ∀ {s s' ns}, Grows s s' → Made s ns → Made s' ns
  visible : ∀ {s}, Sound s → AllVisible (Holds s) s
  find? : ∀ {s}, Sound s → ∀ name, Scoping.find? name (state s) =
    (Scoping.find? name s).map (Prod.map id (Value.mapClosures closure))
  length : ∀ {s}, Sound s → Scoping.length (state s) = Scoping.length s
  push : ∀ {s}, Sound s → ∀ name v,
    Scoping.push name (v.mapClosures closure) (state s) = state (Scoping.push name v s)
  sound_push : ∀ {s}, Sound s → ∀ name {v}, Holds s v →
    Sound (Scoping.push name v s) ∧ Grows s (Scoping.push name v s)
  length_push : ∀ {s}, Sound s → ∀ name v,
    Scoping.length (Scoping.push name v s) = Scoping.length s + 1
  set : ∀ {s s'}, Sound s' → Grows s s' → Scoping.length s' = Scoping.length s + 1 → ∀ {v},
    Holds s v → Follows state
      (fun s'' => Sound s'' ∧ Grows s s'' ∧ Scoping.length s'' = Scoping.length s + 1 ∧
        ∀ ns, Made s' ns → Made s'' ns)
      (liftM (Scoping.set (Scoping.length s) v s'))
      (liftM (Scoping.set (Scoping.length s) (v.mapClosures closure) (state s')))
  indent : ∀ s, Scoping.indent (state s) = Scoping.indent s
  indentBy : ∀ s c, Scoping.indentBy c (state s) = state (Scoping.indentBy c s)
  sound_indentBy : ∀ {s}, Sound s → ∀ c, Sound (Scoping.indentBy c s)
  holds_indentBy : ∀ {s v}, Sound s → ∀ c, Holds s v → Holds (Scoping.indentBy c s) v
  made_indentBy : ∀ {s ns}, Sound s → ∀ c, Made s ns → Made (Scoping.indentBy c s) ns
  dedent : ∀ {s s'}, Sound s → Sound s' → ∀ {added : List Char},
    Grows (added.foldl (fun s c => Scoping.indentBy c s) s) s' →
    Follows state (fun s'' => Sound s'' ∧ Grows s s'' ∧ ∀ ns, Made s' ns → Made s'' ns)
      (dedentBy added.length s') (dedentBy added.length (state s'))
  reset : ∀ {s s'}, Sound s → Sound s' → Grows s s' → Follows state
    (fun s'' => Sound s'' ∧ Grows s s'' ∧ Scoping.length s'' = Scoping.length s ∧
      ∀ ns, Made s' ns → Made s'' ns)
    (Scoping.reset (Scoping.mark s) s') (Scoping.reset (Scoping.mark (state s)) (state s'))
  close : ∀ {s}, Sound s → ∀ d, Scoping.close (recast.definition d) (state s) =
    (closure (Scoping.close d s).1, state (Scoping.close d s).2)
  sound_close : ∀ {s}, Sound s → ∀ d, Sound (Scoping.close d s).2 ∧
    Grows s (Scoping.close d s).2 ∧ Holds (Scoping.close d s).2 (.closure (Scoping.close d s).1)
  enter : ∀ {s c}, Sound s → Holds s (.closure c) → ∀ indent,
    Follows state (fun s' => Sound s' ∧ Enters s s') (Scoping.enter c indent s)
      (Scoping.enter (closure c) indent (state s))
  holds_enters : ∀ {s s' v}, Sound s → Enters s s' → Holds s v → Holds s' v
  made_enters : ∀ {s s' ns}, Sound s → Enters s s' → Made s ns → Made s' ns
  leave : ∀ {s s' s''}, Sound s → Enters s s' → Sound s'' → Grows s' s'' →
    Scoping.leave (Scoping.mark (state s)) (state s'') =
        state (Scoping.leave (Scoping.mark s) s'') ∧
      Sound (Scoping.leave (Scoping.mark s) s'') ∧ Grows s (Scoping.leave (Scoping.mark s) s'') ∧
      ∀ ns, Made s'' ns → Made (Scoping.leave (Scoping.mark s) s'') ns
  default : ∀ {s c index p e}, Sound s → Holds s (.closure c) →
    (Defined.definition c).signature.params[index]? = some p → p.default = some e →
    Follows (Prod.map (Value.mapClosures closure) state)
      (fun o => Sound o.2 ∧ Grows s o.2 ∧ Holds o.2 o.1)
      (Scoping.default c index (fun look => e.eval source look) s)
      (Scoping.default (closure c) index (fun look => e.eval source look) (state s))

end Translate

end MarkupTemplate

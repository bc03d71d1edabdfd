import MarkupTemplate.Proofs.Declared.Resolving
import MarkupTemplate.Proofs.Scoping.Forget

/-!
# Branches mean lexical scopes

Translating on shared stacks with branches gives what lexical scoping gives, and every position that a
closure saw when it was made is as it was whenever the closure is used.
-/

namespace MarkupTemplate

open Scope

namespace Translate

variable [Host] {source : String} {s s' : Audited Twin} {c : Twin}

/-! ### The lexical state -/

/-- The visible bindings as lexical scoping has them. -/
def Audited.lexical (s : Audited Twin) : Lexical := ⟨Twin.copy s.view, s.state.stack.indent⟩

theorem Grows.lexical_eq (grows : Grows source s s') (h : Sound source s) (h' : Sound source s')
    (length : s'.length = s.length) : s'.lexical = s.lexical := by
  simp only [Audited.lexical, grows.view_eq h h' length, grows.stack]

theorem Captured.lastBinding?_eq (captured : Captured source s c) (h : Sound source s)
    (name : String) : (lastBinding? name c.bindings).map (·.2) =
      (s.state.look c.branch name).map (Value.mapClosures Twin.capture) := by
  rw [h.look_eq (captured.full h.store), ← captured.bindings, Twin.copy, lastBinding?_map,
    Option.map_map, Option.map_map]
  rfl

/-- A copy has the number of bindings that is seen of the closure. -/
theorem Twin.unseen_capture : Host.Unseen Twin.capture := by
  refine Host.unseen_of_shown fun c => ?_
  change Shown.mk _ _ c.bindings.length = Shown.mk _ _ _
  rw [c.length_bindings]
  rfl

/-- The visible bindings with the copies as closures. -/
def lexical (source : String) : Projection source Lexical where
  closure := Twin.capture
  state := Audited.lexical
  definition _ := rfl
  count c := c.length_bindings
  find? _ name := lastBinding?_map _ name _
  length h := (List.length_map _).trans h.length_view
  push {s} h name v := by
    have copied : Twin.copy (s.push name v).view =
        Twin.copy s.view ++ [(name, v.mapClosures Twin.capture)] := by
      rw [h.view_push, Twin.copy, List.map_append]
      rfl
    exact congrArg (Lexical.mk · _) copied.symm
  set {s index} h own last v := by
    have inside : index < (Twin.copy s.view).length := by
      rw [Twin.copy, List.length_map, h.length_view]
      omega
    have copied : Twin.copy (Sound.replaced index v s).view =
        (Twin.copy s.view).modify index fun b => (b.1, v.mapClosures Twin.capture) := by
      rw [h.view_replaced own last, Twin.copy, Twin.copy]
      apply List.ext_getElem?
      intro i
      simp only [List.getElem?_map, List.getElem?_modify]
      split <;> cases s.view[i]? <;> rfl
    change Lexical.set index _ ⟨_, _⟩ = _
    rw [Lexical.set, if_pos inside]
    exact congrArg (fun bindings => Except.ok (Lexical.mk bindings _)) copied.symm
  indent _ := rfl
  indentBy _ _ := rfl
  dedent size := if_neg (Nat.not_le.mpr size)
  reset h h' grows := congrArg Except.ok ((Sound.grows_restored h' grows).lexical_eq h
    (h.restore h' grows) (Sound.length_restored h' grows)).symm
  close {s} h d := by
    have definition : (s.close d).1.closure.toDefinition = d :=
      congrArg Closure.toDefinition (Sound.closure_close s d)
    change (Capture.mk d (Twin.copy s.view), _) =
      (Capture.mk (s.close d).1.closure.toDefinition (s.close d).1.bindings, _)
    rw [definition, Sound.bindings_close h]
    rfl
  enter {s c} h fits indent := by
    change Except.ok (Lexical.mk c.bindings (withNewline indent)) = _
    rw [Audited.lexical, h.view_entered fits, fits.1.bindings]
    rfl
  leave h h' above same keeps := ((Sound.grows_left h' above same keeps).lexical_eq h
    (h.leave h' above same keeps) (Sound.length_left above same)).symm
  default {s c index p e} h captured _ _ := by
    change (do
      let v ← Run.ofExcept (e.eval source fun name => (lastBinding? name c.bindings).map Prod.snd)
      .ok (v, s.lexical)) = _
    rw [Expr.eval_mapClosures Twin.unseen_capture source (captured.lastBinding?_eq h)]
    cases e.eval source (s.state.look c.branch) <;> rfl

end Translate

namespace Template

open Translate

section Hosted

variable [Host] (t : Template) (context : Dict (Value Empty)) (alarm : Stop)

/-- The translation of which all others are read. -/
def translateTwins : Run (Document Twin) :=
  Translate.script (t.env context) t.engine.callLimit (Audited.start alarm : Audited Twin)
    t.script.blocks

variable [Host.HandsOn]

theorem translate_eq_twins :
    t.translate context = Document.mapClosures Twin.closure <$> t.translateTwins context alarm := by
  rw [Template.translate, MarkupTemplate.translate, ← State.start_map Twin.closure]
  exact (running (t.env context).source).script_eq alarm t.engine.callLimit t.script.blocks

theorem translateLexically_eq_twins :
    t.translateLexically context =
      Document.mapClosures Twin.capture <$> t.translateTwins context alarm :=
  (lexical (t.env context).source).script_eq alarm t.engine.callLimit t.script.blocks

/-- A translation stops as it does with lexical scoping. -/
theorem translate_eq_error {stop : Stop} :
    t.translate context = .error stop ↔ t.translateLexically context = .error stop := by
  rw [t.translate_eq_twins context .callDepth, t.translateLexically_eq_twins context .callDepth,
    map_eq_error, map_eq_error]

/-- The text is that of the document that lexical scoping makes, since of closures it takes only what is
seen of them. -/
theorem renderWith_lexically : t.renderWith context = (do
    let d ← t.translateLexically context
    (d.render : Except Error _)) := by
  rw [renderWith, t.translate_eq_twins context .callDepth,
    t.translateLexically_eq_twins context .callDepth, bind_map_left, bind_map_left]
  simp only [Document.render, Document.mapClosures, Node.renderList_map Twin.unseen_closure,
    Node.renderList_map Twin.unseen_capture]

end Hosted

end Template

end MarkupTemplate

import Mathlib
import MarkupTemplate.Engine
import MarkupTemplate.Proofs.Declared.Resolving
import MarkupTemplate.Proofs.Placement.Translation
import MarkupTemplate.Proofs.Placement.Positions

/-!
# Translations and origins

By induction on how deep calls may be nested and on the blocks: the origins of what a translation
makes are told, and the nodes that it makes are of these origins.
-/

namespace MarkupTemplate

namespace Translate

variable {env : Env} {s s' : State Closure} {o : Output (State Closure) Closure}
  {layouts : List String}

/-- A state at the indentation that blocks inside some layouts start at. -/
abbrev State.At (layouts : List String) (s : State Closure) : Prop :=
  s.Keeps (fun _ => True) (margin layouts)

/-- A translation that ends at the indentation where it started, with nodes of the origins that are
told. -/
structure Told (layouts : List String) (o : Output (State Closure) Closure)
    (told : Run (List Origin)) : Prop where
  state : o.1.At layouts
  origins : ∃ origins, told = .ok origins ∧ Node.AllFrom origins o.2

theorem Told.none (h : s.At layouts) : Told layouts (s, []) (.ok []) := ⟨h, [], rfl, .nil⟩

theorem tolerates_any : Tolerates (fun _ => True) fun _ => True :=
  ⟨fun _ _ => trivial, fun _ _ => trivial⟩

theorem State.At.push (h : s.At layouts) (name : String) (v : Value Closure) :
    State.At layouts (Scoping.push name v s) :=
  Keeps.push h name trivial

theorem State.At.measured_place {layout : Layout} (h : s.At (layout.within layouts)) :
    (layout.place layouts).getD (Scoping.indent s) = margin (layout.within layouts) := by
  unfold Layout.place
  split
  · rfl
  · exact h.measured

theorem margin_within (layouts : List String) (layout : Layout) :
    margin (layout.within layouts) =
      if layout.outline then margin layouts ++ layout.indent else margin layouts := by
  unfold Layout.within
  split
  · simp [margin, String.join_append, String.append_assoc]
  · rfl

/-! ### Scopes -/

theorem confined_eq_ok (h : s.At layouts) {run : State Closure → Run (Output (State Closure) Closure)}
    (done : confined s run = .ok o) :
    ∃ s₁, run s = .ok (s₁, o.2) ∧ (s₁.At layouts → o.1.At layouts) := by
  obtain ⟨⟨s₁, nodes⟩, ran, done⟩ := bind_eq_ok.mp done
  obtain ⟨s₂, back, done⟩ := bind_eq_ok.mp done
  obtain rfl := Except.ok.inj done
  exact ⟨s₁, ran, fun kept => (h.reset_ends tolerates_any kept).of_ok back⟩

/-- How a block with a layout is set up, and that it ends where it started. -/
theorem indented_eq_ok (h : s.At layouts) {layout : Layout}
    {run : State Closure → Option String → Run (Output (State Closure) Closure)}
    (done : indented s layout run = .ok o) :
    ∃ s₁ place, opened s layout = .ok (s₁, place) ∧ s₁.At (layout.within layouts) ∧
      place = layout.place layouts ∧
      ∃ s₂, run s₁ place = .ok (s₂, o.2) ∧ (s₂.At (layout.within layouts) → o.1.At layouts) := by
  have base := margin_within layouts layout
  unfold indented at done
  cases outlined : layout.outline with
  | false =>
    rw [outlined] at base done
    refine ⟨s, none, (opened_eq_ok h).mpr (.inl ⟨outlined, rfl, rfl⟩), ?_, ?_, o.1, done, ?_⟩
    · rwa [State.At, base]
    · rw [Layout.place, outlined]
      rfl
    · intro kept
      rwa [State.At, base] at kept
  | true =>
    rw [outlined] at base done
    simp only [if_true] at base
    cases blank : layout.indent.toList.find? (!Text.isIndentChar ·) with
    | some c =>
      rw [blank] at done
      cases done
    | none =>
      simp only [blank, h.indentBy_all] at done
      obtain ⟨⟨s₂, nodes⟩, ran, done⟩ := bind_eq_ok.mp done
      obtain ⟨s₃, back, done⟩ := bind_eq_ok.mp done
      obtain rfl := Except.ok.inj done
      refine ⟨_, _, (opened_eq_ok h).mpr (.inr ⟨outlined, blank, rfl, rfl⟩), ?_, ?_, s₂, ran, ?_⟩
      · rw [State.At, base]
        exact h.atIndent (by simp [margin])
      · rw [Layout.place, if_pos outlined, base]
      · intro kept
        rw [State.At, base] at kept
        rw [kept.dedentBy_all h.nonempty] at back
        obtain rfl := Except.ok.inj back
        exact kept.atIndent h.newline

/-! ### Blocks -/

theorem bindContext_at (h : s.At layouts) {names : List Ident}
    (done : bindContext env s names = .ok s') : s'.At layouts :=
  (h.bindContext_ends tolerates_any (fun _ _ => trivial) names).of_ok done

theorem bindItems_at (h : s.At layouts) {path : String} {items : List Ident}
    (done : bindItems env path s items = .ok s') : s'.At layouts :=
  (h.bindItems_ends tolerates_any (fun _ _ _ => trivial) items).of_ok done

theorem bindBody_at (h : s.At layouts) {k : Call Closure} {param : Option Ident}
    (done : bindBody s k param = .ok s') : s'.At layouts := by
  cases param with
  | none =>
    obtain rfl := Except.ok.inj done
    exact h
  | some name =>
    obtain ⟨body, -, done⟩ := bind_eq_ok.mp done
    obtain rfl := Except.ok.inj done
    exact h.push _ _

/-- The element of a call of a tag from outside. -/
theorem element_from {layout : Layout} {tag : Tag} {args : List (Value Closure)}
    {named : List (String × Value Closure)} {body : List (Node Closure)} {element : Node Closure}
    {below : List Origin} (inside : Node.AllFrom below body)
    (made : Node.ofHead ⟨some tag, args, named, (layout.place layouts).isSome⟩
      ((layout.place layouts).map .absolute) body = .ok element) :
    element.From ((if layout.outline then .call tag (layout.within layouts) else .inlineCall tag) ::
      below) := by
  unfold Layout.place at made
  split
  · next outline =>
    rw [if_pos outline] at made
    exact .ofHead (some _) inside made fun _ at_ => ⟨rfl, rfl, at_ _ rfl⟩
  · next inline =>
    rw [if_neg inline] at made
    exact .ofHead none inside made fun _ _ => ⟨rfl, rfl⟩

theorem forEach_told {index : Nat} {run : State Closure → Run (Output (State Closure) Closure)}
    {tell : State Closure → Run (List Origin)} {values : List (Value Closure)}
    (inner : ∀ s o, s.At layouts → run s = .ok o → Told layouts o (tell s)) (h : s.At layouts)
    (done : forEach index run s values = .ok o) :
    Told layouts o (forEachOrigins index run tell s values) := by
  induction values generalizing s o with
  | nil =>
    obtain rfl := Except.ok.inj done
    exact .none h
  | cons v vs ih =>
    obtain ⟨s₁, set, done⟩ := bind_eq_ok.mp done
    obtain ⟨⟨s₂, nodes⟩, ran, done⟩ := bind_eq_ok.mp done
    obtain ⟨⟨s₃, rest⟩, later, done⟩ := bind_eq_ok.mp done
    obtain rfl := Except.ok.inj done
    have h₁ := (h.set_ends tolerates_any index trivial).of_ok set
    -- Each round starts at the indentation of the loop, since the one before is cut back to it.
    obtain ⟨s', body, back⟩ := confined_eq_ok h₁ ran
    obtain ⟨kept, here, told, made⟩ := inner s₁ _ h₁ body
    obtain ⟨kept', others, told', made'⟩ := ih (back kept) later
    refine ⟨kept', here ++ others, ?_, made.append made'⟩
    simp only [forEachOrigins, set, told, ran, told', ok_bind]

variable [Host]

theorem text_from {layout : Layout} {parts : List Part}
    (done : text env s parts (layout.place layouts) = .ok o) :
    o.1 = s ∧ Node.AllFrom (if layout.outline then [.text (layout.within layouts)] else []) o.2 := by
  obtain ⟨written, -, done⟩ := bind_eq_ok.mp done
  unfold Layout.place at done
  cases outline : layout.outline with
  | false =>
    rw [outline] at done
    obtain rfl := Except.ok.inj done
    exact ⟨rfl, .single (.text _)⟩
  | true =>
    rw [outline] at done
    obtain ⟨group, grouped, done⟩ := bind_eq_ok.mp done
    obtain rfl := Except.ok.inj done
    have grouped : Node.group true (some (.absolute (margin (layout.within layouts)))) _ =
      .ok group := ofExcept_eq_ok.mp grouped
    have line : group.From [.text (layout.within layouts)] :=
      .ofHead (some _) (.single (.text _)) grouped fun _ at_ => ⟨rfl, rfl, at_ _ rfl⟩
    exact ⟨rfl, .single line⟩

/-- Expansions of closures make what is told of them. -/
def CallsTold (env : Env) (limit : Nat) : Prop :=
  ∀ (layouts : List String) (s : State Closure) (c : Closure) (k : Call Closure) o,
    s.At layouts → k.indent = margin layouts → expand env limit s c k = .ok o →
    Told layouts o (expandOrigins env limit layouts s c k)

mutual

theorem block_told {limit : Nat} (calls : CallsTold env limit) :
    ∀ (b : Block) (depth : Nat) (layouts : List String) (s : State Closure) o, s.At layouts →
      block env (expand env limit) depth s b = .ok o →
      Told layouts o (origins env (expand env limit) (expandOrigins env limit) depth layouts s b)
  | .text parts layout, depth, layouts, s, o, h, done => by
    unfold block at done
    obtain ⟨s₁, _, -, h₁, rfl, s₂, written, back⟩ := indented_eq_ok h done
    obtain ⟨same, made⟩ := text_from written
    obtain rfl : s₂ = s₁ := same
    exact ⟨back h₁, _, rfl, made⟩
  | .call name args body layout, depth, layouts, s, o, h, done => by
    unfold block at done
    obtain ⟨target, calling, done⟩ := bind_eq_ok.mp done
    obtain ⟨⟨vs, named⟩, passing, done⟩ := bind_eq_ok.mp done
    obtain ⟨s₁, _, opens, h₁, rfl, s₂, ran, back⟩ := indented_eq_ok h done
    obtain ⟨⟨s₃, nodes⟩, bodied, ran⟩ := bind_eq_ok.mp ran
    obtain ⟨s₄, body', back'⟩ := confined_eq_ok h₁ bodied
    -- The body is inside the line of the call, whatever is called.
    obtain ⟨kept, below, told, inside⟩ := blocks_told calls body depth _ s₁ _ h₁ body'
    simp only [origins, calling, passing, opens, lift_eq_ofExcept, ofExcept_ok, ok_bind]
    cases target with
    | inl tag =>
      obtain ⟨element, made, ran⟩ := bind_eq_ok.mp ran
      obtain ⟨rfl, nodes⟩ := Prod.mk.inj (Except.ok.inj ran)
      have made := element_from inside (locate_eq_ok.mp (ofExcept_eq_ok.mp made))
      simp only [told, ok_bind]
      exact ⟨back (back' kept), _, rfl, nodes ▸ .single made⟩
    | inr c =>
      obtain ⟨⟨s₅, expanded⟩, expands, ran⟩ := bind_eq_ok.mp ran
      obtain ⟨placed, starts, ran⟩ := bind_eq_ok.mp ran
      obtain ⟨rfl, nodes⟩ := Prod.mk.inj (Except.ok.inj ran)
      obtain ⟨kept, inner, told, made⟩ := calls _ s₃ c _ _ (back' kept) h₁.measured_place expands
      simp only [bodied, expands, told, ok_bind]
      exact ⟨back kept, _, rfl, nodes ▸ made.startLine (ofExcept_eq_ok.mp starts)⟩
  | .embed e layout, depth, layouts, s, o, h, done => by
    unfold block at done
    obtain ⟨v, value, done⟩ := bind_eq_ok.mp done
    obtain ⟨nodes, flat, done⟩ := bind_eq_ok.mp done
    obtain ⟨s₁, _, opens, h₁, rfl, s₂, ran, back⟩ := indented_eq_ok h done
    obtain ⟨placed, starts, ran⟩ := bind_eq_ok.mp ran
    obtain ⟨rfl, same⟩ := Prod.mk.inj (Except.ok.inj ran)
    have flat : locate env.source e.span v.flatten = .ok nodes := ofExcept_eq_ok.mp flat
    have made := (Node.AllFrom.embedded _).startLine (ofExcept_eq_ok.mp starts)
    simp only [origins, value, flat, opens, lift_eq_ofExcept, ofExcept_ok, ok_bind]
    exact ⟨back h₁, _, rfl, same ▸ made⟩
  | .define signature body, depth, layouts, s, o, h, done => by
    unfold block at done
    obtain rfl := Except.ok.inj done
    exact .none ((h.close ⟨signature, body, depth⟩).push _ trivial)
  | .assign name e, depth, layouts, s, o, h, done => by
    unfold block at done
    obtain ⟨v, -, done⟩ := bind_eq_ok.mp done
    obtain rfl := Except.ok.inj done
    exact .none (h.push _ v)
  | .context names, depth, layouts, s, o, h, done => by
    unfold block at done
    obtain ⟨s₁, bound, done⟩ := bind_eq_ok.mp done
    obtain rfl := Except.ok.inj done
    exact .none (bindContext_at h bound)
  | .importFrom path none span, depth, layouts, s, o, h, done => by
    unfold block at done
    obtain ⟨symbols, -, done⟩ := bind_eq_ok.mp done
    obtain rfl := Except.ok.inj done
    exact .none (h.pushAll fun _ _ => trivial)
  | .importFrom path (some items) _, depth, layouts, s, o, h, done => by
    unfold block at done
    obtain ⟨s₁, bound, done⟩ := bind_eq_ok.mp done
    obtain rfl := Except.ok.inj done
    exact .none (bindItems_at h bound)
  | .branch condition thenBlocks elseBlocks, depth, layouts, s, o, h, done => by
    unfold block at done
    obtain ⟨v, tests, done⟩ := bind_eq_ok.mp done
    simp only [origins, tests, ok_bind]
    split
    · next holds =>
      rw [if_pos holds] at done
      obtain ⟨s₁, ran, back⟩ := confined_eq_ok h done
      obtain ⟨kept, made⟩ := blocks_told calls thenBlocks depth layouts s _ h ran
      exact ⟨back kept, made⟩
    · next holds =>
      rw [if_neg holds] at done
      obtain ⟨s₁, ran, back⟩ := confined_eq_ok h done
      obtain ⟨kept, made⟩ := blocks_told calls elseBlocks depth layouts s _ h ran
      exact ⟨back kept, made⟩
  | .loop name items body, depth, layouts, s, o, h, done => by
    unfold block at done
    obtain ⟨v, ranges, done⟩ := bind_eq_ok.mp done
    simp only [origins, ranges, ok_bind]
    split at done
    · next values =>
      obtain ⟨⟨s₁, nodes⟩, repeats, done⟩ := bind_eq_ok.mp done
      obtain ⟨s₂, back, done⟩ := bind_eq_ok.mp done
      obtain rfl := Except.ok.inj done
      obtain ⟨kept, made⟩ := forEach_told (fun s o h => blocks_told calls body depth layouts s o h)
        (h.push (varSymbol name.name) .none) repeats
      exact ⟨(h.reset_ends tolerates_any kept).of_ok back, made⟩
    · cases done

theorem blocks_told {limit : Nat} (calls : CallsTold env limit) :
    ∀ (bs : List Block) (depth : Nat) (layouts : List String) (s : State Closure) o, s.At layouts →
      blocks env (expand env limit) depth s bs = .ok o →
      Told layouts o (allOrigins env (expand env limit) (expandOrigins env limit) depth layouts s bs)
  | [], depth, layouts, s, o, h, done => by
    obtain rfl := Except.ok.inj done
    exact .none h
  | b :: bs, depth, layouts, s, o, h, done => by
    unfold blocks at done
    obtain ⟨⟨s₁, nodes⟩, first, done⟩ := bind_eq_ok.mp done
    obtain ⟨⟨s₂, rest⟩, later, done⟩ := bind_eq_ok.mp done
    obtain rfl := Except.ok.inj done
    obtain ⟨kept, here, told, made⟩ := block_told calls b depth layouts s _ h first
    obtain ⟨kept', others, told', made'⟩ := blocks_told calls bs depth layouts s₁ _ kept later
    refine ⟨kept', here ++ others, ?_, made.append made'⟩
    simp only [allOrigins, told, first, told', ok_bind]

end

/-! ### Calls -/

theorem invoke_told {limit : Nat} (calls : CallsTold env limit) : CallsTold env (limit + 1) := by
  intro layouts s c k o h place done
  obtain ⟨slots, accepted, done⟩ := bind_eq_ok.mp done
  obtain ⟨s₁, entered, done⟩ := bind_eq_ok.mp done
  obtain ⟨s₂, bound, done⟩ := bind_eq_ok.mp done
  obtain ⟨s₃, bodied, done⟩ := bind_eq_ok.mp done
  obtain ⟨⟨s₄, nodes⟩, ran, done⟩ := bind_eq_ok.mp done
  obtain rfl := Except.ok.inj done
  obtain rfl := Except.ok.inj entered
  have accepts := mapError_eq_ok.mp (locate_eq_ok.mp (ofExcept_eq_ok.mp accepted))
  obtain ⟨params, filled⟩ := Call.arguments_inherit (Q := fun _ => True) (fun _ _ => trivial)
    (fun _ _ => trivial) accepts
  have listed : ∀ slot ∈ slots, slot.1 ∈ c.signature.params :=
    fun slot member => params ▸ List.mem_map_of_mem member
  have h₁ : State.At layouts (s.enter c k.indent) := place ▸ h.enter c (place ▸ h.newline)
  have h₂ := (h₁.bindParams_ends tolerates_any (fun _ _ _ _ _ _ _ _ => trivial) k.span 0 listed
    filled).of_ok bound
  obtain ⟨kept, inside, told, made⟩ :=
    blocks_told calls c.body (c.depth + 1) layouts s₃ _ (bindBody_at h₂ bodied) ran
  refine ⟨h.leave kept, inside, ?_, made⟩
  simp only [expandOrigins, invokeOrigins, accepted, entered, bound, bodied, ok_bind]
  exact told

theorem expand_told (env : Env) (limit : Nat) : CallsTold env limit := by
  induction limit with
  | zero => exact fun _ _ _ _ _ _ _ done => nomatch done
  | succ limit ih => exact invoke_told ih

end Translate

/-! ### Templates -/

namespace Template

open Translate

section Hosted

variable [Host] {t : Template} {context : Dict (Value Empty)}

/-- The origins of the elements of the document that a template is translated to. -/
def origins (t : Template) (context : Dict (Value Empty)) : Run (List Origin) := do
  let env := t.env context
  let limit := t.engine.callLimit
  let symbols ← (env.modules.initialSymbols : Except Error _)
  allOrigins env (expand env limit) (expandOrigins env limit) 1 []
    (pushAll (.start : State Closure) symbols) t.script.blocks

/-- Every element of a translated document has an origin, in order. One that a text or a call of a tag
from outside makes on a line of its own stands where the blocks around it put it: the indentations
of the elements from the root down to it add up to those of the blocks around it that have a line of
their own. What the body of a closure makes is inside the call of it. Branches, loops, definitions
and what is inline add nothing. -/
theorem translate_provenance {d : Document Closure} (translated : t.translate context = .ok d) :
    ∃ origins, t.origins context = .ok origins ∧
      List.Forall₂ Origin.Makes origins (Node.allPositions (some "") d.body) := by
  obtain ⟨symbols, found, translated⟩ := bind_eq_ok.mp translated
  obtain ⟨⟨s, nodes⟩, ran, translated⟩ := bind_eq_ok.mp translated
  obtain ⟨body, demoted, rfl⟩ := map_eq_ok.mp (ofExcept_eq_ok.mp translated)
  have start : State.At [] (pushAll (.start : State Closure) symbols) :=
    (State.Keeps.start _).pushAll fun _ _ => trivial
  obtain ⟨-, origins, told, made⟩ := blocks_told (expand_told _ _) t.script.blocks 1 [] _ _ start ran
  refine ⟨origins, ?_, made.demote (demoteAll_eq_ok.mp demoted)⟩
  simp only [Template.origins, found, told, ok_bind]

end Hosted

/-- A definition that starts in the line and goes on with a tag on a line of its own, called on a line
of its own inside a branch. -/
def nestedLines (readDepth : Option Nat) : List Block :=
  [.define ⟨⟨"box", {}⟩, [], none, readDepth⟩
    [.text [.raw "a"] {},
      .call ⟨"p", {}⟩ [] [.text [.raw "x"] ⟨true, "  "⟩] ⟨true, " "⟩],
    .branch (.literal (.bool true) {}) [.call ⟨"box", {}⟩ [] [] ⟨true, "\t"⟩] []]

theorem translate_provenance_nestedLines :
    letI := Host.bare
    let p : Tag := .markup (.standard .html) "p" false .html
    let engine : Engine := { modules := .ofRegistry [("p", p)], callLimit := 2 }
    let t : Template := ⟨engine, "", nestedLines (some 0), some 0⟩
    engine.compile ⟨"", nestedLines none⟩ = .ok t ∧
      ∃ d, t.translate [] = .ok d ∧ d.render = .ok "\ta\n\t <p>\n\t   x\n\t </p>" ∧
        List.Forall₂ Origin.Makes
          [.start ["\t"], .call p ["\t", " "], .text ["\t", " ", "  "]]
          (Node.allPositions (some "") d.body) := by
  let := Host.bare
  intro p engine t
  have compiled : engine.compile ⟨"", nestedLines none⟩ = .ok t := by
    rw [Engine.compile, Script.resolve_eq_resolveDeclared]
    cbv
  -- Scopes are hash maps, which `cbv` evaluates with equations from all over Mathlib.
  have rendered : t.renderWith [] = .ok "\ta\n\t <p>\n\t   x\n\t </p>" := by cbv
  obtain ⟨d, translated, rendered⟩ := bind_eq_ok.mp rendered
  obtain ⟨origins, told, made⟩ := translate_provenance translated
  have listed : t.origins [] =
      .ok [.start ["\t"], .call p ["\t", " "], .text ["\t", " ", "  "]] := by cbv
  obtain rfl := Except.ok.inj (told.symm.trans listed)
  exact ⟨compiled, d, translated, ofExcept_eq_ok.mp rendered, made⟩

end Template

end MarkupTemplate

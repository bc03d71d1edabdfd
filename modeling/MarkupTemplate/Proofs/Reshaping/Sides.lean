import MarkupTemplate.Proofs.Reshaping.Changes
import MarkupTemplate.Proofs.Scoping.Lexical

/-!
# Scripts before and after a change

A changed script and the one that it comes from are two sides of one script. The sides are related
block by block. Where they are not the same, the side before does in every state what other blocks do,
or it makes a closure that nothing but the call after it refers to.
-/

namespace MarkupTemplate

/-- The two sides of a change. -/
inductive Side where
  | before
  | after

/-- One thing before a change and another one after it. -/
def sides {α : Type} (before after : α) : Side → α
  | .before => before
  | .after => after

theorem eq_sides {α : Type} {f : Side → α} {a b : α} (before : f .before = a)
    (after : f .after = b) : f = sides a b := by
  funext w
  cases w with
  | before => exact before
  | after => exact after

theorem sides_map {α β : Type} (f : α → β) (before after : α) (w : Side) :
    sides (f before) (f after) w = f (sides before after w) := by
  cases w <;> rfl

/-- A block without blocks inside. -/
def Block.Flat : Block → Prop
  | .text .. | .embed .. | .assign .. | .context _ | .importFrom .. => True
  | _ => False

/-- Two sides that make the same nodes, as far as the side before does not stop in an exempt way,
wherever nothing is told apart but some hidden symbols. The sides of a definition may be charged with
different depths. -/
inductive Reshapes (m : Modules) (exempt : Side → Stop → Prop) :
    List String → (Side → List Block) → Prop
  | nil {hidden : List String} : Reshapes m exempt hidden fun _ => []
  | flat {hidden : List String} {b : Block} {rest : Side → List Block} :
    b.Flat → Reference.AllAvoid hidden b.references →
    Reshapes m exempt (remaining hidden (b.bound m)) rest →
    Reshapes m exempt hidden fun w => b :: rest w
  | call {hidden : List String} {name : Ident} {args : List Arg} {layout : Layout}
      {body rest : Side → List Block} :
    Reference.AllAvoid hidden (.call name :: Expr.allReferences (Resolve.argExprs args)) →
    Reshapes m exempt hidden body → Reshapes m exempt hidden rest →
    Reshapes m exempt hidden fun w => .call name args (body w) layout :: rest w
  | define {hidden : List String} {signature : Signature} {readDepth : Side → Option Nat}
      {body rest : Side → List Block} :
    Reference.AllAvoid hidden (Expr.allReferences (Resolve.defaultExprs signature.params)) →
    Reshapes m exempt (remaining hidden signature.bound) body →
    Reshapes m exempt (remaining hidden [tagSymbol signature.name.name]) rest →
    Reshapes m exempt hidden
      fun w => .define { signature with readDepth := readDepth w } (body w) :: rest w
  | branch {hidden : List String} {condition : Expr}
      {thenBlocks elseBlocks rest : Side → List Block} :
    Reference.AllAvoid hidden condition.references →
    Reshapes m exempt hidden thenBlocks → Reshapes m exempt hidden elseBlocks →
    Reshapes m exempt hidden rest →
    Reshapes m exempt hidden fun w => .branch condition (thenBlocks w) (elseBlocks w) :: rest w
  | loop {hidden : List String} {name : Ident} {items : Expr} {body rest : Side → List Block} :
    Reference.AllAvoid hidden items.references →
    Reshapes m exempt (remaining hidden [varSymbol name.name]) body →
    Reshapes m exempt hidden rest →
    Reshapes m exempt hidden fun w => .loop name items (body w) :: rest w
  | inline {hidden : List String} {signature : Signature} {name : Ident} {layout : Layout}
      {span : Span} {body rest : Side → List Block} :
    signature.params = [] → signature.bodyParam = none → name.name = signature.name.name →
    layout.outline = false → exempt .before .callDepth → Reshapes m exempt hidden body →
    Reshapes m exempt (tagSymbol signature.name.name :: hidden) rest →
    Reshapes m exempt hidden (sides
      (.define signature (body .before) :: .call name [] [] layout :: rest .before)
      (.branch (.literal (.bool true) span) (body .after) [] :: rest .after))

variable {m : Modules} {exempt : Side → Stop → Prop} {hidden : List String}

theorem annotated_sides (scope : Side → Declarations) (depth : Side → Nat) (bs bs' : List Block) :
    (fun w => Block.allAnnotated m (scope w) (depth w) (sides bs bs' w)) =
      sides (Block.allAnnotated m (scope .before) (depth .before) bs)
        (Block.allAnnotated m (scope .after) (depth .after) bs') :=
  eq_sides rfl rfl

theorem Reshapes.unbound {rest : Side → List Block}
    (h : Reshapes m exempt (remaining hidden []) rest) : Reshapes m exempt hidden rest := by
  rwa [remaining_none] at h

/-! ### Equal sides -/

mutual

theorem Block.reshapes_cons : ∀ (b : Block) {hidden : List String} {scope : Side → Declarations}
    {depth : Side → Nat} {rest : Side → List Block}, Reference.AllAvoid hidden b.references →
    b.InnerAvoid m hidden → Reshapes m exempt (remaining hidden (b.bound m)) rest →
    Reshapes m exempt hidden fun w => b.annotated m (scope w) (depth w) :: rest w
  | .call _ _ body _, _, _, _, _, here, inside, later =>
    .call here (Block.reshapes_all body inside) later.unbound
  | .define _ body, _, _, _, _, here, inside, later =>
    .define here (Block.reshapes_all body inside) later
  | .branch _ thenBlocks elseBlocks, _, _, _, _, here, inside, later =>
    .branch here (Block.reshapes_all thenBlocks inside.1) (Block.reshapes_all elseBlocks inside.2)
      later.unbound
  | .loop _ _ body, _, _, _, _, here, inside, later =>
    .loop here (Block.reshapes_all body inside) later.unbound
  | .text .., _, _, _, _, here, _, later | .embed .., _, _, _, _, here, _, later
  | .assign .., _, _, _, _, here, _, later | .context _, _, _, _, _, here, _, later
  | .importFrom .., _, _, _, _, here, _, later => .flat trivial here later

/-- Blocks that avoid the hidden symbols are the same on both sides, but for what their definitions
are charged with. -/
theorem Block.reshapes_all : ∀ (bs : List Block) {hidden : List String}
    {scope : Side → Declarations} {depth : Side → Nat}, Block.AllAvoid m hidden bs →
    Reshapes m exempt hidden fun w => Block.allAnnotated m (scope w) (depth w) bs
  | [], _, _, _, _ => .nil
  | b :: bs, _, _, _, ⟨here, inside, later⟩ =>
    b.reshapes_cons here inside (Block.reshapes_all bs later)

end

/-! ### Changed sides -/

/-- Blocks that change are two sides, wherever they stand. -/
theorem Changes.reshapes {change : List Block → List Block → Prop}
    (reshapes : ∀ bs bs', change bs bs' → ∀ (scope : Side → Declarations) (depth : Side → Nat),
      Reshapes m exempt [] fun w =>
        Block.allAnnotated m (scope w) (depth w) (sides bs bs' w))
    {bs bs' : List Block} (h : Changes change bs bs') (scope : Side → Declarations)
    (depth : Side → Nat) :
    Reshapes m exempt [] fun w => Block.allAnnotated m (scope w) (depth w) (sides bs bs' w) := by
  have others (bs : List Block) (scope : Side → Declarations) (depth : Side → Nat) :
      Reshapes m exempt [] fun w => Block.allAnnotated m (scope w) (depth w) bs :=
    Block.reshapes_all bs (Block.allAvoid_nil m bs)
  have avoids := Reference.allAvoid_nil
  induction h generalizing scope depth with
  | here changed => exact reshapes _ _ changed scope depth
  | @later b bs bs' _ ih =>
    simp only [sides_map (b :: ·)]
    exact b.reshapes_cons (avoids _) (b.innerAvoid_nil m) (ih _ depth)
  | @call name args body body' layout bs _ ih =>
    simp only [sides_map (.call name args · layout :: bs)]
    exact .call (avoids _) (ih scope depth) (others bs _ depth)
  | @define signature body body' bs _ ih =>
    simp only [sides_map (.define signature · :: bs)]
    exact .define (avoids _) (ih _ (depth · + 1)) (others bs _ depth)
  | @thenBlocks condition inner inner' elseBlocks bs _ ih =>
    simp only [sides_map (.branch condition · elseBlocks :: bs)]
    exact .branch (avoids _) (ih scope depth) (others elseBlocks scope depth) (others bs _ depth)
  | @elseBlocks condition thenBlocks inner inner' bs _ ih =>
    simp only [sides_map (.branch condition thenBlocks · :: bs)]
    exact .branch (avoids _) (others thenBlocks scope depth) (ih scope depth) (others bs _ depth)
  | @loop name items body body' bs _ ih =>
    simp only [sides_map (.loop name items · :: bs)]
    exact .loop (avoids _) (ih _ depth) (others bs _ depth)

end MarkupTemplate

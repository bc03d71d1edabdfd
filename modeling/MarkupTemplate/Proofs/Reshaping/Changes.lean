import Mathlib.Data.List.Defs
import MarkupTemplate.Proofs.Declared.Sites
import MarkupTemplate.Proofs.Replace.Value

/-!
# Changes to scripts

Two ways to write the same: a loop over values that are written out is a row of branches, one for each
value, and a call of a definition that has no other use is a branch with the body of the definition.
Such blocks may stand anywhere in a script.
-/

namespace MarkupTemplate

/-- Some blocks change, at one place in a list of blocks or in a list inside of it. -/
inductive Changes (change : List Block → List Block → Prop) : List Block → List Block → Prop
  | here {bs bs' : List Block} : change bs bs' → Changes change bs bs'
  | later {b : Block} {bs bs' : List Block} :
    Changes change bs bs' → Changes change (b :: bs) (b :: bs')
  | call {name : Ident} {args : List Arg} {body body' : List Block} {layout : Layout}
      {bs : List Block} :
    Changes change body body' →
    Changes change (.call name args body layout :: bs) (.call name args body' layout :: bs)
  | define {signature : Signature} {body body' bs : List Block} :
    Changes change body body' →
    Changes change (.define signature body :: bs) (.define signature body' :: bs)
  | thenBlocks {condition : Expr} {inner inner' elseBlocks bs : List Block} :
    Changes change inner inner' →
    Changes change (.branch condition inner elseBlocks :: bs)
      (.branch condition inner' elseBlocks :: bs)
  | elseBlocks {condition : Expr} {thenBlocks inner inner' bs : List Block} :
    Changes change inner inner' →
    Changes change (.branch condition thenBlocks inner :: bs)
      (.branch condition thenBlocks inner' :: bs)
  | loop {name : Ident} {items : Expr} {body body' bs : List Block} :
    Changes change body body' →
    Changes change (.loop name items body :: bs) (.loop name items body' :: bs)

/-! ### Unrolling loops -/

mutual

/-- The value of an expression that is written out. -/
def Expr.constant? : Expr → Option (Value Empty)
  | .literal value _ => some value
  | .list items => .list <$> Expr.constants? items
  | _ => none

def Expr.constants? : List Expr → Option (List (Value Empty))
  | [] => some []
  | e :: es => do
    let v ← e.constant?
    let vs ← Expr.constants? es
    some (v :: vs)

end

section Constant

variable {κ : Type} [Host] [Shows κ] {source : String} {look : String → Option (Value κ)}

mutual

theorem Expr.eval_constant : ∀ {e : Expr} {v : Value Empty}, e.constant? = some v →
    e.eval source look = .ok v.lift
  | .literal value _, v, h => by
    obtain rfl := Option.some.inj h
    rfl
  | .list items, v, h => by
    obtain ⟨vs, inside, rfl⟩ := Option.map_eq_some_iff.mp h
    rw [eval, Expr.evalAll_constants inside, Value.lift, Value.mapClosures,
      Value.mapClosuresList_eq]
    rfl
  | .var .., _, h | .tagRef _, _, h | .not _, _, h | .concat _, _, h | .filter .., _, h => nomatch h

theorem Expr.evalAll_constants : ∀ {es : List Expr} {vs : List (Value Empty)},
    Expr.constants? es = some vs → Expr.evalAll source look es = .ok (vs.map Value.lift)
  | [], vs, h => by
    obtain rfl := Option.some.inj h
    rfl
  | e :: es, vs, h => by
    obtain ⟨v, here, h⟩ := Option.bind_eq_some_iff.mp h
    obtain ⟨vs', later, h⟩ := Option.bind_eq_some_iff.mp h
    obtain rfl := Option.some.inj h
    rw [evalAll, Expr.eval_constant here, Expr.evalAll_constants later]
    rfl

end

end Constant

mutual

theorem Expr.references_constant : ∀ {e : Expr} {v : Value Empty}, e.constant? = some v →
    e.references = []
  | .literal .., _, _ => rfl
  | .list items, v, h => by
    obtain ⟨vs, inside, rfl⟩ := Option.map_eq_some_iff.mp h
    exact Expr.allReferences_constants inside
  | .var .., _, h | .tagRef _, _, h | .not _, _, h | .concat _, _, h | .filter .., _, h => nomatch h

theorem Expr.allReferences_constants : ∀ {es : List Expr} {vs : List (Value Empty)},
    Expr.constants? es = some vs → Expr.allReferences es = []
  | [], _, _ => rfl
  | e :: es, vs, h => by
    obtain ⟨v, here, h⟩ := Option.bind_eq_some_iff.mp h
    obtain ⟨vs', later, -⟩ := Option.bind_eq_some_iff.mp h
    rw [allReferences, Expr.references_constant here, Expr.allReferences_constants later]
    rfl

end

/-- A branch that is always taken, which binds a name to a value and goes on with some blocks. -/
inductive Block.Round (name : Ident) (body : List Block) (v : Value Empty) : Block → Prop
  | mk {e : Expr} {span place : Span} : e.constant? = some v →
    Round name body v
      (.branch (.literal (.bool true) span) (.assign ⟨name.name, place⟩ e :: body) [])

/-- A loop over values that are written out is a round for each of them. -/
inductive Unrolling : List Block → List Block → Prop
  | mk {name : Ident} {items : Expr} {body rounds rest : List Block} {values : List (Value Empty)} :
    items.constant? = some (.list values) → List.Forall₂ (Block.Round name body) values rounds →
    Unrolling (.loop name items body :: rest) (rounds ++ rest)

/-! ### Inlining calls -/

/-- The symbols of a list that are not bound again. -/
def remaining (hidden bound : List String) : List String := hidden.filter (· ∉ bound)

@[simp] theorem mem_remaining {hidden bound : List String} {symbol : String} :
    symbol ∈ remaining hidden bound ↔ symbol ∈ hidden ∧ symbol ∉ bound := by
  simp [remaining]

@[simp] theorem remaining_none (hidden : List String) : remaining hidden [] = hidden := by
  simp [remaining]

/-- References that look up none of some symbols. -/
def Reference.AllAvoid (hidden : List String) (references : List Reference) : Prop :=
  ∀ r ∈ references, ∀ symbol ∈ r.symbols, symbol ∉ hidden

theorem Reference.allAvoid_nil (references : List Reference) : AllAvoid [] references :=
  fun _ _ _ _ => List.not_mem_nil

mutual

/-- The blocks inside do not refer to what some symbols stand for where the block stands. -/
def Block.InnerAvoid (m : Modules) (hidden : List String) : Block → Prop
  | .call _ _ body _ => Block.AllAvoid m hidden body
  | .define signature body => Block.AllAvoid m (remaining hidden signature.bound) body
  | .branch _ thenBlocks elseBlocks =>
    Block.AllAvoid m hidden thenBlocks ∧ Block.AllAvoid m hidden elseBlocks
  | .loop name _ body => Block.AllAvoid m (remaining hidden [varSymbol name.name]) body
  | _ => True

/-- The blocks do not refer to what some symbols stand for where the first one stands, but may bind
the symbols again and refer to that. -/
def Block.AllAvoid (m : Modules) (hidden : List String) : List Block → Prop
  | [] => True
  | b :: bs => Reference.AllAvoid hidden b.references ∧ b.InnerAvoid m hidden ∧
    Block.AllAvoid m (remaining hidden (b.bound m)) bs

end

mutual

theorem Block.innerAvoid_nil (m : Modules) : ∀ b : Block, b.InnerAvoid m []
  | .call _ _ body _ => Block.allAvoid_nil m body
  | .define _ body => Block.allAvoid_nil m body
  | .branch _ thenBlocks elseBlocks =>
    ⟨Block.allAvoid_nil m thenBlocks, Block.allAvoid_nil m elseBlocks⟩
  | .loop _ _ body => Block.allAvoid_nil m body
  | .text .. | .embed .. | .assign .. | .context _ | .importFrom .. => trivial

theorem Block.allAvoid_nil (m : Modules) : ∀ bs : List Block, Block.AllAvoid m [] bs
  | [] => trivial
  | b :: bs => ⟨Reference.allAvoid_nil _, b.innerAvoid_nil m, Block.allAvoid_nil m bs⟩

end

/-- A definition without parameters that is called at once, and to which nothing else refers, is a
branch with its body. -/
inductive Inlining (m : Modules) : List Block → List Block → Prop
  | mk {signature : Signature} {body rest : List Block} {name : Ident} {layout : Layout}
      {span : Span} :
    signature.params = [] → signature.bodyParam = none → name.name = signature.name.name →
    layout.outline = false → Block.AllAvoid m [tagSymbol signature.name.name] rest →
    Inlining m (.define signature body :: .call name [] [] layout :: rest)
      (.branch (.literal (.bool true) span) body [] :: rest)

end MarkupTemplate

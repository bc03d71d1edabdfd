import MarkupTemplate.Proofs.Reshaping.Compiled
import MarkupTemplate.Proofs.Scoping.Ledger

/-!
# Unrolling loops

A loop binds its name once and replaces the value before each round. On sheets this leaves nothing
behind: each round finds the state that a branch of its own would find. So all loops over values that
are written out may be read as their rounds, and then a script with a loop and one with its rounds are
read in the same way.
-/

namespace MarkupTemplate

open Translate

/-! ### Scripts without loops over written out values -/

/-- A value that is written out is one literal. -/
def Expr.written (e : Expr) : Expr :=
  match e.constant? with
  | some v => .literal v {}
  | none => e

/-- The branch that a loop is for one value. -/
def Block.roundOf (name : Ident) (body : List Block) (v : Value Empty) : Block :=
  .branch (.literal (.bool true) {}) (.assign ⟨name.name, {}⟩ (.literal v {}) :: body) []

mutual

/-- A block in which loops over written out values are their rounds. -/
def Block.unrolled : Block → List Block
  | .call name args body layout => [.call name args (Block.allUnrolled body) layout]
  | .define signature body =>
    [.define { signature with readDepth := none } (Block.allUnrolled body)]
  | .branch condition thenBlocks elseBlocks =>
    [.branch condition.written (Block.allUnrolled thenBlocks) (Block.allUnrolled elseBlocks)]
  | .loop name items body =>
    match items.constant? with
    | some (.list values) => values.map (Block.roundOf name (Block.allUnrolled body))
    | _ => [.loop name items (Block.allUnrolled body)]
  | .text parts layout => [.text parts layout]
  | .embed e layout => [.embed e layout]
  | .assign name e => [.assign ⟨name.name, {}⟩ e.written]
  | .context names => [.context names]
  | .importFrom path items span => [.importFrom path items span]

def Block.allUnrolled : List Block → List Block
  | [] => []
  | b :: bs => b.unrolled ++ Block.allUnrolled bs

end

namespace Block

theorem Round.unrolled {name : Ident} {body : List Block} {v : Value Empty} {b : Block}
    (h : Round name body v b) : b.unrolled = [roundOf name (allUnrolled body) v] := by
  obtain ⟨constant⟩ := h
  simp [Block.unrolled, allUnrolled, roundOf, Expr.written, constant, Expr.constant?]

end Block

mutual

theorem Block.unrolled_annotated (m : Modules) : ∀ (b : Block) (scope : Declarations) (depth : Nat),
    (b.annotated m scope depth).unrolled = b.unrolled
  | .call _ _ body _, scope, depth => by
    simp only [annotated, unrolled, Block.allUnrolled_annotated m body]
  | .define _ body, scope, depth => by
    simp only [annotated, unrolled, Block.allUnrolled_annotated m body]
  | .branch _ thenBlocks elseBlocks, scope, depth => by
    simp only [annotated, unrolled, Block.allUnrolled_annotated m thenBlocks,
      Block.allUnrolled_annotated m elseBlocks]
  | .loop _ _ body, scope, depth => by
    simp only [annotated, unrolled, Block.allUnrolled_annotated m body]
  | .text .., _, _ | .embed .., _, _ | .assign .., _, _ | .context _, _, _ | .importFrom .., _, _ =>
    rfl

/-- The depths of what definitions read do not matter. -/
theorem Block.allUnrolled_annotated (m : Modules) : ∀ (bs : List Block) (scope : Declarations)
    (depth : Nat), Block.allUnrolled (Block.allAnnotated m scope depth bs) = Block.allUnrolled bs
  | [], _, _ => rfl
  | b :: bs, scope, depth => by
    rw [allAnnotated, allUnrolled, allUnrolled, Block.unrolled_annotated m b,
      Block.allUnrolled_annotated m bs]

end

namespace Translate

variable [Host] {env : Env}

section Blocks

variable {σ κ μ : Type} [Defined κ] [Scoping σ κ μ] {call : Caller σ κ} {depth : Nat}

end Blocks

variable {call : Caller Ledger Closure} {depth : Nat} {name : Ident} {body : List Block}

end Translate

/-! ### Templates -/

/-- A loop refers to no less than its rounds. -/
theorem Unrolling.clean {env : Resolve.Env} {bs bs' : List Block} (h : Unrolling bs bs')
    (scope : Declarations) (depth : Nat) (clean : Block.AllClean env scope depth bs) :
    Block.AllClean env scope depth bs' := by
  obtain ⟨constant, rounds⟩ := h
  obtain ⟨inner, rest⟩ :=
    (Block.allClean_cons_inner (b := .loop ..) (Expr.references_constant constant) rfl rfl).mp clean
  clear clean constant
  induction rounds with
  | nil => exact rest
  | cons round _ ih =>
    obtain ⟨constant⟩ := round
    refine (Block.allClean_cons_inner (b := .branch ..) rfl rfl rfl).mpr ⟨?_, ih⟩
    refine List.forall_mem_append.mpr ⟨Block.allClean_cons.mpr ⟨?_, nofun, inner⟩, nofun⟩
    simp [Site.offences, Block.references, Block.importOffences, Expr.references_constant constant]

end MarkupTemplate

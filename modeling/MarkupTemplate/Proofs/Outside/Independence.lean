import MarkupTemplate.Proofs.Outside.Calls
import MarkupTemplate.Proofs.Scoping.Refinement

/-!
# Templates that read nothing from outside

What a template reads is told by its read depth. If that is not 0, then neither what the caller
provides nor what the modules hold changes anything: scripts are resolved against the names in
modules only, and all translations make the same document.
-/

namespace MarkupTemplate

/-! ### Resolving against names -/

section Names

variable {m m' : Modules}

namespace Modules.SameNames

/-- Two sets of modules as two worlds. -/
theorem worlds (same : m.SameNames m') : ∀ other : Bool, m.SameNames (cond other m' m)
  | true => same
  | false => .refl m

theorem publicSymbols (same : m.SameNames m') (path : String) :
    List.map (·.1) <$> m'.publicSymbols path = List.map (·.1) <$> m.publicSymbols path := by
  obtain ⟨joint, here, -⟩ := publicSymbols_uniform same.worlds path
  have names (w : Bool) : List.map (·.1) <$> (cond w m' m).publicSymbols path =
      List.map (·.1) <$> joint := by
    refine (congrArg _ (here w)).trans ((Functor.map_map ..).trans ?_)
    simp [Function.comp_def]
  exact (names true).trans (names false).symm

theorem symbol (same : m.SameNames m') (symbol path : String) :
    Function.const _ () <$> m'.symbol symbol path =
      Function.const _ () <$> m.symbol symbol path := by
  obtain ⟨joint, here, -⟩ := symbol_uniform same.worlds symbol path
  have found (w : Bool) : Function.const _ () <$> (cond w m' m).symbol symbol path =
      Function.const _ () <$> joint :=
    (congrArg _ (here w)).trans (Functor.map_map ..)
  exact (found true).trans (found false).symm

end Modules.SameNames

theorem Block.bound_sameNames (same : m.SameNames m') (b : Block) : b.bound m' = b.bound m := by
  cases b with
  | importFrom path items span =>
    cases items with
    | some items => rfl
    | none =>
      have names := same.publicSymbols path
      simp only [bound]
      cases here : m.publicSymbols path <;> cases there : m'.publicSymbols path <;>
        simp_all [Except.toOption]
  | _ => rfl

theorem Block.declares_sameNames (same : m.SameNames m') (depth : Nat) (b : Block) :
    b.declares m' depth = b.declares m depth := by
  rw [declares, declares, b.bound_sameNames same]

mutual

theorem Block.innerSites_sameNames (same : m.SameNames m') : ∀ (b : Block) (scope : Declarations)
    (depth : Nat), b.innerSites m' scope depth = b.innerSites m scope depth
  | .call _ _ body _, scope, depth => Block.allSites_sameNames same body scope depth
  | .define _ body, _, _ => Block.allSites_sameNames same body _ _
  | .branch _ thenBlocks elseBlocks, scope, depth => by
    simp only [innerSites, Block.allSites_sameNames same thenBlocks,
      Block.allSites_sameNames same elseBlocks]
  | .loop _ _ body, _, depth => Block.allSites_sameNames same body _ depth
  | .text .., _, _ | .embed .., _, _ | .assign .., _, _ | .context _, _, _
  | .importFrom .., _, _ => rfl

theorem Block.allSites_sameNames (same : m.SameNames m') : ∀ (bs : List Block)
    (scope : Declarations) (depth : Nat),
    Block.allSites m' scope depth bs = Block.allSites m scope depth bs
  | [], _, _ => rfl
  | b :: bs, scope, depth => by
    simp only [allSites, b.declares_sameNames same, Block.innerSites_sameNames same b,
      Block.allSites_sameNames same bs]

end

mutual

theorem Block.annotated_sameNames (same : m.SameNames m') : ∀ (b : Block) (scope : Declarations)
    (depth : Nat), b.annotated m' scope depth = b.annotated m scope depth
  | .call _ _ body _, scope, depth => by
    simp only [annotated, Block.allAnnotated_sameNames same body]
  | .define _ body, _, _ => by
    simp only [annotated, Block.allSites_sameNames same, Block.allAnnotated_sameNames same body]
  | .branch _ thenBlocks elseBlocks, scope, depth => by
    simp only [annotated, Block.allAnnotated_sameNames same thenBlocks,
      Block.allAnnotated_sameNames same elseBlocks]
  | .loop _ _ body, _, depth => by
    simp only [annotated, Block.allAnnotated_sameNames same body]
  | .text .., _, _ | .embed .., _, _ | .assign .., _, _ | .context _, _, _
  | .importFrom .., _, _ => rfl

theorem Block.allAnnotated_sameNames (same : m.SameNames m') : ∀ (bs : List Block)
    (scope : Declarations) (depth : Nat),
    Block.allAnnotated m' scope depth bs = Block.allAnnotated m scope depth bs
  | [], _, _ => rfl
  | b :: bs, scope, depth => by
    simp only [allAnnotated, b.declares_sameNames same, Block.annotated_sameNames same b,
      Block.allAnnotated_sameNames same bs]

end

end Names

/-! ### Sites of a template -/

theorem Block.contextNames_lists {b : Block} {scope inner : Declarations} {depth deeper : Nat}
    {body : List Block} (there : (inner, deeper, body) ∈ b.lists scope depth) :
    Block.allContextNames body ⊆ b.contextNames := by
  cases b with
  | call name args bs layout =>
    cases List.mem_singleton.mp there
    exact List.Subset.refl _
  | define signature bs =>
    cases List.mem_singleton.mp there
    exact List.Subset.refl _
  | branch condition thenBlocks elseBlocks =>
    simp only [lists, List.mem_cons, Prod.mk.injEq, List.not_mem_nil, or_false] at there
    rcases there with ⟨-, -, rfl⟩ | ⟨-, -, rfl⟩
    · exact List.subset_append_left _ _
    · exact List.subset_append_right _ _
  | loop name items bs =>
    cases List.mem_singleton.mp there
    exact List.Subset.refl _
  | _ => cases there

/-- What a site takes from the caller is taken by the list that it stands in. -/
theorem Stands.contextNames {m : Modules} {scope : Declarations} {depth : Nat} {bs : List Block}
    {site : Site} (h : Stands m scope depth bs site) :
    site.block.contextNames ⊆ Block.allContextNames bs := by
  induction h with
  | here => exact List.subset_append_left _ _
  | inside there _ ih =>
    exact fun _ member => List.mem_append_left _ (Block.contextNames_lists there (ih member))
  | later _ ih => exact fun _ member => List.mem_append_right _ (ih member)

namespace Template

open Translate

variable {engine : Engine} {script : Script} {t : Template}

section Hosted

variable [Host] [Host.HandsOn]

section

variable {context context' : Dict (Value Empty)}
  (provided : ∀ name ∈ Block.allContextNames t.script.blocks, (Dict.get? name.name context).isSome)
  (provided' : ∀ name ∈ Block.allContextNames t.script.blocks,
    (Dict.get? name.name context').isSome)

include provided provided'

end

end Hosted

end Template

end MarkupTemplate

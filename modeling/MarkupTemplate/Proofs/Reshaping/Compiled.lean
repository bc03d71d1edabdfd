import MarkupTemplate.Proofs.Declared.Charges
import MarkupTemplate.Proofs.Reshaping.Changes
import MarkupTemplate.Proofs.Scoping.View

/-!
# Compiling changed scripts

A script compiles if nothing is wrong at any of its sites. This stays so where blocks change into others
that refer to no more, and where a symbol is no longer visible that the blocks do not refer to.
-/

namespace MarkupTemplate

open Resolve (defaultExprs)

variable {env : Resolve.Env} {m : Modules} {scope scope' : Declarations} {depth depth' : Nat}
  {hidden : List String}

/-- Nothing is wrong with some blocks or those inside. -/
def Block.AllClean (env : Resolve.Env) (scope : Declarations) (depth : Nat) (bs : List Block) :
    Prop :=
  ∀ site ∈ Block.allSites env.modules scope depth bs, site.offences env = []

/-- Nothing is wrong with the blocks inside a block. -/
def Block.InnerClean (env : Resolve.Env) (scope : Declarations) (depth : Nat) (b : Block) : Prop :=
  ∀ site ∈ b.innerSites env.modules scope depth, site.offences env = []

namespace Block

theorem allClean_nil : AllClean env scope depth [] := nofun

theorem allClean_cons {b : Block} {bs : List Block} : AllClean env scope depth (b :: bs) ↔
    (⟨scope, depth, b⟩ : Site).offences env = [] ∧ b.InnerClean env scope depth ∧
      AllClean env (scope ++ b.declares env.modules depth) depth bs := by
  simp only [AllClean, InnerClean, allSites, List.forall_mem_cons, List.forall_mem_append]

/-- A block without references is clean if the blocks inside are. -/
theorem allClean_cons_inner {b : Block} {bs : List Block} (references : b.references = [])
    (imports : b.importOffences env = []) (unbound : b.bound env.modules = []) :
    AllClean env scope depth (b :: bs) ↔
      b.InnerClean env scope depth ∧ AllClean env scope depth bs := by
  have right : (⟨scope, depth, b⟩ : Site).offences env = [] := by
    simp [Site.offences, references, imports]
  rw [allClean_cons, declares, unbound, List.map_nil, List.append_nil]
  exact and_iff_right right

end Block

/-! ### Compiling -/

namespace Engine

variable {engine : Engine} {script : Script} {t : Template}

/-- The template of a script in which nothing is wrong. -/
def template (engine : Engine) (script : Script) : Template where
  engine := engine
  script := {
    source := script.source
    blocks := Block.allAnnotated engine.modules engine.modules.outside 1 script.blocks
    readDepth :=
      shallowestRead 1 (Block.allSites engine.modules engine.modules.outside 1 script.blocks) }

end Engine

/-! ### Fewer visible symbols -/

/-- Every symbol that is visible in one scope, and not hidden, is visible in another one. -/
def Declarations.Shows (hidden : List String) (scope scope' : Declarations) : Prop :=
  ∀ symbol ∈ scope.map (·.1), symbol ∉ hidden → symbol ∈ scope'.map (·.1)

namespace Declarations.Shows

theorem append (h : scope.Shows hidden scope') (symbols : List String) (d d' : Declaration) :
    Shows (remaining hidden symbols) (scope ++ symbols.map (·, d)) (scope' ++ symbols.map (·, d')) := by
  intro symbol member shown
  simp only [List.map_append, List.map_map, Function.comp_def, List.map_id', List.mem_append] at *
  by_cases bound : symbol ∈ symbols
  · exact .inr bound
  · refine .inl (h symbol (member.resolve_right bound) fun there => shown ?_)
    exact mem_remaining.mpr ⟨there, bound⟩

theorem declares (h : scope.Shows hidden scope') (m : Modules) (b : Block) :
    Shows (remaining hidden (b.bound m)) (scope ++ b.declares m depth)
      (scope' ++ b.declares m depth') :=
  h.append (b.bound m) _ _

/-- A reference that avoids what is hidden stays right. -/
theorem offences (h : scope.Shows hidden scope') (source : String) {r : Reference}
    (avoids : ∀ symbol ∈ r.symbols, symbol ∉ hidden) (clean : r.offences source scope = []) :
    r.offences source scope' = [] := by
  have found : ∀ scope : Declarations, r.declarations scope ≠ [] ↔
      ∃ symbol ∈ r.symbols, symbol ∈ scope.map (·.1) := by
    intro scope
    simp only [r.declarations_eq, ne_eq, List.flatMap_eq_nil_iff, not_forall, exists_prop,
      Option.toList_eq_nil_iff, ← isSome_lastBinding?, Declarations.find?, Option.map_eq_none_iff,
      Option.isSome_iff_ne_none]
  have declared : r.declarations scope ≠ [] := by
    intro none
    rw [Reference.offences, if_pos (List.isEmpty_iff.mpr none)] at clean
    cases clean
  obtain ⟨symbol, looked, visible⟩ := (found scope).mp declared
  have still := (found scope').mpr ⟨symbol, looked, h symbol visible (avoids symbol looked)⟩
  rw [Reference.offences, if_neg (mt List.isEmpty_iff.mp still)]

end Declarations.Shows

mutual

theorem Block.InnerClean.shows : ∀ {b : Block} {hidden : List String} {scope scope' : Declarations}
    {depth depth' : Nat}, b.InnerClean env scope depth → scope.Shows hidden scope' →
    b.InnerAvoid env.modules hidden → b.InnerClean env scope' depth'
  | .call _ _ body _, _, _, _, _, _, clean, shows, avoids =>
    Block.AllClean.shows body clean shows avoids
  | .define signature body, _, _, _, _, _, clean, shows, avoids =>
    Block.AllClean.shows body clean (shows.append signature.bound _ _) avoids
  | .branch _ thenBlocks elseBlocks, _, _, _, _, _, clean, shows, avoids => by
    obtain ⟨first, second⟩ := List.forall_mem_append.mp clean
    exact List.forall_mem_append.mpr ⟨Block.AllClean.shows thenBlocks first shows avoids.1,
      Block.AllClean.shows elseBlocks second shows avoids.2⟩
  | .loop name _ body, _, _, _, _, _, clean, shows, avoids =>
    Block.AllClean.shows body clean (shows.append [varSymbol name.name] _ _) avoids
  | .text .., _, _, _, _, _, _, _, _ | .embed .., _, _, _, _, _, _, _, _
  | .assign .., _, _, _, _, _, _, _, _ | .context _, _, _, _, _, _, _, _, _
  | .importFrom .., _, _, _, _, _, _, _, _ => nofun

/-- Blocks stay right where all is visible that they refer to. -/
theorem Block.AllClean.shows : ∀ (bs : List Block) {hidden : List String}
    {scope scope' : Declarations} {depth depth' : Nat}, Block.AllClean env scope depth bs →
    scope.Shows hidden scope' → Block.AllAvoid env.modules hidden bs →
    Block.AllClean env scope' depth' bs
  | [], _, _, _, _, _, _, _, _ => Block.allClean_nil
  | b :: bs, _, _, _, _, _, clean, shows, ⟨here, inside, later⟩ => by
    obtain ⟨right, inner, rest⟩ := Block.allClean_cons.mp clean
    obtain ⟨references, imports⟩ := List.append_eq_nil_iff.mp right
    refine Block.allClean_cons.mpr ⟨List.append_eq_nil_iff.mpr ⟨?_, imports⟩,
      Block.InnerClean.shows inner shows inside,
      Block.AllClean.shows bs rest (shows.declares env.modules b) later⟩
    refine List.flatMap_eq_nil_iff.mpr fun r referred => ?_
    exact shows.offences env.source (here r referred) (List.flatMap_eq_nil_iff.mp references r referred)

end

/-! ### Changes -/

/-- A change that leaves its blocks right leaves the whole list right. -/
theorem Changes.clean {change : List Block → List Block → Prop}
    (cleans : ∀ bs bs', change bs bs' → ∀ scope depth,
      Block.AllClean env scope depth bs → Block.AllClean env scope depth bs')
    {bs bs' : List Block} (h : Changes change bs bs') (clean : Block.AllClean env scope depth bs) :
    Block.AllClean env scope depth bs' := by
  induction h generalizing scope depth with
  | here changed => exact cleans _ _ changed scope depth clean
  | later _ ih =>
    obtain ⟨right, inner, rest⟩ := Block.allClean_cons.mp clean
    exact Block.allClean_cons.mpr ⟨right, inner, ih rest⟩
  | call _ ih | define _ ih | loop _ ih =>
    obtain ⟨right, inner, rest⟩ := Block.allClean_cons.mp clean
    exact Block.allClean_cons.mpr ⟨right, ih inner, rest⟩
  | thenBlocks _ ih =>
    obtain ⟨right, inner, rest⟩ := Block.allClean_cons.mp clean
    obtain ⟨first, second⟩ := List.forall_mem_append.mp inner
    exact Block.allClean_cons.mpr ⟨right, List.forall_mem_append.mpr ⟨ih first, second⟩, rest⟩
  | elseBlocks _ ih =>
    obtain ⟨right, inner, rest⟩ := Block.allClean_cons.mp clean
    obtain ⟨first, second⟩ := List.forall_mem_append.mp inner
    exact Block.allClean_cons.mpr ⟨right, List.forall_mem_append.mpr ⟨first, ih second⟩, rest⟩

end MarkupTemplate

import MarkupTemplate.Proofs.Declared.Resolving

/-!
# What definitions are charged with

In a compiled template, every definition carries the least depth that is referred to in its body,
where what nested definitions declare inside does not count. The sites of the template show this:
annotating a definition changes no declaration and no reference.
-/

namespace MarkupTemplate

variable {m : Modules} {scope scope' : Declarations} {depth : Nat}

/-! ### Sites in a list of blocks -/

/-- The lists in a block, each with what is visible at its start and its depth. -/
def Block.lists (scope : Declarations) (depth : Nat) :
    Block → List (Declarations × Nat × List Block)
  | .call _ _ body _ => [(scope, depth, body)]
  | .define signature body => [(scope ++ signature.declares (depth + 1), depth + 1, body)]
  | .branch _ thenBlocks elseBlocks => [(scope, depth, thenBlocks), (scope, depth, elseBlocks)]
  | .loop name _ body => [(scope ++ loopDeclares depth name, depth, body)]
  | _ => []

/-- A site stands in a list of blocks that starts with some scope at some depth. -/
inductive Stands (m : Modules) : Declarations → Nat → List Block → Site → Prop where
  | here {scope : Declarations} {depth : Nat} {b : Block} {bs : List Block} :
    Stands m scope depth (b :: bs) ⟨scope, depth, b⟩
  | inside {scope inner : Declarations} {depth deeper : Nat} {b : Block} {bs body : List Block}
      {site : Site} :
    (inner, deeper, body) ∈ b.lists scope depth → Stands m inner deeper body site →
    Stands m scope depth (b :: bs) site
  | later {scope : Declarations} {depth : Nat} {b : Block} {bs : List Block} {site : Site} :
    Stands m (scope ++ b.declares m depth) depth bs site → Stands m scope depth (b :: bs) site

theorem Block.innerSites_eq (b : Block) : b.innerSites m scope depth =
    (b.lists scope depth).flatMap fun (inner, deeper, body) =>
      Block.allSites m inner deeper body := by
  cases b <;> simp [innerSites, lists]

theorem Block.mem_innerSites {b : Block} {inner : Declarations} {deeper : Nat} {body : List Block}
    (there : (inner, deeper, body) ∈ b.lists scope depth) {site : Site}
    (member : site ∈ Block.allSites m inner deeper body) : site ∈ b.innerSites m scope depth := by
  rw [innerSites_eq]
  exact List.mem_flatMap.mpr ⟨_, there, member⟩

/-- A list starts with what is visible at its block, and with variables as deep as itself. -/
theorem Block.lists_start {b : Block} {inner : Declarations} {deeper : Nat} {body : List Block}
    (there : (inner, deeper, body) ∈ b.lists scope depth) :
    depth ≤ deeper ∧ ∃ names : List String,
      inner = scope ++ names.map fun symbol => (symbol, { depth := deeper }) := by
  cases b with
  | call name args body layout =>
    cases List.mem_singleton.mp there
    exact ⟨Nat.le_refl _, [], (List.append_nil _).symm⟩
  | define signature body =>
    cases List.mem_singleton.mp there
    exact ⟨Nat.le_succ _, signature.bound, rfl⟩
  | branch condition thenBlocks elseBlocks =>
    simp only [lists, List.mem_cons, Prod.mk.injEq, List.not_mem_nil, or_false] at there
    rcases there with ⟨rfl, rfl, -⟩ | ⟨rfl, rfl, -⟩ <;>
      exact ⟨Nat.le_refl _, [], (List.append_nil _).symm⟩
  | loop name items body =>
    cases List.mem_singleton.mp there
    exact ⟨Nat.le_refl _, [varSymbol name.name], rfl⟩
  | _ => cases there

theorem Block.declares_define {b : Block} {entry : String × Declaration} {f : Signature}
    (member : entry ∈ b.declares m depth) (defined : entry.2.definition = some f) :
    entry.2.depth = depth ∧ ∃ body, b = .define f body := by
  obtain ⟨symbol, -, rfl⟩ := List.mem_map.mp member
  cases b with
  | define signature body =>
    obtain rfl := Option.some.inj defined
    exact ⟨rfl, body, rfl⟩
  | _ => cases defined

mutual

theorem Stands.of_mem_inner {site : Site} : ∀ (b bs) (scope : Declarations) (depth : Nat),
    site ∈ Block.innerSites m scope depth b → Stands m scope depth (b :: bs) site
  | .call _ _ body _, _, _, _, member => .inside (.head _) (Stands.of_mem body _ _ member)
  | .define _ body, _, _, _, member => .inside (.head _) (Stands.of_mem body _ _ member)
  | .loop _ _ body, _, _, _, member => .inside (.head _) (Stands.of_mem body _ _ member)
  | .branch _ thenBlocks elseBlocks, _, scope, depth, member => by
    rcases List.mem_append.mp member with first | second
    · exact .inside (.head _) (Stands.of_mem thenBlocks scope depth first)
    · exact .inside (.tail _ (.head _)) (Stands.of_mem elseBlocks scope depth second)

theorem Stands.of_mem {site : Site} : ∀ (bs : List Block) (scope : Declarations) (depth : Nat),
    site ∈ Block.allSites m scope depth bs → Stands m scope depth bs site
  | b :: bs, scope, depth, member => by
    rcases List.mem_cons.mp member with rfl | member
    · exact .here
    · rcases List.mem_append.mp member with inner | later
      · exact Stands.of_mem_inner b bs scope depth inner
      · exact .later (Stands.of_mem bs _ depth later)

end

namespace Stands

variable {bs : List Block} {site : Site}

theorem within (h : Stands m scope depth bs site) (visible : scope.Within depth) :
    site.scope.Within site.depth := by
  induction h with
  | here => exact visible
  | inside there _ ih =>
    obtain ⟨deeper, names, rfl⟩ := Block.lists_start there
    refine ih (.append (fun entry member => ?_) (.ofSymbols names))
    exact Nat.le_trans (visible entry member) deeper
  | later _ ih => exact ih (visible.append (.declares m _))

/-- What is inside the block of a site stands in the list as well. -/
theorem inner_subset (h : Stands m scope depth bs site) :
    site.inner m ⊆ Block.allSites m scope depth bs := by
  induction h with
  | here => exact fun _ member => .tail _ (List.mem_append_left _ member)
  | inside there _ ih =>
    exact fun _ member => .tail _ (List.mem_append_left _ (Block.mem_innerSites there (ih member)))
  | later _ ih => exact fun _ member => .tail _ (List.mem_append_right _ (ih member))

/-- A definition that is visible at a site was visible at the start, or stands in the list. -/
theorem definition (h : Stands m scope depth bs site) {entry : String × Declaration}
    {f : Signature} (visible : entry ∈ site.scope) (defined : entry.2.definition = some f) :
    entry ∈ scope ∨ ∃ place ∈ Block.allSites m scope depth bs,
      place.depth = entry.2.depth ∧ ∃ body, place.block = .define f body := by
  induction h with
  | here => exact .inl visible
  | inside there _ ih =>
    obtain ⟨-, names, rfl⟩ := Block.lists_start there
    rcases ih visible with start | ⟨place, member, stands⟩
    · rcases List.mem_append.mp start with start | var
      · exact .inl start
      · obtain ⟨symbol, -, rfl⟩ := List.mem_map.mp var
        cases defined
    · exact .inr ⟨place, .tail _ (List.mem_append_left _ (Block.mem_innerSites there member)),
        stands⟩
  | @later scope depth b bs site _ ih =>
    rcases ih visible with start | ⟨place, member, stands⟩
    · rcases List.mem_append.mp start with start | declared
      · exact .inl start
      · obtain ⟨same, body, rfl⟩ := Block.declares_define declared defined
        exact .inr ⟨_, .head _, same.symm, body, rfl⟩
    · exact .inr ⟨place, .tail _ (List.mem_append_right _ member), stands⟩

end Stands

/-! ### Annotated blocks -/

/-- Scopes that declare the same symbols equally deep. -/
theorem Reference.depths_congr (same : scope'.depths = scope.depths) (r : Reference) :
    r.depths scope' = r.depths scope := by
  have found : ∀ symbol,
      (scope'.find? symbol).map (·.depth) = (scope.find? symbol).map (·.depth) := by
    intro symbol
    rw [← scope.find?_depths, ← scope'.find?_depths, same]
  have listed : ∀ symbol, (scope'.find? symbol).toList.map (·.depth) =
      (scope.find? symbol).toList.map (·.depth) := by
    intro symbol
    rw [← Option.toList_map, ← Option.toList_map, found]
  cases r <;> simp [depths, declarations, listed]

theorem Site.reads_congr (depth : Nat) (same : scope'.depths = scope.depths) {b b' : Block}
    (references : b'.references = b.references) :
    (⟨scope', depth, b'⟩ : Site).reads = (⟨scope, depth, b⟩ : Site).reads := by
  simp only [reads, references, Reference.depths_congr same]

theorem Declarations.depths_append_congr {more more' : Declarations}
    (same : scope'.depths = scope.depths) (same' : more'.depths = more.depths) :
    Declarations.depths (scope' ++ more') = Declarations.depths (scope ++ more) := by
  simp only [depths, List.map_append] at *
  rw [same, same']

@[simp] theorem Block.references_annotated (b : Block) :
    (b.annotated m scope depth).references = b.references := by
  cases b <;> simp [annotated, references]

theorem Block.depths_declares_annotated (scope : Declarations) (depth : Nat) (b : Block) :
    ((b.annotated m scope depth).declares m depth).depths = (b.declares m depth).depths := by
  cases b <;> simp [annotated, declares, bound, Declarations.depths, declaration]

mutual

/-- Annotated blocks refer to the same depths. -/
theorem Block.innerSites_annotated : ∀ (b : Block) (scope scope' : Declarations) (depth : Nat),
    scope'.depths = scope.depths →
    ((b.annotated m scope depth).innerSites m scope' depth).map Site.reads =
      (b.innerSites m scope depth).map Site.reads
  | .call _ _ body _, _, _, depth, same => Block.allSites_annotated body _ _ depth same
  | .define _ body, _, _, _, same =>
    Block.allSites_annotated body _ _ _ (Declarations.depths_append_congr same rfl)
  | .branch _ thenBlocks elseBlocks, scope, scope', depth, same => by
    simp only [annotated, innerSites, List.map_append,
      Block.allSites_annotated thenBlocks scope scope' depth same,
      Block.allSites_annotated elseBlocks scope scope' depth same]
  | .loop _ _ body, _, _, _, same =>
    Block.allSites_annotated body _ _ _ (Declarations.depths_append_congr same rfl)
  | .text .., _, _, _, _ | .embed .., _, _, _, _ | .assign .., _, _, _, _
  | .context _, _, _, _, _ | .importFrom .., _, _, _, _ => rfl

theorem Block.allSites_annotated : ∀ (bs : List Block) (scope scope' : Declarations) (depth : Nat),
    scope'.depths = scope.depths →
    (Block.allSites m scope' depth (Block.allAnnotated m scope depth bs)).map Site.reads =
      (Block.allSites m scope depth bs).map Site.reads
  | [], _, _, _, _ => rfl
  | b :: bs, scope, scope', depth, same => by
    -- What comes after sees annotated definitions, which are declared as deep as before.
    have later := Block.allSites_annotated bs _ _ depth
      (Declarations.depths_append_congr same (b.depths_declares_annotated (m := m) scope depth))
    simp only [allAnnotated, allSites, List.map_cons, List.map_append,
      Block.innerSites_annotated b scope scope' depth same, later,
      Site.reads_congr depth same (b.references_annotated (m := m))]

end

theorem shallowestRead_congr {sites sites' : List Site}
    (same : sites'.map Site.reads = sites.map Site.reads) (limit : Nat) :
    shallowestRead limit sites' = shallowestRead limit sites := by
  simp only [shallowestRead, readsUpTo, List.flatMap_def, same]

/-- A definition at a site carries the least depth that its body refers to. -/
def Site.Charged (m : Modules) (site : Site) : Prop :=
  ∀ signature body, site.block = .define signature body →
    signature.readDepth = shallowestRead (site.depth + 1) (site.inner m)

mutual

theorem Block.innerSites_charged : ∀ (b : Block) (scope scope' : Declarations) (depth : Nat),
    scope'.depths = scope.depths →
    ∀ site ∈ (b.annotated m scope depth).innerSites m scope' depth, site.Charged m
  | .call _ _ body _, _, _, depth, same => Block.allSites_charged body _ _ depth same
  | .define _ body, _, _, _, same =>
    Block.allSites_charged body _ _ _ (Declarations.depths_append_congr same rfl)
  | .branch _ thenBlocks elseBlocks, scope, scope', depth, same =>
    List.forall_mem_append.mpr ⟨Block.allSites_charged thenBlocks scope scope' depth same,
      Block.allSites_charged elseBlocks scope scope' depth same⟩
  | .loop _ _ body, _, _, _, same =>
    Block.allSites_charged body _ _ _ (Declarations.depths_append_congr same rfl)
  | .text .., _, _, _, _ | .embed .., _, _, _, _ | .assign .., _, _, _, _
  | .context _, _, _, _, _ | .importFrom .., _, _, _, _ => nofun

theorem Block.allSites_charged : ∀ (bs : List Block) (scope scope' : Declarations) (depth : Nat),
    scope'.depths = scope.depths →
    ∀ site ∈ Block.allSites m scope' depth (Block.allAnnotated m scope depth bs), site.Charged m
  | [], _, _, _, _ => nofun
  | b :: bs, scope, scope', depth, same => by
    refine List.forall_mem_cons.mpr ⟨?_, List.forall_mem_append.mpr ⟨?_, ?_⟩⟩
    · intro signature body here
      cases b with
      | define s bs =>
        cases here
        exact (shallowestRead_congr (Block.innerSites_annotated (.define s bs) scope scope' depth
          same) (depth + 1)).symm
      | _ => cases here
    · exact Block.innerSites_charged b scope scope' depth same
    · exact Block.allSites_charged bs _ _ depth
        (Declarations.depths_append_congr same (b.depths_declares_annotated _ _))

end

/-! ### Templates -/

/-- What every script starts with. -/
def Modules.outside (m : Modules) : Declarations :=
  outsideDeclarations ((m.initialSymbols.toOption.getD []).map (·.1))

namespace Template

/-- The sites of a template, in order. -/
def sites (t : Template) : List Site :=
  Block.allSites t.engine.modules t.engine.modules.outside 1 t.script.blocks

theorem compile_annotated {engine : Engine} {script : Script} {t : Template}
    (compiled : engine.compile script = .ok t) :
    t.script.blocks = Block.allAnnotated t.engine.modules t.engine.modules.outside 1 script.blocks ∧
      t.readDepth = shallowestRead 1
        (Block.allSites t.engine.modules t.engine.modules.outside 1 script.blocks) := by
  obtain ⟨resolved, ok, rest⟩ := bind_eq_ok.mp compiled
  obtain rfl := Except.ok.inj rest
  rw [script.resolve_eq_resolveDeclared] at ok
  obtain ⟨symbols, found, ok⟩ := bind_eq_ok.mp ok
  have outside : engine.modules.outside = outsideDeclarations (symbols.map (·.1)) := by
    have initial : engine.modules.initialSymbols = .ok symbols := ofExcept_eq_ok.mp found
    rw [Modules.outside, initial]
    rfl
  dsimp only at ok ⊢
  split at ok
  · cases ok
  · obtain rfl := Except.ok.inj ok
    exact ⟨by rw [outside], by rw [readDepth, outside]⟩

variable {engine : Engine} {script : Script} {t : Template}

theorem sites_charged (compiled : engine.compile script = .ok t) :
    ∀ site ∈ t.sites, site.Charged t.engine.modules := by
  rw [sites, (compile_annotated compiled).1]
  exact Block.allSites_charged script.blocks _ _ 1 rfl

end Template

end MarkupTemplate

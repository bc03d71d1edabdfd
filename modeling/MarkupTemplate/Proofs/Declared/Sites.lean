import MarkupTemplate.Proofs.Resolved.Reads
import MarkupTemplate.Proofs.Scoping.Lexical

/-!
# Declared symbols

Static scoping without a stack. What is visible at a block is a list that is handed down the tree:
a block sees what the blocks before it in its list declare and what is visible where that list
stands. A definition also declares its parameters, one level deeper, for its body alone.
-/

namespace MarkupTemplate

open Resolve (partExprs argExprs defaultExprs)

/-- Where a symbol is declared: how deep, and by which definition if it is declared by one. -/
structure Declaration where
  depth : Nat
  definition : Option Signature := none

/-- The declarations that are visible at some place, the latest last. -/
abbrev Declarations := List (String × Declaration)

/-- The declaration that a symbol stands for. -/
def Declarations.find? (scope : Declarations) (symbol : String) : Option Declaration :=
  (lastBinding? symbol scope).map (·.2)

/-! ### References -/

/-- A use of a symbol, or of a name as that of a call. -/
inductive Reference where
  | symbol (symbol : String) (span : Span)
  | call (name : Ident)

namespace Reference

def span : Reference → Span
  | .symbol _ span => span
  | .call name => name.span

/-- The symbol that is missing if nothing is visible under the reference. -/
def missing : Reference → String
  | .symbol s _ => s
  | .call name => tagSymbol name.name

/-- The declarations that a reference stands for. Which of its two symbols is called depends on
their values. -/
def declarations (scope : Declarations) : Reference → List Declaration
  | .symbol s _ => (scope.find? s).toList
  | .call name =>
    (scope.find? (tagSymbol name.name)).toList ++ (scope.find? (varSymbol name.name)).toList

/-- The symbols that a reference looks up. -/
def symbols : Reference → List String
  | .symbol s _ => [s]
  | .call name => [tagSymbol name.name, varSymbol name.name]

theorem declarations_eq (scope : Declarations) (r : Reference) :
    r.declarations scope = r.symbols.flatMap fun symbol => (scope.find? symbol).toList := by
  cases r <;> simp [declarations, symbols]

def depths (scope : Declarations) (r : Reference) : List Nat :=
  (r.declarations scope).map (·.depth)

/-- What is wrong with a reference: nothing is visible under it. -/
def offences (source : String) (scope : Declarations) (r : Reference) : List Error :=
  if (r.declarations scope).isEmpty then
    [(Cause.undefined r.missing).toError.placed source r.span]
  else []

end Reference

mutual

/-- What an expression refers to, in order. -/
def Expr.references : Expr → List Reference
  | .literal .. => []
  | .var name _ => [.symbol (varSymbol name.name) name.span]
  | .tagRef name => [.symbol (tagSymbol name.name) name.span]
  | .list items | .concat items => Expr.allReferences items
  | .not e => e.references
  | .filter receiver name args =>
    receiver.references ++ .symbol (varSymbol name.name) name.span :: Expr.allReferences args

def Expr.allReferences : List Expr → List Reference
  | [] => []
  | e :: es => e.references ++ Expr.allReferences es

end

/-- What a block itself refers to, without the blocks in it. Defaults belong to the place of the
definition. -/
def Block.references : Block → List Reference
  | .text parts _ => Expr.allReferences (partExprs parts)
  | .call name args _ _ => .call name :: Expr.allReferences (argExprs args)
  | .define signature _ => Expr.allReferences (defaultExprs signature.params)
  | .embed e _ | .assign _ e | .branch e _ _ | .loop _ e _ => e.references
  | .context _ | .importFrom .. => []

/-- The error of a computation that fails. -/
def failure? {α : Type} : Except Error α → Option Error
  | .ok _ => none
  | .error e => some e

/-- What is wrong with the imports of a block. -/
def Block.importOffences (env : Resolve.Env) : Block → List Error
  | .importFrom path none span =>
    (failure? (locate env.source span (env.modules.publicSymbols path))).toList
  | .importFrom path (some items) _ =>
    items.filterMap fun item =>
      failure? (locate env.source item.span (env.modules.symbol item.name path))
  | _ => []

/-! ### Declarations -/

/-- What a block at a depth declares its symbols as. -/
def Block.declaration (depth : Nat) : Block → Declaration
  | .define signature _ => { depth, definition := some signature }
  | .assign .. => { depth }
  | _ => { depth := outsideDepth }

/-- What a block declares for the blocks after it. -/
def Block.declares (m : Modules) (depth : Nat) (b : Block) : Declarations :=
  (b.bound m).map fun symbol => (symbol, b.declaration depth)

/-- What a definition declares for its body. -/
def Signature.declares (depth : Nat) (s : Signature) : Declarations :=
  s.bound.map fun symbol => (symbol, { depth })

/-- What a loop declares for its body. -/
def loopDeclares (depth : Nat) (name : Ident) : Declarations := [(varSymbol name.name, { depth })]

/-! ### Sites -/

/-- A block of a script, how deep it stands, and what is visible there. -/
structure Site where
  scope : Declarations
  depth : Nat
  block : Block

mutual

/-- The sites in the lists of a block, in order. -/
def Block.innerSites (m : Modules) (scope : Declarations) (depth : Nat) : Block → List Site
  | .call _ _ body _ => Block.allSites m scope depth body
  | .define signature body =>
    Block.allSites m (scope ++ signature.declares (depth + 1)) (depth + 1) body
  | .branch _ thenBlocks elseBlocks =>
    Block.allSites m scope depth thenBlocks ++ Block.allSites m scope depth elseBlocks
  | .loop name _ body => Block.allSites m (scope ++ loopDeclares depth name) depth body
  | _ => []

/-- The sites of a list of blocks and of the lists inside, in order. -/
def Block.allSites (m : Modules) (scope : Declarations) (depth : Nat) : List Block → List Site
  | [] => []
  | b :: bs =>
    ⟨scope, depth, b⟩ :: (b.innerSites m scope depth ++
      Block.allSites m (scope ++ b.declares m depth) depth bs)

end

namespace Site

/-- The sites inside the block of a site. -/
def inner (m : Modules) (site : Site) : List Site := site.block.innerSites m site.scope site.depth

/-- What is wrong with the block itself, in order. -/
def offences (env : Resolve.Env) (site : Site) : List Error :=
  site.block.references.flatMap (·.offences env.source site.scope) ++ site.block.importOffences env

/-- The depths of the declarations that the block itself refers to. -/
def reads (site : Site) : List Nat := site.block.references.flatMap (·.depths site.scope)

end Site

/-- The depths, up to a limit, of the declarations that some sites refer to. -/
def readsUpTo (limit : Nat) (sites : List Site) : List Nat :=
  (sites.flatMap Site.reads).filter (· ≤ limit)

/-- The shallowest declaration that some sites refer to, but none that is deeper than the limit. -/
def shallowestRead (limit : Nat) (sites : List Site) : Option Nat := (readsUpTo limit sites).min?

/-! ### Resolving -/

mutual

/-- The block with the depth that each definition in it reads. A definition is charged with what all
blocks in its body refer to, those of nested definitions included, except for what nested
definitions declare inside. -/
def Block.annotated (m : Modules) (scope : Declarations) (depth : Nat) : Block → Block
  | .call name args body layout => .call name args (Block.allAnnotated m scope depth body) layout
  | .define signature body =>
    let inner := scope ++ signature.declares (depth + 1)
    let readDepth := shallowestRead (depth + 1) (Block.allSites m inner (depth + 1) body)
    .define { signature with readDepth } (Block.allAnnotated m inner (depth + 1) body)
  | .branch condition thenBlocks elseBlocks =>
    .branch condition (Block.allAnnotated m scope depth thenBlocks)
      (Block.allAnnotated m scope depth elseBlocks)
  | .loop name items body =>
    .loop name items (Block.allAnnotated m (scope ++ loopDeclares depth name) depth body)
  | b => b

def Block.allAnnotated (m : Modules) (scope : Declarations) (depth : Nat) :
    List Block → List Block
  | [] => []
  | b :: bs =>
    b.annotated m scope depth :: Block.allAnnotated m (scope ++ b.declares m depth) depth bs

end

/-- What a script starts with. -/
def outsideDeclarations (symbols : List String) : Declarations :=
  symbols.map fun symbol => (symbol, { depth := outsideDepth })

/-- Resolves a script from what is declared at each of its sites. -/
def Script.resolveDeclared (modules : Modules) (script : Script) : Run Script.Resolved := do
  let symbols ← (modules.initialSymbols : Except Error _)
  let scope := outsideDeclarations (symbols.map (·.1))
  let sites := Block.allSites modules scope 1 script.blocks
  match sites.flatMap (·.offences ⟨script.source, modules⟩) with
  | first :: _ => .error (.error first)
  | [] => .ok {
      source := script.source
      blocks := Block.allAnnotated modules scope 1 script.blocks
      readDepth := shallowestRead 1 sites }

end MarkupTemplate

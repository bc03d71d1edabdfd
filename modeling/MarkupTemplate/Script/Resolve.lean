import MarkupTemplate.Modules
import MarkupTemplate.Scope.Stack
import MarkupTemplate.Script.Basic

/-!
# Resolving scripts

Every symbol that a script reads is looked up before anything is translated, and each definition
learns the depth of the shallowest definition that its body reads. Symbols from outside have depth
0, the top level of the script depth 1, and the body of a definition is one deeper than the place
where it is defined.
-/

namespace MarkupTemplate

open Scope

/-- The depth of symbols from outside the script. -/
def outsideDepth : Nat := 0

namespace Resolve

/-- What does not change while a script is resolved. -/
structure Env where
  source : String
  modules : Modules

/-- The depths of the visible symbols, and the shallowest depth read so far. -/
structure State where
  store : Store Nat
  stack : Stack
  reads : Option Nat

/-- The smaller of two depths, of which the first may not be there yet. -/
def shallower (current : Option Nat) (depth : Nat) : Option Nat :=
  some (match current with
    | some c => min c depth
    | none => depth)

def State.read (s : State) (depth : Nat) : State := { s with reads := shallower s.reads depth }

def State.push (s : State) (symbol : String) (depth : Nat) : State :=
  { s with store := s.stack.push symbol depth s.store }

def State.pushAll (s : State) (symbols : List String) (depth : Nat) : State :=
  symbols.foldl (fun s symbol => s.push symbol depth) s

def State.checkpoint (s : State) : Checkpoint := s.stack.checkpoint s.store

def State.reset (s : State) (c : Checkpoint) : Run State := do
  let (store, stack) ← s.stack.reset c s.store
  .ok { s with store, stack }

def State.depth? (s : State) (symbol : String) : Option Nat :=
  (s.stack.find? s.store symbol).map (·.2)

/-- Reads a symbol. -/
def symbol (env : Env) (s : State) (symbol : String) (span : Span) : Run State :=
  match s.depth? symbol with
  | some depth => .ok (s.read depth)
  | none => .failAt env.source span (.undefined symbol)

/-- Reads the name of a call. Which of the two symbols is called depends on their values, so both
count as read. -/
def calledName (env : Env) (s : State) (name : Ident) : Run State :=
  match s.depth? (tagSymbol name.name), s.depth? (varSymbol name.name) with
  | none, none => .failAt env.source name.span (.undefined (tagSymbol name.name))
  | some d, none | none, some d => .ok (s.read d)
  | some d, some d' => .ok ((s.read d).read d')

mutual

/-- Reads what an expression reads, in order. -/
def expr (env : Env) (s : State) : Expr → Run State
  | .literal .. => .ok s
  | .var name _ => symbol env s (varSymbol name.name) name.span
  | .tagRef name => symbol env s (tagSymbol name.name) name.span
  | .list items | .concat items => exprs env s items
  | .not e => expr env s e
  | .filter receiver name args => do
    let s ← expr env s receiver
    let s ← symbol env s (varSymbol name.name) name.span
    exprs env s args

def exprs (env : Env) (s : State) : List Expr → Run State
  | [] => .ok s
  | e :: es => do
    let s ← expr env s e
    exprs env s es

end

def partExprs (parts : List Part) : List Expr :=
  parts.filterMap fun
    | .raw _ => none
    | .expr e => some e

def argExprs (args : List Arg) : List Expr :=
  args.map fun
    | .positional e | .named _ e => e

def defaultExprs (params : List Param) : List Expr := params.filterMap (·.default)

/-- Imports the named symbols of a module. -/
def importItems (env : Env) (path : String) (s : State) : List Ident → Run State
  | [] => .ok s
  | item :: rest => do
    let _ ← locate env.source item.span (env.modules.symbol item.name path)
    importItems env path (s.push item.name outsideDepth) rest

mutual

/-- Resolves a block at a depth. -/
def block (env : Env) (depth : Nat) (s : State) : Block → Run (State × Block)
  | .text parts layout => do
    let s ← exprs env s (partExprs parts)
    .ok (s, .text parts layout)
  | .call name args body layout => do
    let s ← calledName env s name
    let s ← exprs env s (argExprs args)
    let c := s.checkpoint
    let (s, body) ← blocks env depth s body
    let s ← s.reset c
    .ok (s, .call name args body layout)
  | .embed e layout => do
    let s ← expr env s e
    .ok (s, .embed e layout)
  | .define signature body => do
    let s ← exprs env s (defaultExprs signature.params)
    let c := s.checkpoint
    let inner := { s with reads := none }
    let inner := inner.pushAll (signature.params.map (varSymbol ·.name.name)) (depth + 1)
    let inner := inner.pushAll (signature.bodyParam.toList.map (varSymbol ·.name)) (depth + 1)
    let (inner, body) ← blocks env (depth + 1) inner body
    let outer ← inner.reset c
    let outer := { outer with reads := s.reads }
    let outer := match inner.reads with
      | some d => if d ≤ depth then outer.read d else outer
      | none => outer
    .ok (outer.push (tagSymbol signature.name.name) depth,
      .define { signature with readDepth := inner.reads } body)
  | .assign name e => do
    let s ← expr env s e
    .ok (s.push (varSymbol name.name) depth, .assign name e)
  | .context names =>
    .ok (s.pushAll (names.map (varSymbol ·.name)) outsideDepth, .context names)
  | .importFrom path none span => do
    let symbols ← locate env.source span (env.modules.publicSymbols path)
    .ok (s.pushAll (symbols.map (·.1)) outsideDepth, .importFrom path none span)
  | .importFrom path (some items) span => do
    let s ← importItems env path s items
    .ok (s, .importFrom path (some items) span)
  | .branch condition thenBlocks elseBlocks => do
    let s ← expr env s condition
    let c := s.checkpoint
    let (s, thenBlocks) ← blocks env depth s thenBlocks
    let s ← s.reset c
    let c := s.checkpoint
    let (s, elseBlocks) ← blocks env depth s elseBlocks
    let s ← s.reset c
    .ok (s, .branch condition thenBlocks elseBlocks)
  | .loop name items body => do
    let s ← expr env s items
    let c := s.checkpoint
    let (s, body) ← blocks env depth (s.push (varSymbol name.name) depth) body
    let s ← s.reset c
    .ok (s, .loop name items body)

def blocks (env : Env) (depth : Nat) (s : State) : List Block → Run (State × List Block)
  | [] => .ok (s, [])
  | b :: bs => do
    let (s, b) ← block env depth s b
    let (s, bs) ← blocks env depth s bs
    .ok (s, b :: bs)

end

end Resolve

/-- A script in which every symbol resolves, with the depths that its definitions read, and the
shallowest depth that its top level reads. -/
structure Script.Resolved where
  source : String
  blocks : List Block
  readDepth : Option Nat

def Script.resolve (modules : Modules) (script : Script) : Run Script.Resolved := do
  let symbols ← (modules.initialSymbols : Except Error _)
  let (store, stack) := (Store.empty : Store Nat).newStack
  let s : Resolve.State := { store, stack, reads := none }
  let s := s.pushAll (symbols.map (·.1)) outsideDepth
  let (s, blocks) ← Resolve.blocks ⟨script.source, modules⟩ 1 s script.blocks
  .ok { source := script.source, blocks, readDepth := s.reads }

end MarkupTemplate

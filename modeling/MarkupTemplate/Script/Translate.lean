import MarkupTemplate.Document.Content
import MarkupTemplate.Document.Render
import MarkupTemplate.Script.Call
import MarkupTemplate.Script.Eval
import MarkupTemplate.Script.State
import MarkupTemplate.Text.Indent

/-!
# Translating scripts

Blocks are translated in order while a state tracks the visible bindings and the indentation of the
block. Tags become elements that are written when the document is rendered. A closure is expanded
at once: its body is translated on top of the scope of its definition, and the nodes take the
place of the call.
-/

namespace MarkupTemplate

namespace Translate

open Scoping

/-- What does not change while a script is translated. -/
structure Env where
  source : String
  modules : Modules
  formatter : Formatter
  context : Dict (Value Empty)

variable {σ κ μ : Type}

/-- The state after a translation and the nodes that it made. -/
abbrev Output (σ κ : Type) := σ × List (Node κ)

variable [Host] [Defined κ] [Scoping σ κ μ]

def value? (s : σ) (symbol : String) : Option (Value κ) := (find? symbol s).map (·.2)

/-- Binds symbols to values from outside, in order. -/
def pushAll (s : σ) (symbols : List (String × Value Empty)) : σ :=
  symbols.foldl (fun s (symbol, v) => push symbol v.lift s) s

/-- Takes `n` characters of the indentation away. -/
def dedentBy : Nat → σ → Run σ
  | 0, s => .ok s
  | n + 1, s => do
    let s ← (dedent s : Except Error σ)
    dedentBy n s

/-- Runs a translation and undoes the bindings that it leaves. -/
def confined (s : σ) (run : σ → Run (Output σ κ)) : Run (Output σ κ) := do
  let m := mark s
  let (s, nodes) ← run s
  let s ← reset m s
  .ok (s, nodes)

/-- Runs a translation with the indentation of a block. It is told the absolute indentation if the
block starts on a line of its own. -/
def indented (s : σ) (layout : Layout) (run : σ → Option String → Run (Output σ κ)) :
    Run (Output σ κ) :=
  if !layout.outline then run s none
  else
    match layout.indent.toList.find? (!Text.isIndentChar ·) with
    | some c => .error (.error (Cause.indentNotBlank c).toError)
    | none => do
      let s := layout.indent.toList.foldl (fun s c => indentBy c s) s
      let (s, nodes) ← run s (some (indent s))
      let s ← dedentBy layout.indent.toList.length s
      .ok (s, nodes)

/-- Runs a translation once for each value, which it finds at the position `index`. -/
def forEach (index : Nat) (run : σ → Run (Output σ κ)) : σ → List (Value κ) → Run (Output σ κ)
  | s, [] => .ok (s, [])
  | s, v :: vs => do
    let s ← (set index v s : Except Error σ)
    let (s, nodes) ← confined s run
    let (s, rest) ← forEach index run s vs
    .ok (s, nodes ++ rest)

/-! ### Expressions in blocks -/

def eval (env : Env) (s : σ) (e : Expr) : Except Error (Value κ) :=
  e.eval env.source (value? s)

/-- What the formatter makes of a value. -/
def formatted (env : Env) (span : Span) (v : Value Shown) : Except Error String :=
  match env.formatter v with
  | .ok s => .ok s
  | .error message => locate env.source span (fail (.formatter message))

def formatValue (env : Env) (span : Span) : Value κ → Except Error String
  | .nodes ns => Node.renderList ns
  | v => formatted env span v.shown

def writeParts (env : Env) (s : σ) : List Part → Except Error String
  | [] => .ok ""
  | .raw text :: rest => (text ++ ·) <$> writeParts env s rest
  | .expr e :: rest => do
    let v ← eval env s e
    let text ← formatValue env e.span v
    (text ++ ·) <$> writeParts env s rest

def evalArgs (env : Env) (s : σ) :
    List Arg → Except Error (List (Value κ) × List (String × Value κ))
  | [] => .ok ([], [])
  | .positional e :: rest => do
    let v ← eval env s e
    let (positional, named) ← evalArgs env s rest
    .ok (v :: positional, named)
  | .named name e :: rest => do
    let v ← eval env s e
    let (positional, named) ← evalArgs env s rest
    .ok (positional, (name.name, v) :: named)

/-- What a name stands for when it is called: the later one of the two symbols of the name, as far
as they hold tags or closures. -/
def called (env : Env) (s : σ) (name : Ident) : Except Error (Tag ⊕ κ) :=
  match find? (tagSymbol name.name) s, find? (varSymbol name.name) s with
  | some (i, defined), some (j, held) =>
    match callable? defined, callable? held with
    | some t, some u => .ok (if i < j then u else t)
    | some t, none => .ok t
    | none, some u => .ok u
    | none, none => notCallable held
  | some (_, defined), none =>
    match callable? defined with
    | some t => .ok t
    | none => undefined
  | none, some (_, held) =>
    match callable? held with
    | some u => .ok u
    | none => notCallable held
  | none, none => undefined
where
  /-- The tag or closure that a value holds. -/
  callable? : Value κ → Option (Tag ⊕ κ)
    | .tag tag => some (.inl tag)
    | .closure c => some (.inr c)
    | _ => none
  notCallable (v : Value κ) : Except Error (Tag ⊕ κ) :=
    locate env.source name.span (fail (.calledNotCallable (varSymbol name.name) v.kind))
  undefined : Except Error (Tag ⊕ κ) :=
    locate env.source name.span (fail (.undefined (tagSymbol name.name)))

/-! ### Blocks that bind -/

/-- Makes a closure of a definition and binds it. -/
def define (depth : Nat) (s : σ) (signature : Signature) (body : List Block) : σ :=
  let (c, s) := close { signature, body, depth } s
  push (tagSymbol signature.name.name) (.closure c) s

/-- Binds variables that the caller provides. -/
def bindContext (env : Env) (s : σ) : List Ident → Run σ
  | [] => .ok s
  | name :: rest =>
    match Dict.get? name.name env.context with
    | some v => bindContext env (push (varSymbol name.name) v.lift s) rest
    | none => .failAt env.source name.span (.undefined (varSymbol name.name))

/-- Binds named symbols of a module. -/
def bindItems (env : Env) (path : String) (s : σ) : List Ident → Run σ
  | [] => .ok s
  | item :: rest => do
    let v ← locate env.source item.span (env.modules.symbol item.name path)
    bindItems env path (push item.name v.lift s) rest

/-! ### Blocks that make nodes -/

def text (env : Env) (s : σ) (parts : List Part) (indent : Option String) : Run (Output σ κ) := do
  let written ← writeParts env s parts
  let node := Node.text (String.ofList (Text.outdentTail written.toList))
  match indent with
  | none => .ok (s, [node])
  | some indent => do
    let group ← Node.group true (some (.absolute indent)) [node]
    .ok (s, [group])

/-- The nodes of an embed block that holds `nodes`. -/
def embed (s : σ) (nodes : List (Node κ)) (place : Option String) : Run (Output σ κ) := do
  let base := place.getD (indent s)
  let nodes ← startLine place (Node.anchorList base nodes)
  .ok (s, nodes)

/-- Expands a closure. -/
abbrev Caller (σ κ : Type) := σ → κ → Call κ → Run (Output σ κ)

/-- The nodes of a call whose body has been translated. -/
def finishCall (env : Env) (call : Caller σ κ) (s : σ) (name : Ident) (target : Tag ⊕ κ)
    (args : List (Value κ)) (named : List (String × Value κ)) (body : List (Node κ))
    (indent : Option String) (place : String) : Run (Output σ κ) :=
  match target with
  | .inl tag => do
    let head : Head (Value κ) :=
      { tag := some tag, positional := args, named, outline := indent.isSome }
    let element ← locate env.source name.span (Node.ofHead head (indent.map .absolute) body)
    .ok (s, [element])
  | .inr c => do
    let (s, nodes) ← call s c
      { positional := args, named, body, indent := place, span := name.span }
    let nodes ← startLine indent nodes
    .ok (s, nodes)

mutual

/-- Translates a block at a depth, with `call` expanding closures. -/
def block (env : Env) (call : Caller σ κ) (depth : Nat) (s : σ) : Block → Run (Output σ κ)
  | .text parts layout => indented s layout fun s indent => text env s parts indent
  | .call name args body layout => do
    let target ← called env s name
    let (args, named) ← evalArgs env s args
    indented s layout fun s place => do
      let base := place.getD (indent s)
      let (s, body) ← confined s fun s => blocks env call depth s body
      finishCall env call s name target args named body place base
  | .embed e layout => do
    let v ← eval env s e
    let nodes ← locate env.source e.span v.flatten
    indented s layout fun s indent => embed s nodes indent
  | .define signature body => .ok (define depth s signature body, [])
  | .assign name e => do
    let v ← eval env s e
    .ok (push (varSymbol name.name) v s, [])
  | .context names => do
    let s ← bindContext env s names
    .ok (s, [])
  | .importFrom path none span => do
    let symbols ← locate env.source span (env.modules.publicSymbols path)
    .ok (pushAll s symbols, [])
  | .importFrom path (some items) _ => do
    let s ← bindItems env path s items
    .ok (s, [])
  | .branch condition thenBlocks elseBlocks => do
    let v ← eval env s condition
    if v.isTruthy then confined s fun s => blocks env call depth s thenBlocks
    else confined s fun s => blocks env call depth s elseBlocks
  | .loop name items body => do
    match ← eval env s items with
    | .list values => do
      let m := mark s
      let index := length s
      let (s, nodes) ←
        forEach index (fun s => blocks env call depth s body) (push (varSymbol name.name) .none s)
          values
      let s ← reset m s
      .ok (s, nodes)
    | v => .failAt env.source items.span (.notIterable v.kind)

def blocks (env : Env) (call : Caller σ κ) (depth : Nat) (s : σ) : List Block → Run (Output σ κ)
  | [] => .ok (s, [])
  | b :: bs => do
    let (s, nodes) ← block env call depth s b
    let (s, rest) ← blocks env call depth s bs
    .ok (s, nodes ++ rest)

end

/-! ### Calling closures -/

/-- The value of a parameter: its argument or else its default. -/
def slotValue (env : Env) (c : κ) (span : Span) (s : σ) (index : Nat) (p : Param)
    (slot : Option (Value κ)) : Run (Value κ × σ) :=
  match slot, p.default with
  | some v, _ => .ok (v, s)
  | none, some e => default c index (fun look => e.eval env.source look) s
  | none, none => .failAt env.source span (.missingArgument (Defined.definition c).name p.name.name)

/-- Binds the parameters of a closure from the position `index` on. -/
def bindParams (env : Env) (c : κ) (span : Span) :
    σ → Nat → List (Param × Option (Value κ)) → Run σ
  | s, _, [] => .ok s
  | s, index, (p, slot) :: rest => do
    let (v, s) ← slotValue env c span s index p slot
    bindParams env c span (push (varSymbol p.name.name) v s) (index + 1) rest

/-- Binds the body of a call, demoted below the shortest indentation in it. -/
def bindBody (s : σ) (call : Call κ) : Option Ident → Run σ
  | none => .ok s
  | some name => do
    let body ← demoteAll ((Node.baseOf? call.body).getD call.indent) call.body
    .ok (push (varSymbol name.name) (.nodes body) s)

/-- Expands a closure, with `inner` expanding those that its body calls. -/
def invoke (env : Env) (inner : Caller σ κ) : Caller σ κ := fun s c call => do
  let d := Defined.definition c
  let slots ← locate env.source call.span <| (call.arguments d.signature).mapError Cause.toError
  let m := mark s
  let s ← enter c call.indent s
  let s ← bindParams env c call.span s 0 slots
  let s ← bindBody s call d.signature.bodyParam
  let (s, nodes) ← blocks env inner (d.depth + 1) s d.body
  .ok (leave m s, nodes)

/-- Expands a closure, with at most `limit` calls inside each other. -/
def expand (env : Env) : Nat → Caller σ κ
  | 0 => fun _ _ _ => .error .callDepth
  | limit + 1 => fun s c call => invoke env (expand env limit) s c call

/-- Translates a resolved script from a state without bindings, with `call` expanding closures. -/
def scriptWith (env : Env) (call : Caller σ κ) (s : σ) (script : List Block) :
    Run (Document κ) := do
  let symbols ← (env.modules.initialSymbols : Except Error _)
  let (_, nodes) ← blocks env call 1 (pushAll s symbols) script
  (Document.ofNodes nodes : Except Error _)

def script (env : Env) (limit : Nat) (s : σ) (script : List Block) : Run (Document κ) :=
  scriptWith env (expand env limit) s script

end Translate

def translate [Host] (env : Translate.Env) (limit : Nat) (script : List Block) :
    Run (Document Closure) :=
  Translate.script env limit (.start : Translate.State Closure) script

end MarkupTemplate

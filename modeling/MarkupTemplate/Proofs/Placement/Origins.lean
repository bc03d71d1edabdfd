import Mathlib.Data.List.Forall2
import MarkupTemplate.Proofs.Placement.Stages

/-!
# Origins of elements

Every element of a document is made by some block of the script. Following a translation block by
block tells which one, and which blocks with a line of their own are around it: those around the
block in the script, and for the body of a closure the call of it and the blocks around that.
-/

namespace MarkupTemplate

/-- The block that makes an element. One on a line of its own comes with the indentations of the
blocks around it that have such a line, outermost first, and its own last. -/
inductive Origin where
  | text (layouts : List String)
  /-- A call of a tag from outside. -/
  | call (tag : Tag) (layouts : List String)
  /-- The start of a call of a closure or of an embed block: what is inline there is put into an
  element. -/
  | start (layouts : List String)
  | inlineCall (tag : Tag)
  /-- An embed block, which takes over elements made elsewhere. -/
  | embedded

/-- The indentations of the blocks around what is inside a block. -/
def Layout.within (layouts : List String) (layout : Layout) : List String :=
  if layout.outline then layouts ++ [layout.indent] else layouts

/-- The element that holds what is inline at the start of some nodes, if they start a line. -/
def startOrigins {κ : Type} (outline : Bool) (layouts : List String) : List (Node κ) → List Origin
  | n :: _ => if outline && !n.isOutline then [.start layouts] else []
  | [] => []

/-! ### Positions -/

section Positions

variable {κ : Type}

mutual

/-- The elements of a node, each before those below it. -/
def Node.heads : Node κ → List (Head (Value κ))
  | .text _ => []
  | .root body => Node.allHeads body
  | .element head _ body => head :: Node.allHeads body

def Node.allHeads : List (Node κ) → List (Head (Value κ))
  | [] => []
  | n :: ns => n.heads ++ Node.allHeads ns

end

mutual

/-- The elements of a node, each before those below it, with the indentations of the elements from
the outermost one down to it put together after `above`. There is nothing to put together if one of
them is measured from the margin. -/
def Node.positions (above : Option String) : Node κ → List (Head (Value κ) × Option String)
  | .text _ => []
  | .root body => Node.allPositions above body
  | .element head indent body =>
    let here := match indent with
      | none => above
      | some (.relative added) => above.map (· ++ added)
      | some (.absolute _) => none
    (head, here) :: Node.allPositions here body

def Node.allPositions (above : Option String) : List (Node κ) → List (Head (Value κ) × Option String)
  | [] => []
  | n :: ns => n.positions above ++ Node.allPositions above ns

end

/-- An element is the one that its origin makes and, if that is on a line of its own, stands where
the blocks around it put it. -/
def Origin.Makes : Origin → Head (Value κ) × Option String → Prop
  | .text layouts, (head, position) | .start layouts, (head, position) =>
    head.tag = none ∧ head.outline = true ∧ position = some (String.join layouts)
  | .call tag layouts, (head, position) =>
    head.tag = some tag ∧ head.outline = true ∧ position = some (String.join layouts)
  | .inlineCall tag, (head, _) => head.tag = some tag ∧ head.outline = false
  | .embedded, _ => True

end Positions

namespace Translate

open Scoping

variable {σ κ μ : Type} [Host] [Defined κ] [Scoping σ κ μ]

/-- Tells the origins of the elements that a call of a closure makes, from the indentations of the
blocks around the call. -/
abbrev Teller (σ κ : Type) := List String → σ → κ → Call κ → Run (List Origin)

/-- The origins of what a loop makes. -/
def forEachOrigins (index : Nat) (run : σ → Run (Output σ κ)) (tell : σ → Run (List Origin)) :
    σ → List (Value κ) → Run (List Origin)
  | _, [] => .ok []
  | s, v :: vs => do
    let s ← (set index v s : Except Error σ)
    let here ← tell s
    let (s, _) ← confined s run
    let later ← forEachOrigins index run tell s vs
    .ok (here ++ later)

mutual

/-- The origins of the elements that a block makes, in order, from the indentations of the blocks
around it. -/
def origins (env : Env) (call : Caller σ κ) (tell : Teller σ κ) (depth : Nat)
    (layouts : List String) (s : σ) : Block → Run (List Origin)
  | .text _ layout => .ok (if layout.outline then [.text (layout.within layouts)] else [])
  | .call name args body layout => do
    let target ← called env s name
    let (args, named) ← evalArgs env s args
    let (s, place) ← (opened s layout : Except Error _)
    let within := layout.within layouts
    match target with
    | .inl tag => do
      let below ← allOrigins env call tell depth within s body
      .ok ((if layout.outline then .call tag within else .inlineCall tag) :: below)
    | .inr c => do
      let base := place.getD (indent s)
      let (s, body) ← confined s fun s => blocks env call depth s body
      let expansion := ⟨args, named, body, base, name.span⟩
      let (_, nodes) ← call s c expansion
      let inside ← tell within s c expansion
      .ok (startOrigins layout.outline within nodes ++ inside)
  | .embed e layout => do
    let v ← eval env s e
    let nodes ← locate env.source e.span v.flatten
    let (s, place) ← (opened s layout : Except Error _)
    let nodes := Node.anchorList (place.getD (indent s)) nodes
    .ok (startOrigins layout.outline (layout.within layouts) nodes ++
      (Node.allHeads nodes).map fun _ => .embedded)
  | .define .. | .assign .. | .context _ | .importFrom .. => .ok []
  | .branch condition thenBlocks elseBlocks => do
    let v ← eval env s condition
    if v.isTruthy then allOrigins env call tell depth layouts s thenBlocks
    else allOrigins env call tell depth layouts s elseBlocks
  | .loop name items body => do
    match ← eval env s items with
    | .list values =>
      forEachOrigins (length s) (fun s => blocks env call depth s body)
        (fun s => allOrigins env call tell depth layouts s body)
        (push (varSymbol name.name) .none s) values
    | v => .failAt env.source items.span (.notIterable v.kind)

def allOrigins (env : Env) (call : Caller σ κ) (tell : Teller σ κ) (depth : Nat)
    (layouts : List String) (s : σ) : List Block → Run (List Origin)
  | [] => .ok []
  | b :: bs => do
    let here ← origins env call tell depth layouts s b
    let (s, _) ← block env call depth s b
    let later ← allOrigins env call tell depth layouts s bs
    .ok (here ++ later)

end

/-- The origins of what the expansion of a closure makes: those of its body. -/
def invokeOrigins (env : Env) (call : Caller σ κ) (tell : Teller σ κ) : Teller σ κ :=
  fun layouts s c k => do
    let d := Defined.definition c
    let slots ← locate env.source k.span <| (k.arguments d.signature).mapError Cause.toError
    let s ← enter c k.indent s
    let s ← bindParams env c k.span s 0 slots
    let s ← bindBody s k d.signature.bodyParam
    allOrigins env call tell (d.depth + 1) layouts s d.body

/-- The origins of what the expansion of a closure makes, with at most `limit` calls inside each
other. -/
def expandOrigins (env : Env) : Nat → Teller σ κ
  | 0 => fun _ _ _ _ => .error .callDepth
  | limit + 1 => invokeOrigins env (expand env limit) (expandOrigins env limit)

end Translate

end MarkupTemplate

import MarkupTemplate.Span
import MarkupTemplate.Value.Basic

/-!
# Scripts

A script is a tree of blocks with expressions in them. Blocks that start on a line of their own
carry a layout, whose indentation is measured from the nearest block around them that makes a node.
The blocks of branches, loops and definitions add none of their own.
-/

namespace MarkupTemplate

/-- A name and where it stands. -/
structure Ident where
  name : String
  span : Span := {}
  deriving DecidableEq, Repr

/-- A step into a value: an index of a list, or a key of a map. -/
inductive Key where
  | index (i : Nat) (span : Span)
  | name (key : Ident)
  deriving DecidableEq, Repr

def Key.span : Key → Span
  | .index _ span => span
  | .name key => key.span

inductive Expr where
  | literal (value : Value Empty) (span : Span)
  /-- A variable, and a path into its value. -/
  | var (name : Ident) (path : List Key)
  /-- A tag or closure as a value. -/
  | tagRef (name : Ident)
  | list (items : List Expr)
  | not (e : Expr)
  /-- The texts of the items, one after the other. -/
  | concat (items : List Expr)
  /-- A function applied to a value and further arguments. -/
  | filter (receiver : Expr) (name : Ident) (args : List Expr)

/-- Where a variable and its path stand. -/
def varSpan (name : Ident) (path : List Key) : Span :=
  path.foldl (fun s k => s.combine k.span) name.span

/-- The span that covers some spans; the empty span at the start for none. -/
def combineSpans : List Span → Span
  | [] => {}
  | s :: rest => rest.foldl Span.combine s

mutual

def Expr.span : Expr → Span
  | .literal _ span => span
  | .var name path => varSpan name path
  | .tagRef name => name.span
  | .list items | .concat items => combineSpans (Expr.spans items)
  | .not e => e.span
  | .filter receiver name _ => receiver.span.combine name.span

def Expr.spans : List Expr → List Span
  | [] => []
  | e :: es => e.span :: Expr.spans es

end

/-- The number that a text of digits is, possibly after a plus sign, if it fits 64 bits. -/
def parseIndex? (text : String) : Option Nat :=
  let digits := match text.toList with
    | '+' :: rest => rest
    | cs => cs
  if digits.isEmpty || !digits.all Char.isDigit then none
  else
    let n := digits.foldl (fun n c => n * 10 + (c.toNat - '0'.toNat)) 0
    if n < UInt64.size then some n else none

/-- A variable with a path of texts, where the texts that are numbers are indices. -/
def Expr.path (name : String) (keys : List String) : Expr :=
  .var ⟨name, {}⟩ <| keys.map fun key =>
    match parseIndex? key with
    | some i => .index i {}
    | none => .name ⟨key, {}⟩

/-- Where a block stands: in the line, or on a line of its own with some indentation. -/
structure Layout where
  outline : Bool := false
  indent : String := ""
  deriving DecidableEq, Repr

inductive Part where
  | raw (s : String)
  | expr (e : Expr)

inductive Arg where
  | positional (e : Expr)
  | named (name : Ident) (e : Expr)

/-- A parameter of a definition, with the expression for calls that leave it out. -/
structure Param where
  name : Ident
  default : Option Expr := none

/-- What a definition says besides its body. -/
structure Signature where
  name : Ident
  params : List Param
  /-- The name that the body of a call is bound to. Without one, calls have none. -/
  bodyParam : Option Ident
  /-- The depth of the shallowest definition that the body reads, once that is known. -/
  readDepth : Option Nat := none

inductive Block where
  | text (parts : List Part) (layout : Layout)
  /-- A call of a tag or closure. -/
  | call (name : Ident) (args : List Arg) (body : List Block) (layout : Layout)
  /-- The nodes that a value holds. -/
  | embed (e : Expr) (layout : Layout)
  /-- A definition, which makes a closure. -/
  | define (signature : Signature) (body : List Block)
  | assign (name : Ident) (e : Expr)
  /-- Variables that the caller provides. -/
  | context (names : List Ident)
  /-- Symbols of a module, all that are not private or those that are named. -/
  | importFrom (path : String) (items : Option (List Ident)) (span : Span)
  | branch (condition : Expr) (thenBlocks elseBlocks : List Block)
  | loop (name : Ident) (items : Expr) (body : List Block)

/-- The layout of a block that makes a node. -/
def Block.layout? : Block → Option Layout
  | .text _ layout | .call _ _ _ layout | .embed _ layout => some layout
  | _ => none

/-- The block on a line of its own. Blocks that make no node stay as they are. -/
def Block.outlined (indent : String) : Block → Block
  | .text parts _ => .text parts ⟨true, indent⟩
  | .call name args body _ => .call name args body ⟨true, indent⟩
  | .embed e _ => .embed e ⟨true, indent⟩
  | b => b

mutual

/-- The definitions in a block, each before those in its body. -/
def Block.definitions : Block → List Signature
  | .call _ _ body _ => Block.allDefinitions body
  | .define signature body => signature :: Block.allDefinitions body
  | .branch _ thenBlocks elseBlocks =>
    Block.allDefinitions thenBlocks ++ Block.allDefinitions elseBlocks
  | .loop _ _ body => Block.allDefinitions body
  | _ => []

def Block.allDefinitions : List Block → List Signature
  | [] => []
  | b :: bs => b.definitions ++ Block.allDefinitions bs

end

/-- A complete script. The source is only used to point at errors and may be empty. -/
structure Script where
  source : String := ""
  blocks : List Block

end MarkupTemplate

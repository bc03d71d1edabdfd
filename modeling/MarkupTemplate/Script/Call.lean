import MarkupTemplate.Document.Indentation
import MarkupTemplate.Script.Closure

/-!
# Calls

The arguments of a call are sorted into the parameters of the definition: positional ones first, in
order, then named ones by their names.
-/

namespace MarkupTemplate

variable {κ : Type}

/-- A call of a closure. -/
structure Call (κ : Type) where
  positional : List (Value κ)
  named : List (String × Value κ)
  body : List (Node κ)
  /-- The absolute indentation of the call. -/
  indent : String
  span : Span

namespace Call

/-- Gives every parameter the positional argument at its place, if there is one. -/
def fillPositional : List Param → List (Value κ) → List (Param × Option (Value κ))
  | [], _ => []
  | p :: ps, [] => (p, none) :: fillPositional ps []
  | p :: ps, v :: vs => (p, some v) :: fillPositional ps vs

/-- Gives a named argument to the first parameter of its name. -/
def setNamed (name key : String) (value : Value κ) :
    List (Param × Option (Value κ)) → Except Cause (List (Param × Option (Value κ)))
  | [] => .error (.unknownParameter name key)
  | (p, slot) :: rest =>
    if p.name.name = key then
      match slot with
      | some _ => .error (.repeatedArgument name key)
      | none => .ok ((p, some value) :: rest)
    else ((p, slot) :: ·) <$> setNamed name key value rest

/-- Gives named arguments to their parameters, in order. -/
def setAllNamed (name : String) (slots : List (Param × Option (Value κ))) :
    List (String × Value κ) → Except Cause (List (Param × Option (Value κ)))
  | [] => .ok slots
  | (key, value) :: rest => do
    let slots ← setNamed name key value slots
    setAllNamed name slots rest

/-- The parameters of a definition, each with the argument that the call gives it. -/
def arguments (call : Call κ) (signature : Signature) :
    Except Cause (List (Param × Option (Value κ))) :=
  let name := signature.name.name
  if signature.bodyParam.isNone && !call.body.isEmpty then .error (.bodyOfVoid name)
  else if call.positional.length > signature.params.length then
    .error (.tooManyArguments name signature.params.length call.positional.length)
  else setAllNamed name (fillPositional signature.params call.positional) call.named

end Call

/-! ### The place of a body -/

/-- The shorter of two indentations in bytes, the first one of equals. -/
def shorterIndent : Option String → Option String → Option String
  | none, b => b
  | a, none => a
  | some a, some b => if b.utf8ByteSize < a.utf8ByteSize then some b else some a

mutual

/-- The shortest absolute indentation of the node or, if it has none of its own, of the outermost
indented nodes below it. -/
def Node.base? : Node κ → Option String
  | .text _ => none
  | .root body => Node.baseOf? body
  | .element _ none body => Node.baseOf? body
  | .element _ (some (.absolute indent)) _ => some indent
  | .element _ (some (.relative _)) _ => none

/-- The shortest absolute indentation among the outermost indented ones of some nodes. -/
def Node.baseOf? : List (Node κ) → Option String
  | [] => none
  | n :: ns => shorterIndent n.base? (Node.baseOf? ns)

end

/-- The nodes that stand for a block on a line of its own: inline nodes at the start are grouped, so
that the block still starts on a new line. -/
def startLine (indent : Option String) (nodes : List (Node κ)) : Except Error (List (Node κ)) :=
  match indent with
  | none => .ok nodes
  | some indent =>
    match nodes.span (!·.isOutline) with
    | ([], rest) => .ok rest
    | (inline, rest) => do
      let group ← Node.group true (some (.absolute indent)) inline
      .ok (group :: rest)

end MarkupTemplate

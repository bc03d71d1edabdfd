import MarkupTemplate.Modules
import MarkupTemplate.Script.Basic
import MarkupTemplate.Value.Builtin

/-!
# Evaluating expressions

The value of an expression under the visible bindings. Evaluation changes nothing.
-/

namespace MarkupTemplate

variable {κ : Type} [Host] [Shows κ]

def Value.step (source : String) (v : Value κ) (key : Key) : Except Error (Value κ) :=
  match v, key with
  | .list items, .index i span =>
    match items[i]? with
    | some item => .ok item
    | Option.none => locate source span (fail (.indexOutOfBounds items.length))
  | .list _, .name key => locate source key.span (fail .listIndexedByName)
  | .map entries, .name key =>
    match Dict.get? key.name entries with
    | some v => .ok v
    | Option.none => locate source key.span (fail (.keyNotFound key.name))
  | .map _, .index _ span => locate source span (fail .mapIndexedByNumber)
  | v, key => locate source key.span (fail (.notIndexable v.kind))

/-- The part of a value at the end of a path. -/
def Value.follow (source : String) (v : Value κ) : List Key → Except Error (Value κ)
  | [] => .ok v
  | key :: rest => do
    let v ← v.step source key
    v.follow source rest

def valueOf (source : String) (look : String → Option (Value κ)) (symbol : String) (span : Span) :
    Except Error (Value κ) :=
  match look symbol with
  | some v => .ok v
  | none => locate source span (fail (.undefined symbol))

mutual

/-- The value of an expression, with `look` giving the value of a visible symbol. -/
def Expr.eval (source : String) (look : String → Option (Value κ)) : Expr → Except Error (Value κ)
  | .literal value _ => .ok value.lift
  | .var name path => do
    let v ← valueOf source look (varSymbol name.name) name.span
    v.follow source path
  | .tagRef name => do
    let v ← valueOf source look (tagSymbol name.name) name.span
    if v.kind = .callable then .ok v
    else locate source name.span (fail (.notCallable v.kind))
  | .list items => .list <$> Expr.evalAll source look items
  | .not e => do
    let v ← e.eval source look
    .ok (.bool !v.isTruthy)
  | .concat items => .string <$> Expr.evalText source look items
  | .filter receiver name args => do
    match ← valueOf source look (varSymbol name.name) name.span with
    | .function f => do
      let v ← receiver.eval source look
      let vs ← Expr.evalAll source look args
      locate source (receiver.span.combine name.span) (f.call (v :: vs))
    | v => locate source name.span (fail (.notFunction v.kind))

def Expr.evalAll (source : String) (look : String → Option (Value κ)) :
    List Expr → Except Error (List (Value κ))
  | [] => .ok []
  | e :: es => do
    let v ← e.eval source look
    let vs ← Expr.evalAll source look es
    .ok (v :: vs)

/-- The texts of the values of expressions, one after the other. -/
def Expr.evalText (source : String) (look : String → Option (Value κ)) :
    List Expr → Except Error String
  | [] => .ok ""
  | e :: es => do
    let v ← e.eval source look
    let s ← locate source e.span v.text
    let rest ← Expr.evalText source look es
    .ok (s ++ rest)

end

end MarkupTemplate

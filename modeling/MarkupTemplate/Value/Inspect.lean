import MarkupTemplate.Decimal.Notation
import MarkupTemplate.Text.Quoted
import MarkupTemplate.Value.Basic

/-!
# The structure of values, shown

A text in which the kind of every part of a value or node can be seen. How a closure is shown
is a parameter.
-/

namespace MarkupTemplate

variable {κ : Type}

/-- Parts between brackets, with commas. -/
def bracketed (opening : String) (parts : List String) (closing : String) : String :=
  opening ++ String.intercalate ", " parts ++ closing

/-- A name and the part in parentheses after it. -/
def tagged (name part : String) : String := name ++ "(" ++ part ++ ")"

/-- A name and fields with their names in braces after it. -/
def record (name : String) (fields : List (String × String)) : String :=
  bracketed (name ++ " \x7b ") (fields.map fun (field, text) => field ++ ": " ++ text) " \x7d"

def inspectBool (b : Bool) : String := if b then "true" else "false"

def Indent.inspect : Indent → String
  | .absolute indent => tagged "Absolute" (Text.quote indent)
  | .relative indent => tagged "Relative" (Text.quote indent)

def inspectOption : Option String → String
  | none => "None"
  | some text => tagged "Some" text

mutual

/-- The structure of a value. -/
def Value.inspect (closure : κ → String) : Value κ → String
  | .none => "None"
  | .bool b => tagged "Bool" (inspectBool b)
  | .integer i => tagged "Integer" (toString i.toInt)
  | .float x => tagged "Float" (Decimal.inspect x)
  | .string s => tagged "String" (Text.quote s)
  | .list items => tagged "List" (bracketed "[" (Value.inspectList closure items) "]")
  | .map entries => tagged "Map" (bracketed "\x7b" (Value.inspectMap closure entries) "\x7d")
  | .nodes ns =>
    tagged "Nodes" (record "Sequence" [("nodes", bracketed "[" (Node.inspectList closure ns) "]")])
  | .tag tag => tagged "Hypertag" (tagged "External" tag.inspect)
  | .closure c => tagged "Hypertag" (tagged "Native" (closure c))
  | .function f => tagged "Function" (tagged "Function" (Text.quote f.name))

def Value.inspectList (closure : κ → String) : List (Value κ) → List String
  | [] => []
  | v :: vs => v.inspect closure :: Value.inspectList closure vs

def Value.inspectMap (closure : κ → String) : List (String × Value κ) → List String
  | [] => []
  | (k, v) :: rest => (Text.quote k ++ ": " ++ v.inspect closure) :: Value.inspectMap closure rest

def Value.inspectPairs (closure : κ → String) : List (String × Value κ) → List String
  | [] => []
  | (k, v) :: rest =>
    ("(" ++ Text.quote k ++ ", " ++ v.inspect closure ++ ")") :: Value.inspectPairs closure rest

def Node.inspect (closure : κ → String) : Node κ → String
  | .text s => tagged "Text" (record "Text" [("text", Text.quote s)])
  | .root body =>
    tagged "Root" (record "Document"
      [("body", record "Sequence" [("nodes", bracketed "[" (Node.inspectList closure body) "]")])])
  | .element ⟨tag, positional, named, outline⟩ indent body =>
    tagged "Element" (record "Element"
      [("tag", inspectOption (tag.map fun t => Text.quote t.name)),
        ("attrs", bracketed "[" (Value.inspectList closure positional) "]"),
        ("kwattrs", bracketed "[" (Value.inspectPairs closure named) "]"),
        ("outline", inspectBool outline),
        ("indent", inspectOption (indent.map Indent.inspect)),
        ("body", record "Sequence" [("nodes", bracketed "[" (Node.inspectList closure body) "]")])])

def Node.inspectList (closure : κ → String) : List (Node κ) → List String
  | [] => []
  | n :: ns => n.inspect closure :: Node.inspectList closure ns

end

end MarkupTemplate

/-!
# Kinds of values

The kinds that messages name, and functions as values.
-/

namespace MarkupTemplate

inductive Kind where
  | none | bool | integer | float | string | list | map | nodes | callable | function
  deriving DecidableEq, Repr

def Kind.name : Kind → String
  | .none => "none"
  | .bool => "bool"
  | .integer => "integer"
  | .float => "float"
  | .string => "string"
  | .list => "list"
  | .map => "map"
  | .nodes => "nodes"
  | .callable => "hypertag"
  | .function => "function"

inductive Builtin where
  | lower | upper | replace | first | last | len | reverse | default | get | join
  deriving DecidableEq, Repr

def Builtin.name : Builtin → String
  | .lower => "lower"
  | .upper => "upper"
  | .replace => "replace"
  | .first => "first"
  | .last => "last"
  | .len => "len"
  | .reverse => "reverse"
  | .default => "default"
  | .get => "get"
  | .join => "join"

def Builtin.all : List Builtin :=
  [.lower, .upper, .replace, .first, .last, .len, .reverse, .default, .get, .join]

/-- The number of arguments a built-in function takes, the filtered value included. -/
def Builtin.arity : Builtin → Nat
  | .lower | .upper | .first | .last | .len | .reverse => 1
  | .default | .get | .join => 2
  | .replace => 3

/-- A function as a value. -/
inductive Function where
  | builtin (f : Builtin)
  /-- A function of the host program, with a number that no other function has. -/
  | host (serial : Nat) (name : String)
  deriving DecidableEq, Repr

def Function.name : Function → String
  | .builtin f => f.name
  | .host _ name => name

end MarkupTemplate

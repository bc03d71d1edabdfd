import MarkupTemplate.Decimal.Notation
import MarkupTemplate.Value.Basic

/-!
# Serialised data

Data of other programs is serialised and then read as a value. Absent data is `none`, numbers that
are not finite are too, and the keys of maps are written as text.
-/

namespace MarkupTemplate

/-- Serialised data. -/
inductive Serial where
  | unit
  | bool (b : Bool)
  | integer (i : Int)
  | float (x : Float)
  | single (x : Float32)
  | char (c : Char)
  | string (s : String)
  | list (items : List Serial)
  | map (entries : List (Serial × Serial))
  /-- Optional data that is present. -/
  | some (data : Serial)
  /-- Data under the name of the variant it belongs to. -/
  | variant (name : String) (data : Serial)
  /-- Data that refuses to be serialised. -/
  | refuse (message : String)

namespace Serial

variable {κ : Type}

def outOfRange : Error := (Cause.contextNotSerializable "number out of range").toError

def notAKey : Error := (Cause.contextNotSerializable "key must be a string").toError

/-- An integer as a value; one above the greatest integer becomes a float. -/
def ofInteger (i : Int) : Except Error (Value κ) :=
  if Int64.minValue.toInt ≤ i && i ≤ Int64.maxValue.toInt then .ok (.integer (Int64.ofInt i))
  else if 0 ≤ i && i < UInt64.size then .ok (.float (Float.ofNat i.toNat))
  else .error outOfRange

def notFinite : Error :=
  (Cause.contextNotSerializable "float key must be finite (got NaN or +/-inf)").toError

/-- The text of data as a key. -/
def key : Serial → Except Error String
  | .string s => .ok s
  | .char c => .ok (String.singleton c)
  | .bool b => .ok (if b then "true" else "false")
  | .integer i => .ok (toString i)
  | .float x => (Decimal.key? x).elim (.error notFinite) .ok
  | .single x => (Decimal.singleKey? x).elim (.error notFinite) .ok
  | .refuse message => .error (Cause.contextNotSerializable message).toError
  | _ => .error notAKey

mutual

/-- The value of serialised data. -/
def toValue : Serial → Except Error (Value κ)
  | .unit => .ok .none
  | .bool b => .ok (.bool b)
  | .integer i => ofInteger i
  | .float x => .ok (if x.isFinite then .float x else .none)
  | .single x => .ok (if x.isFinite then .float x.toFloat else .none)
  | .char c => .ok (.string (String.singleton c))
  | .string s => .ok (.string s)
  | .list items => .list <$> toValues items
  | .map entries => (fun entries => .map (Dict.ofEntries entries)) <$> toEntries entries
  | .some data => data.toValue
  | .variant name data => (fun v => .map [(name, v)]) <$> data.toValue
  | .refuse message => .error (Cause.contextNotSerializable message).toError

def toValues : List Serial → Except Error (List (Value κ))
  | [] => .ok []
  | data :: rest => do
    let v ← data.toValue
    let vs ← toValues rest
    .ok (v :: vs)

/-- Entries in the order they are given, each key before its value. -/
def toEntries : List (Serial × Serial) → Except Error (List (String × Value κ))
  | [] => .ok []
  | (k, data) :: rest => do
    let k ← k.key
    let v ← data.toValue
    let entries ← toEntries rest
    .ok ((k, v) :: entries)

end

/-- The variables that serialised data provides: the entries of a map, or none at all. -/
def toVariables (data : Serial) : Except Error (Dict (Value κ)) := do
  match ← data.toValue with
  | .map entries => .ok entries
  | .none => .ok []
  | v => fail (.contextNotMap v.kind)

end Serial

end MarkupTemplate

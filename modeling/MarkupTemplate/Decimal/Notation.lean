import MarkupTemplate.Decimal.Shortest

/-!
# Decimal notation of floating-point numbers

How floats are written: in positional notation as values, and with an exponent where they are very
large or very small in the text that shows a value's structure.
-/

namespace MarkupTemplate.Decimal

/-- A floating-point number taken apart. -/
inductive Parts where
  | nan
  | infinite (negative : Bool)
  | zero (negative : Bool)
  | finite (negative : Bool) (size : Rounded)

/-- A binary interchange format: the bits of its fraction and of its exponent. -/
structure Format where
  fractionBits : Nat
  exponentBits : Nat

def Format.double : Format := ⟨52, 11⟩

def Format.single : Format := ⟨23, 8⟩

/-- The sign, exponent and fraction that a bit pattern stands for. -/
def Format.parts (f : Format) (bits : Nat) : Parts :=
  let fraction := bits % Nat.pow 2 f.fractionBits
  let exponent : Nat := bits / Nat.pow 2 f.fractionBits % Nat.pow 2 f.exponentBits
  let negative := bits / Nat.pow 2 (f.fractionBits + f.exponentBits) == 1
  let least : Int := 2 - Nat.pow 2 (f.exponentBits - 1) - f.fractionBits
  if exponent == Nat.pow 2 f.exponentBits - 1 then (if fraction == 0 then .infinite negative else .nan)
  else if exponent == 0 then
    if fraction == 0 then .zero negative else .finite negative (.ofBinary fraction least false)
  else
    .finite negative
      (.ofBinary (Nat.pow 2 f.fractionBits + fraction) (least + exponent - 1)
        (fraction == 0 && exponent != 1))

def partsOf (x : Float) : Parts := Format.double.parts x.toBits.toNat

def partsOfSingle (x : Float32) : Parts := Format.single.parts x.toBits.toNat

def sign (negative : Bool) (text : String) : String := if negative then "-" ++ text else text

def positional (d : Decimal) : String :=
  let digits := (toString d.digits).toList
  if 0 ≤ d.exponent then String.ofList (digits ++ List.replicate d.exponent.toNat '0')
  else
    let places := (-d.exponent).toNat
    if places < digits.length then
      let whole := digits.length - places
      String.ofList (digits.take whole ++ '.' :: digits.drop whole)
    else String.ofList ('0' :: '.' :: List.replicate (places - digits.length) '0' ++ digits)

def scientific (d : Decimal) : String :=
  let digits := (toString d.digits).toList
  let exponent : Int := d.exponent + (digits.length - 1 : Nat)
  let fraction := if digits.length == 1 then [] else '.' :: digits.drop 1
  String.ofList (digits.take 1 ++ fraction) ++ "e" ++ toString exponent

/-- A float as a value is written: positional, and without a point when it is whole. -/
def write (x : Float) : String :=
  match partsOf x with
  | .nan => "NaN"
  | .infinite negative => sign negative "inf"
  | .zero negative => sign negative "0"
  | .finite negative size => sign negative (positional size.shortest)

/-- The power of ten of the first digit. -/
def magnitude (d : Decimal) : Int := d.exponent + ((toString d.digits).length - 1 : Nat)

/-- A float as the structure of a value is shown: whole numbers end in `.0`, and there is an
exponent from `1e16` up and below `1e-4`. -/
def inspect (x : Float) : String :=
  match partsOf x with
  | .nan => "NaN"
  | .infinite negative => sign negative "inf"
  | .zero negative => sign negative "0.0"
  | .finite negative size =>
    let d := size.shortest
    sign negative <|
      if 16 ≤ magnitude d || magnitude d < -4 then scientific d
      else if 0 ≤ d.exponent then positional d ++ ".0"
      else positional d

/-- A number with a point or an exponent: positional from `1e-5` up to a whole part of `digits`
digits. -/
def pointed (digits : Int) (d : Decimal) : String :=
  if digits ≤ magnitude d || magnitude d < -5 then scientific d
  else if 0 ≤ d.exponent then positional d ++ ".0"
  else positional d

/-- A number as the key of an entry, if it is finite. -/
def Parts.key? (digits : Int) : Parts → Option String
  | .nan | .infinite _ => none
  | .zero negative => some (sign negative "0.0")
  | .finite negative size => some (sign negative (pointed digits size.shortest))

def key? (x : Float) : Option String := (partsOf x).key? 16

def singleKey? (x : Float32) : Option String := (partsOfSingle x).key? 13

end MarkupTemplate.Decimal

/-!
# Shortest decimals

The decimal with the fewest digits that reads back as a given binary number, and among those the
nearest to it. Everything is exact arithmetic on natural numbers.
-/

namespace MarkupTemplate

/-- The number `digits` times ten to the power `exponent`. -/
structure Decimal where
  digits : Nat
  exponent : Int
  deriving Repr, DecidableEq

namespace Decimal

/-- A positive number `value / scale` and the interval of numbers that are rounded to it. The ends
belong to the interval when `closed` holds. -/
structure Rounded where
  value : Nat
  scale : Nat
  low : Nat
  high : Nat
  closed : Bool

/-- `m * 2 ^ q` as a rounded number. Below a power of two the neighbours are twice as dense, unless
the exponent is already the least one. -/
def Rounded.ofBinary (m : Nat) (q : Int) (powerOfTwo : Bool) : Rounded :=
  let unit := Nat.pow 2 q.toNat
  { value := 4 * m * unit
    scale := 4 * Nat.pow 2 (-q).toNat
    low := (4 * m - if powerOfTwo then 1 else 2) * unit
    high := (4 * m + 2) * unit
    closed := m % 2 == 0 }

def Rounded.contains (r : Rounded) (d : Decimal) : Bool :=
  let point := d.digits * Nat.pow 10 d.exponent.toNat * r.scale
  let low := r.low * Nat.pow 10 (-d.exponent).toNat
  let high := r.high * Nat.pow 10 (-d.exponent).toNat
  if r.closed then low ≤ point && point ≤ high else low < point && point < high

/-- The distance of the decimal from the number, in units that depend on the exponent only. -/
def Rounded.distance (r : Rounded) (d : Decimal) : Nat :=
  let point := d.digits * Nat.pow 10 d.exponent.toNat * r.scale
  let value := r.value * Nat.pow 10 (-d.exponent).toNat
  (point - value) + (value - point)

/-- The best of the two multiples of `10 ^ exponent` around the number, if one is in the interval.
A tie goes up. -/
def Rounded.onGrid? (r : Rounded) (exponent : Int) : Option Decimal :=
  let below : Decimal :=
    ⟨r.value * Nat.pow 10 (-exponent).toNat / (r.scale * Nat.pow 10 exponent.toNat), exponent⟩
  let above : Decimal := ⟨below.digits + 1, exponent⟩
  match r.contains below, r.contains above with
  | true, true => some (if r.distance below < r.distance above then below else above)
  | true, false => some below
  | false, true => some above
  | false, false => none

/-- The best decimal on the coarsest of the grids from `10 ^ exponent` down that has one. -/
def Rounded.search (r : Rounded) (exponent : Int) : Nat → Option Decimal
  | 0 => none
  | steps + 1 =>
    match r.onGrid? exponent with
    | some d => some d
    | none => r.search (exponent - 1) steps

/-- The shortest decimal for a double: no grid coarser than `10 ^ 309` and none finer than
`10 ^ -342` is needed. -/
def Rounded.shortest (r : Rounded) : Decimal := (r.search 309 652).getD ⟨0, 0⟩

end Decimal

end MarkupTemplate

import ScriptBridge.Number.Double

/-!
# The fewest digits that read back

Between a double and its neighbours lie the midpoints; the decimals between
them are those that round to the double.  The written form of a double is the
decimal with the fewest digits among them, and of several with equally few the
one nearest to the double.

The search walks down the decimal grids, from one too coarse to hold such a
decimal to finer ones.  On each grid only the two neighbours of the double can
be its written form: if any point of the grid rounds to the double, one of
these does.
-/

namespace ScriptBridge

/-- A decimal number: its digits, and the power of ten that the last one counts. -/
structure Decimal where
  digits : Nat
  exponent : Int
  deriving DecidableEq

/-- Which of two equally near decimals is written. -/
inductive Tie where
  | up
  | even

namespace Double

/--
The numbers that round to a finite positive double, in quarters of the
smallest positive double: the double itself and the two midpoints beside it.
The midpoints themselves round to it if its last bit is even.
-/
structure Interval where
  value : Nat
  low : Nat
  high : Nat
  closed : Bool

/-- Below a power of two the doubles are twice as dense. -/
def interval (x : Double) : Interval :=
  let format := BinaryFormat.double
  let gap := 1 <<< format.place x.code
  let atPower := x.code % format.leading = 0 && 1 < x.code / format.leading
  { value := 4 * x.units
    low := 4 * x.units - (if atPower then gap else 2 * gap)
    high := 4 * x.units + 2 * gap
    closed := x.code % 2 = 0 }

namespace Interval

/-- True if a number lies in the interval, its ends counted by the rule of the interval. -/
def contains (i : Interval) (n : Nat) : Bool :=
  (i.low < n && n < i.high) || (i.closed && (n = i.low || n = i.high))

/-- The interval in a finer unit. -/
def refine (i : Interval) (factor : Nat) : Interval :=
  ⟨i.value * factor, i.low * factor, i.high * factor, i.closed⟩

/-- The point of a grid that is written, if one lies in the interval. -/
def gridPoint (tie : Tie) (i : Interval) (step : Nat) : Option Nat :=
  let below := i.value / step
  let above := below + 1
  let rest := i.value % step
  match i.contains (below * step), i.contains (above * step) with
  | false, false => none
  | true, false => some below
  | false, true => some above
  | true, true =>
      if 2 * rest < step then some below
      else if step < 2 * rest then some above
      else
        match tie with
        | .up => some above
        | .even => some (below + below % 2)

/-- Search the grids downwards from a power of ten. -/
def search (tie : Tie) (i : Interval) : Nat -> Int -> Decimal
  | 0, exponent => ⟨0, exponent⟩
  | fuel + 1, exponent =>
      let quarter := 1 <<< (BinaryFormat.double.scale + 2)
      let found :=
        if 0 ≤ exponent then
          i.gridPoint tie (quarter * Nat.pow 10 exponent.toNat)
        else
          (i.refine (Nat.pow 10 (-exponent).toNat)).gridPoint tie quarter
      match found with
      | some digits => ⟨digits, exponent⟩
      | none => search tie i fuel (exponent - 1)

end Interval

/--
The decimal with the fewest digits that rounds to a finite double, without its
sign.  The search starts above the double and needs at most seventeen digits.
-/
def shortest (tie : Tie) (x : Double) : Decimal :=
  if x.code = 0 then ⟨0, 0⟩
  else
    let magnitude : Int := x.units.log2 - BinaryFormat.double.scale
    x.interval.search tie 24 (magnitude * 30103 / 100000 + 2)

end Double

/-!
## Positional notation
-/

namespace Decimal

/-- The digits as characters, the first one not zero unless the number is. -/
def characters (d : Decimal) : List Char :=
  Nat.toDigits 10 d.digits

/-- The power of ten that the first digit counts. -/
def magnitude (d : Decimal) : Int :=
  d.exponent + d.characters.length - 1

/-- The digits before the point. -/
def wholePart (d : Decimal) : List Char :=
  if 0 ≤ d.exponent then
    d.characters ++ List.replicate d.exponent.toNat '0'
  else
    let shown := d.characters.take (d.magnitude + 1).toNat
    if shown.isEmpty then ['0'] else shown

/-- The digits behind the point. -/
def fractionPart (d : Decimal) : List Char :=
  if 0 ≤ d.exponent then []
  else
    List.replicate (-d.magnitude - 1).toNat '0' ++
      d.characters.drop (d.magnitude + 1).toNat

end Decimal

end ScriptBridge

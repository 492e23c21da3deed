import ScriptBridge.Number.Binary

/-!
# Doubles and singles

A double is its sixty-four bits: a sign and the code of a magnitude.  Singles
are their thirty-two.  Two doubles with the same bits are the same double;
`Double.equals` is the comparison of values, in which a double that is not a
number differs from everything and both zeros are equal.
-/

namespace ScriptBridge

/-- A double-precision number, given by its bits. -/
structure Double where
  bits : UInt64
  deriving DecidableEq, Inhabited

/-- A single-precision number, given by its bits. -/
structure Single where
  bits : UInt32
  deriving DecidableEq, Inhabited

namespace Double

/-- The bit of the sign; those below it spell the code. -/
def signBit : Nat :=
  0x8000000000000000

def ofCode (negative : Bool) (code : Nat) : Double :=
  ⟨UInt64.ofNat ((if negative then signBit else 0) + code)⟩

def zero : Double :=
  ofCode false 0

def isNegative (x : Double) : Bool :=
  signBit ≤ x.bits.toNat

def code (x : Double) : Nat :=
  x.bits.toNat % signBit

def isNaN (x : Double) : Bool :=
  BinaryFormat.double.infinity < x.code

def isFinite (x : Double) : Bool :=
  x.code < BinaryFormat.double.infinity

def isInfinite (x : Double) : Bool :=
  x.code = BinaryFormat.double.infinity

/-- The magnitude, counted in smallest positive doubles. -/
def units (x : Double) : Nat :=
  BinaryFormat.double.units x.code

def neg (x : Double) : Double :=
  ofCode (!x.isNegative) x.code

/-- Equality of values: no number equals what is not one, and the zeros are equal. -/
def equals (x y : Double) : Bool :=
  !x.isNaN && !y.isNaN && (x = y || (x.code = 0 && y.code = 0))

/-!
## Rounding
-/

def ofFraction (num den : Nat) : Double :=
  ofCode false (BinaryFormat.double.round num den)

def ofInt (n : Int) : Double :=
  ofCode (n < 0) (BinaryFormat.double.round n.natAbs 1)

def times (x y : Double) : Double :=
  let one := 1 <<< BinaryFormat.double.scale
  ofFraction (x.units * y.units) (one * one)

def dividedBy (x y : Double) : Double :=
  ofFraction x.units y.units

end Double

namespace Single

/-- The bit of the sign; those below it spell the code. -/
def signBit : Nat :=
  0x80000000

def ofCode (negative : Bool) (code : Nat) : Single :=
  ⟨UInt32.ofNat ((if negative then signBit else 0) + code)⟩

def isNegative (x : Single) : Bool :=
  signBit ≤ x.bits.toNat

def code (x : Single) : Nat :=
  x.bits.toNat % signBit

def ofInt (n : Int) : Single :=
  ofCode (n < 0) (BinaryFormat.single.round n.natAbs 1)

/-- Bits by which the fraction of a double is longer than that of a single. -/
def narrowing : Nat :=
  BinaryFormat.double.precision - BinaryFormat.single.precision

/--
The double of the same value.  What is not a number keeps the leading bits of
its fraction.
-/
def toDouble (x : Single) : Double :=
  let single := BinaryFormat.single
  if single.infinity ≤ x.code then
    .ofCode x.isNegative
      (BinaryFormat.double.infinity +
        ((x.code - single.infinity) <<< narrowing))
  else
    .ofCode x.isNegative
      (BinaryFormat.double.round (single.units x.code) (1 <<< single.scale))

end Single

/--
The nearest single.  What is not a number stays so and keeps the leading bits of
its fraction.
-/
def Double.toSingle (x : Double) : Single :=
  let double := BinaryFormat.double
  let single := BinaryFormat.single
  if x.isNaN then
    .ofCode x.isNegative
      (single.infinity +
        max ((x.code - double.infinity) >>> Single.narrowing) 1)
  else if x.isInfinite then
    .ofCode x.isNegative single.infinity
  else
    .ofCode x.isNegative (single.round x.units (1 <<< double.scale))

end ScriptBridge

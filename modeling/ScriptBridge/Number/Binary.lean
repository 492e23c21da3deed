/-!
# Binary floating point, exactly

A binary format keeps a fixed number of significant bits and a bounded range
of exponents.  Every finite number of a format is a whole multiple of the
smallest positive one, which is a power of two.  So a magnitude has two
readings: its *code*, the natural number that the exponent and fraction fields
spell, and its *units*, how many times the smallest positive number it is.

Rounding takes an exact fraction to the code of the nearest number of the
format, and of two equally near ones to the one with an even last bit.  No
other arithmetic is needed: a product, a quotient or a change of format is the
rounding of an exact fraction.
-/

namespace ScriptBridge

/-- The quotient rounded to the nearest whole number, a half to the even one. -/
def nearestQuotient (num den : Nat) : Nat :=
  let quotient := num / den
  let rest := num % den
  if 2 * rest < den then quotient
  else if den < 2 * rest then quotient + 1
  else quotient + quotient % 2

structure BinaryFormat where
  /-- Significant bits, the leading one included. -/
  precision : Nat
  exponentWidth : Nat

namespace BinaryFormat

def single : BinaryFormat :=
  ⟨24, 8⟩

def double : BinaryFormat :=
  ⟨53, 11⟩

def leading (format : BinaryFormat) : Nat :=
  1 <<< (format.precision - 1)

/-- One is this many doublings above the smallest positive number. -/
def scale (format : BinaryFormat) : Nat :=
  (1 <<< (format.exponentWidth - 1)) + format.precision - 3

/-- The code of infinity; greater codes are not numbers. -/
def infinity (format : BinaryFormat) : Nat :=
  ((1 <<< format.exponentWidth) - 1) * format.leading

/-- The value of the last place of a finite code, in units, as a power of two. -/
def place (format : BinaryFormat) (code : Nat) : Nat :=
  code / format.leading - 1

/-- The value of a finite code, counted in smallest positive numbers. -/
def units (format : BinaryFormat) (code : Nat) : Nat :=
  let fraction := code % format.leading
  if code / format.leading = 0 then fraction
  else (format.leading + fraction) <<< format.place code

def round (format : BinaryFormat) (num den : Nat) : Nat :=
  let exact := num <<< format.scale
  let place := (exact / den).log2 + 1 - format.precision
  let code :=
    place * format.leading + nearestQuotient exact (den <<< place)
  min code format.infinity

end BinaryFormat

end ScriptBridge

import ScriptBridge.Json.Basic
import ScriptBridge.Number.Shortest

/-!
# Numbers in JSON

An integer without point or exponent is read exactly, if it fits into 64 bits.
Any other number is read as a double, in a way that is quick and nearly always
gives the nearest double: the leading digits that fit into 64 bits make a whole
number, which is scaled by a power of ten in one step or, for very small
numbers, in several.  A number that is too great for a double cannot be read.

Doubles are written with the fewest digits that identify them, in positional
notation if the first digit counts at least 0.00001 and less than 10^16.
-/

namespace ScriptBridge

inductive Numeral where
  | natural (n : Nat)
  /-- A negative integer, given by its magnitude. -/
  | negative (n : Nat)
  | double (x : Double)

namespace JsonNumber

/-!
## Reading
-/

def digitValue (c : Char) : Nat :=
  c.toNat - 48

def digitsValue (digits : List Char) : Nat :=
  digits.foldl (fun n c => n * 10 + digitValue c) 0

/-- Append digits to a number while it fits into 64 bits; the digits that are left. -/
def gather : Nat -> List Char -> Nat × List Char
  | n, [] => (n, [])
  | n, c :: rest =>
      let longer := n * 10 + digitValue c
      if longer < UInt64.size then gather longer rest else (n, c :: rest)

def powerOfTen (exponent : Nat) : Double :=
  .ofFraction (Nat.pow 10 exponent) 1

/-- The greatest power of ten that is a double. -/
def greatestPower : Nat := 308

/--
Scale a double by a power of ten.  A result beyond the greatest double is
refused; below the reach of one division, several are made.
-/
def scaleBy : Nat -> Double -> Int -> Option Double
  | 0, x, _ => some x
  | fuel + 1, x, exponent =>
      if exponent.natAbs ≤ greatestPower then
        if 0 ≤ exponent then
          let scaled := x.times (powerOfTen exponent.natAbs)
          if scaled.isFinite then some scaled else none
        else some (x.dividedBy (powerOfTen exponent.natAbs))
      else if x = .zero then some x
      else if 0 ≤ exponent then none
      else
        scaleBy fuel (x.dividedBy (powerOfTen greatestPower))
          (exponent + greatestPower)

/-- The exponent that is written, if it is within the range of exponents. -/
def writtenExponent? (digits : List Char) : Option Nat :=
  let value := digitsValue digits
  if value < 0x80000000 then some value else none

/-- Read a number with a point, an exponent, or too many digits. -/
def magnitude? (n : JsonNumber) : Option Double :=
  let (whole, dropped) := gather 0 n.whole
  let (significand, unread) := gather whole n.fraction
  let places : Int := n.fraction.length - unread.length
  let shift : Int := dropped.length - places
  let scaled := scaleBy 5 (.ofInt significand)
  match n.exponent with
  | none => scaled shift
  | some (sign, digits) =>
      match writtenExponent? digits, sign with
      | some e, .minus => scaled (shift - e)
      | some e, _ => scaled (shift + e)
      | none, .minus => some .zero
      | none, _ => if significand = 0 then some .zero else none

def isWhole (n : JsonNumber) : Bool :=
  n.fraction.isEmpty && n.exponent.isNone

/--
What a number is read as, if it can be read.  A negative zero is a double, and so
is an integer that does not fit.
-/
def numeral? (n : JsonNumber) : Option Numeral :=
  let value := digitsValue n.whole
  if n.isWhole && !n.negative && value < UInt64.size then some (.natural value)
  else if n.isWhole && n.negative && 0 < value && value ≤ 0x8000000000000000 then
    some (.negative value)
  else
    n.magnitude?.map (fun x => .double (if n.negative then x.neg else x))

/-!
## Writing
-/

def ofNat (n : Nat) : JsonNumber :=
  ⟨false, Nat.toDigits 10 n, [], none⟩

def ofInt (n : Int) : JsonNumber :=
  ⟨n < 0, Nat.toDigits 10 n.natAbs, [], none⟩

def ofDouble (x : Double) : JsonNumber :=
  let decimal := x.shortest .even
  let magnitude := decimal.magnitude
  if -5 ≤ magnitude && magnitude < 16 then
    let fraction := decimal.fractionPart
    ⟨x.isNegative, decimal.wholePart,
      if fraction.isEmpty then ['0'] else fraction, none⟩
  else
    let sign := if 0 ≤ magnitude then ExponentSign.plus else .minus
    ⟨x.isNegative, decimal.characters.take 1, decimal.characters.drop 1,
      some (sign, Nat.toDigits 10 magnitude.natAbs)⟩

end JsonNumber

end ScriptBridge

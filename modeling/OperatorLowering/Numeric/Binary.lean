/-!
Binary floating-point formats with a sign, an exponent and a fraction field. Numbers are decoded to
exact values; the one inexact operation is rounding a ratio of natural numbers to the nearest number
of a format.
-/

namespace OperatorLowering

structure BinaryFormat where
  /-- Bits of the significand, its leading one included. -/
  precision : Nat
  exponentBits : Nat
  deriving Repr, DecidableEq, Inhabited

inductive BinaryValue where
  | nan
  | infinite (negative : Bool)
  /-- The number `±significand * 2 ^ exponent`. -/
  | finite (negative : Bool) (significand : Nat) (exponent : Int)
  deriving Repr, DecidableEq, Inhabited

/-- The natural number nearest to `n / d`; of two, the even one. -/
def roundHalfEven (n d : Nat) : Nat :=
  let q := n / d
  let r := n % d
  if 2 * r < d then q else if d < 2 * r then q + 1 else q + q % 2

namespace BinaryFormat

def single : BinaryFormat := ⟨24, 8⟩

def double : BinaryFormat := ⟨53, 11⟩

def minExponent (f : BinaryFormat) : Int := 3 - Nat.pow 2 (f.exponentBits - 1) - f.precision

def exponentUnit (f : BinaryFormat) : Nat := Nat.pow 2 (f.precision - 1)

def infinity (f : BinaryFormat) : Nat := (Nat.pow 2 f.exponentBits - 1) * f.exponentUnit

def signBit (f : BinaryFormat) : Nat := Nat.pow 2 f.exponentBits * f.exponentUnit

def decode (f : BinaryFormat) (bits : Nat) : BinaryValue :=
  let negative : Bool := f.signBit ≤ bits
  let magnitude := bits % f.signBit
  let fraction := magnitude % f.exponentUnit
  let exponent := magnitude / f.exponentUnit
  if f.infinity < magnitude then .nan
  else if magnitude = f.infinity then .infinite negative
  else if exponent = 0 then .finite negative fraction f.minExponent
  else .finite negative (f.exponentUnit + fraction) (f.minExponent + (exponent - 1 : Nat))

/-- The number `num / den / 2 ^ exponent` as a fraction. -/
def scale (num den : Nat) (exponent : Int) : Nat × Nat :=
  (num * Nat.pow 2 (-exponent).toNat, den * Nat.pow 2 exponent.toNat)

/-- The exponent of the last place at which `num / den` is rounded. -/
def placeOf (f : BinaryFormat) (num den : Nat) : Int :=
  let guess := max f.minExponent ((num.log2 : Int) - den.log2 - f.precision)
  let (n, d) := scale num den guess
  if Nat.pow 2 f.precision ≤ n / d then guess + 1 else guess

def roundRatio (f : BinaryFormat) (num den : Nat) : Nat :=
  if num = 0 then 0 else
    let place := f.placeOf num den
    let (n, d) := scale num den place
    min f.infinity ((place - f.minExponent).toNat * f.exponentUnit + roundHalfEven n d)

/-- The bit pattern of a value, rounded to the format. All values that are no numbers share one. -/
def encode (f : BinaryFormat) : BinaryValue → Nat
  | .nan => f.infinity + f.exponentUnit / 2
  | .infinite negative => (if negative then f.signBit else 0) + f.infinity
  | .finite negative significand exponent =>
    (if negative then f.signBit else 0) +
      f.roundRatio (significand * Nat.pow 2 exponent.toNat) (Nat.pow 2 (-exponent).toNat)

end BinaryFormat

namespace BinaryValue

def ofInt (i : Int) : BinaryValue := .finite (i < 0) i.natAbs 0

def isFinite : BinaryValue → Bool
  | nan | infinite _ => false
  | finite .. => true

/-- The integer part, toward zero, no less than `low` and no more than `high`. -/
def clamp (low high : Int) : BinaryValue → Int
  | nan => 0
  | infinite negative => if negative then low else high
  | finite negative significand exponent =>
    let magnitude : Int :=
      (significand * Nat.pow 2 exponent.toNat / Nat.pow 2 (-exponent).toNat : Nat)
    max low (min high (if negative then -magnitude else magnitude))

end BinaryValue

structure Binary32 where
  bits : UInt32
  deriving Repr, DecidableEq, Inhabited

structure Binary64 where
  bits : UInt64
  deriving Repr, DecidableEq, Inhabited

namespace Binary32

def value (x : Binary32) : BinaryValue := BinaryFormat.single.decode x.bits.toNat

def ofValue (v : BinaryValue) : Binary32 := ⟨.ofNat (BinaryFormat.single.encode v)⟩

def isNaN (x : Binary32) : Bool := x.value == .nan

end Binary32

namespace Binary64

def value (x : Binary64) : BinaryValue := BinaryFormat.double.decode x.bits.toNat

def ofValue (v : BinaryValue) : Binary64 := ⟨.ofNat (BinaryFormat.double.encode v)⟩

def isNaN (x : Binary64) : Bool := x.value == .nan

def isFinite (x : Binary64) : Bool := x.value.isFinite

end Binary64

end OperatorLowering

import OperatorLowering.Numeric.Binary

/-!
The shortest decimal that reads back as a given number of a binary format.

For one, two, … digits, the two decimals around the number are tried; the first that rounds to the
number is taken, of two the nearer one.
-/

namespace OperatorLowering

/-- The decimal `digits * 10 ^ exponent`. -/
structure Decimal where
  digits : Nat
  exponent : Int
  deriving Repr, DecidableEq, Inhabited

namespace Decimal

def ratio (d : Decimal) : Nat × Nat :=
  (d.digits * Nat.pow 10 d.exponent.toNat, Nat.pow 10 (-d.exponent).toNat)

def round (f : BinaryFormat) (d : Decimal) : Nat := f.roundRatio d.ratio.1 d.ratio.2

def normalize (d : Decimal) : Nat → Decimal
  | 0 => d
  | n + 1 =>
    if d.digits % 10 = 0 ∧ d.digits ≠ 0 then normalize ⟨d.digits / 10, d.exponent + 1⟩ n else d

end Decimal

namespace BinaryFormat

/-- The least exponent with `num / den < 10 ^ exponent`, from a lower bound on. -/
def decimalExponent (num den : Nat) (lower : Int) : Nat → Int
  | 0 => lower
  | fuel + 1 =>
    if num * Nat.pow 10 (-lower).toNat < den * Nat.pow 10 lower.toNat then lower
    else decimalExponent num den (lower + 1) fuel

/-- The decimal among the multiples of `10 ^ exponent` that rounds to the bit pattern `bits`. -/
def onGrid? (f : BinaryFormat) (bits num den : Nat) (exponent : Int) : Option Decimal :=
  let n := num * Nat.pow 10 (-exponent).toNat
  let d := den * Nat.pow 10 exponent.toNat
  let below : Decimal := ⟨n / d, exponent⟩
  let above : Decimal := ⟨n / d + 1, exponent⟩
  match below.round f == bits, above.round f == bits with
  | true, true => some (if 2 * (n % d) ≤ d then below else above)
  | true, false => some below
  | false, true => some above
  | false, false => none

/-- The first hit among grids that get finer, starting with one digit before `10 ^ magnitude`. -/
def firstHit (f : BinaryFormat) (bits num den : Nat) (exponent : Int) : Nat → Decimal
  | 0 => ⟨num / den, 0⟩
  | fuel + 1 =>
    match f.onGrid? bits num den exponent with
    | some d => d
    | none => f.firstHit bits num den (exponent - 1) fuel

/-- The shortest decimal that reads back as the positive number `num / den` with these bits. -/
def shortest (f : BinaryFormat) (bits num den : Nat) : Decimal :=
  let lower : Int := ((num.log2 : Int) - den.log2 - 1) * 30103 / 100000 - 1
  let magnitude := decimalExponent num den lower 4
  (f.firstHit bits num den (magnitude - 1) 20).normalize 20

end BinaryFormat

end OperatorLowering

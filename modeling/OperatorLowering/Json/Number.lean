import OperatorLowering.Json

/-!
Reading the numbers of a JSON text.

A number with a fraction or an exponent keeps as many leading digits as fit in 64 bits. Their
integer value is rounded to double precision and then multiplied or divided by one power of ten,
itself rounded, so the result can differ from the nearest double in its last place.
-/

namespace OperatorLowering.Json

structure NumberLiteral where
  negative : Bool
  whole : List Nat
  fraction : Option (List Nat)
  /-- Sign, negative if `true`, and digits. -/
  exponent : Option (Bool × List Nat)
  deriving Repr, DecidableEq, Inhabited

namespace NumberLiteral

def splitDigits (cs : List Char) : List Nat × List Char :=
  ((cs.takeWhile Char.isDigit).map fun c => c.toNat - '0'.toNat, cs.dropWhile Char.isDigit)

def scanFraction : List Char → Option (Option (List Nat) × List Char)
  | '.' :: cs =>
    match splitDigits cs with
    | ([], _) => none
    | (digits, rest) => some (some digits, rest)
  | cs => some (none, cs)

def scanExponentDigits (negative : Bool) (cs : List Char)
    : Option (Option (Bool × List Nat) × List Char) :=
  match splitDigits cs with
  | ([], _) => none
  | (digits, rest) => some (some (negative, digits), rest)

def scanExponent : List Char → Option (Option (Bool × List Nat) × List Char)
  | c :: cs =>
    if c == 'e' || c == 'E' then
      match cs with
      | '+' :: cs => scanExponentDigits false cs
      | '-' :: cs => scanExponentDigits true cs
      | cs => scanExponentDigits false cs
    else
      some (none, c :: cs)
  | [] => some (none, [])

def scanUnsigned (negative : Bool) (cs : List Char) : Option (NumberLiteral × List Char) :=
  match splitDigits cs with
  | ([], _) => none
  | (0 :: _ :: _, _) => none
  | (whole, rest) =>
    match scanFraction rest with
    | none => none
    | some (fraction, rest) =>
      match scanExponent rest with
      | none => none
      | some (exponent, rest) => some (⟨negative, whole, fraction, exponent⟩, rest)

def scan : List Char → Option (NumberLiteral × List Char)
  | '-' :: cs => scanUnsigned true cs
  | cs => scanUnsigned false cs

/--
Appends digits before the point to a significand as long as it fits in 64 bits; also the number of
digits left over.
-/
def appendWhole (significand : Nat) : List Nat → Nat × Nat
  | [] => (significand, 0)
  | d :: ds =>
    if 10 * significand + d < UInt64.size then appendWhole (10 * significand + d) ds
    else (significand, ds.length + 1)

/-- Appends digits after the point; also the number of digits appended. -/
def appendFraction (significand : Nat) : List Nat → Nat × Nat
  | [] => (significand, 0)
  | d :: ds =>
    if 10 * significand + d < UInt64.size then
      let (significand, taken) := appendFraction (10 * significand + d) ds
      (significand, taken + 1)
    else
      (significand, 0)

def exponentValue? (value : Nat) : List Nat → Option Nat
  | [] => some value
  | d :: ds => if 10 * value + d < Nat.pow 2 31 then exponentValue? (10 * value + d) ds else none

end NumberLiteral

def ratioOf (x : Binary64) : Nat × Nat :=
  match x.value with
  | .finite _ significand exponent =>
    (significand * Nat.pow 2 exponent.toNat, Nat.pow 2 (-exponent).toNat)
  | _ => (0, 1)

def ofRatio (num den : Nat) : Binary64 := ⟨.ofNat (BinaryFormat.double.roundRatio num den)⟩

/-- The product `x * 10 ^ k`, the power rounded first. -/
def timesPower (x : Binary64) (k : Nat) : Binary64 :=
  let (n, d) := ratioOf x
  let (pn, pd) := ratioOf (ofRatio (Nat.pow 10 k) 1)
  ofRatio (n * pn) (d * pd)

def overPower (x : Binary64) (k : Nat) : Binary64 :=
  let (n, d) := ratioOf x
  let (pn, pd) := ratioOf (ofRatio (Nat.pow 10 k) 1)
  ofRatio (n * pd) (d * pn)

def maxPower : Nat := 308

def scaleDown (x : Binary64) (k : Nat) : Binary64 :=
  if k ≤ maxPower then overPower x k
  else if x.bits = 0 then x
  else scaleDown (overPower x maxPower) (k - maxPower)
termination_by k
decreasing_by simp_all [maxPower]; omega

def scaleUp? (x : Binary64) (k : Nat) : Option Binary64 :=
  if k ≤ maxPower then
    let y := timesPower x k
    if y.value == .infinite false then none else some y
  else if x.bits = 0 then some x
  else none

def scaled? (significand : Nat) (exponent : Int) : Option Binary64 :=
  if 0 ≤ exponent then scaleUp? (ofRatio significand 1) exponent.toNat
  else some (scaleDown (ofRatio significand 1) (-exponent).toNat)

def signed (negative : Bool) (x : Binary64) : Binary64 :=
  if negative then ⟨x.bits ||| 0x8000000000000000⟩ else x

namespace NumberLiteral

def mantissa (lit : NumberLiteral) : Nat × Int :=
  let (significand, leftOver) := appendWhole 0 lit.whole
  let (significand, taken) := appendFraction significand (lit.fraction.getD [])
  (significand, (leftOver : Int) - taken)

def toFloat? (lit : NumberLiteral) : Option Binary64 :=
  let (significand, exponent) := lit.mantissa
  let magnitude :=
    match lit.exponent with
    | none => scaled? significand exponent
    | some (negative, digits) =>
      match exponentValue? 0 digits with
      | some e => scaled? significand (if negative then exponent - e else exponent + e)
      | none => if significand ≠ 0 && !negative then none else some ⟨0⟩
  magnitude.map (signed lit.negative)

/-- The integer value of a literal without fraction and exponent; negative zero is none. -/
def toInteger? (lit : NumberLiteral) : Option Int :=
  match lit.fraction, lit.exponent, appendWhole 0 lit.whole with
  | none, none, (significand, 0) =>
    if !lit.negative then some significand
    else if 0 < significand && significand ≤ Nat.pow 2 63 then some (-significand)
    else none
  | _, _, _ => none

def value (lit : NumberLiteral) : Json :=
  match lit.toInteger? with
  | some i => .number (.integer i)
  | none =>
    match lit.toFloat? with
    | some x => .number (.float x)
    | none => .unusable

end NumberLiteral

end OperatorLowering.Json

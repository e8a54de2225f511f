import Mathlib.Data.Int.ModEq
import OperatorLowering.Proofs.CastValue

/-!
What casts to integral primitive types do to integers: reduction modulo two to the number of bits,
from whatever type the operand is read.
-/

namespace OperatorLowering

namespace Primitive

def bits? : Primitive → Option Nat
  | byte => some 8
  | short => some 16
  | int => some 32
  | long => some 64
  | float | double => none

theorem bits?_range {p : Primitive} {w : Nat} (hw : p.bits? = some w) : 1 ≤ w ∧ w ≤ 64 := by
  cases p <;> cases hw <;> decide

end Primitive

theorem bmod_modEq (i : Int) (w : Nat) : i.bmod (2 ^ w) ≡ i [ZMOD 2 ^ w] := by
  have := Int.bmod_emod (x := i) (m := 2 ^ w)
  push_cast at this
  exact this

theorem bmod_eq_of_modEq {i j : Int} {w : Nat} (h : j ≡ i [ZMOD 2 ^ w])
    : j.bmod (2 ^ w) = i.bmod (2 ^ w) := by
  rw [← Int.emod_bmod j, ← Int.emod_bmod i]
  push_cast
  rw [h]

namespace Number

def integer? : Number → Option Int
  | byte v => some v.toInt
  | short v => some v.toInt
  | int v => some v.toInt
  | long v => some v.toInt
  | float _ | double _ => none

/-- The number has width `p`, and its value is the one of its `w` signed bits congruent to `i`. -/
structure IsResidue (m : Number) (i : Int) (p : Primitive) (w : Nat) : Prop where
  width : m.width = p
  residue : ∃ j, m.integer? = some j ∧ j ≡ i [ZMOD 2 ^ w] ∧ -2 ^ (w - 1) ≤ j ∧ j < 2 ^ (w - 1)

variable {n m : Number} {i j : Int} {p : Primitive} {w v : Nat}

theorem eq_of_integer? (hwidth : n.width = m.width) (hn : n.integer? = some i)
    (hm : m.integer? = some i) : n = m := by
  cases n <;> cases m <;> cases hwidth <;> cases hn
  . exact congrArg byte (Int8.toInt_inj.mp (Option.some.inj hm).symm)
  . exact congrArg short (Int16.toInt_inj.mp (Option.some.inj hm).symm)
  . exact congrArg int (Int32.toInt_inj.mp (Option.some.inj hm).symm)
  . exact congrArg long (Int64.toInt_inj.mp (Option.some.inj hm).symm)

theorem range_of_integer? (hn : n.integer? = some i) (hw : n.width.bits? = some w)
    : -2 ^ (w - 1) ≤ i ∧ i < 2 ^ (w - 1) := by
  cases n <;> cases hw <;> cases hn
  . exact ⟨Int8.le_toInt _, Int8.toInt_lt _⟩
  . exact ⟨Int16.le_toInt _, Int16.toInt_lt _⟩
  . exact ⟨Int32.le_toInt _, Int32.toInt_lt _⟩
  . exact ⟨Int64.le_toInt _, Int64.toInt_lt _⟩

theorem exists_bits?_of_integer? (hn : n.integer? = some i)
    : ∃ w, n.width.bits? = some w := by
  cases n with
  | float | double => contradiction
  | _ => exact ⟨_, rfl⟩

theorem bmod_of_integer? (hn : n.integer? = some i) (hw : n.width.bits? = some w) (hv : w ≤ v)
    : i.bmod (2 ^ v) = i := by
  obtain ⟨hlow, hhigh⟩ := range_of_integer? hn hw
  have hpos := (Primitive.bits?_range hw).1
  have hhalf : 2 * (2 : Int) ^ (w - 1) = 2 ^ w := by
    rw [← pow_succ', Nat.sub_add_cancel hpos]
  have hpow : (2 : Int) ^ w ≤ 2 ^ v := by
    exact_mod_cast Nat.pow_le_pow_right (by decide) hv
  apply Int.bmod_eq_of_le_mul_two
  . push_cast
    omega
  . push_cast
    omega

theorem toInt_longValue (hn : n.integer? = some i) : n.longValue.toInt = i := by
  cases n <;> cases hn
  . apply Int8.toInt_toInt64
  . apply Int16.toInt_toInt64
  . apply Int32.toInt_toInt64
  . rfl

theorem toInt_intValue (hn : n.integer? = some i) : n.intValue.toInt = i.bmod (2 ^ 32) := by
  cases n with
  | byte v =>
    rw [bmod_of_integer? hn rfl (by decide)]
    cases hn
    apply Int8.toInt_toInt32
  | short v =>
    rw [bmod_of_integer? hn rfl (by decide)]
    cases hn
    apply Int16.toInt_toInt32
  | int v =>
    rw [bmod_of_integer? hn rfl (by decide)]
    cases hn
    rfl
  | long v =>
    cases hn
    apply Int64.toInt_toInt32
  | _ => contradiction

theorem integer?_read (hn : n.integer? = some i) (hw : p.bits? = some w)
    : (n.read p).integer? = some (i.bmod (2 ^ w)) := by
  cases p with
  | byte =>
    cases hw
    have : 2 ^ 8 ∣ 2 ^ 32 := Nat.pow_dvd_pow 2 (by decide)
    rw [← Int.bmod_bmod_of_dvd this, ← toInt_intValue hn]
    exact congrArg some n.intValue.toInt_toInt8
  | short =>
    cases hw
    have : 2 ^ 16 ∣ 2 ^ 32 := Nat.pow_dvd_pow 2 (by decide)
    rw [← Int.bmod_bmod_of_dvd this, ← toInt_intValue hn]
    exact congrArg some n.intValue.toInt_toInt16
  | int =>
    cases hw
    exact congrArg some (toInt_intValue hn)
  | long =>
    cases hw
    obtain ⟨v, hv⟩ := exists_bits?_of_integer? hn
    rw [bmod_of_integer? hn hv (Primitive.bits?_range hv).2]
    exact congrArg some (toInt_longValue hn)
  | _ => contradiction

theorem isResidue_read (hn : n.integer? = some i) (hw : p.bits? = some w)
    : (n.read p).IsResidue i p w := by
  have hread := integer?_read hn hw
  refine ⟨width_read n p, _, hread, bmod_modEq i w, ?_⟩
  apply range_of_integer? hread
  rw [width_read]
  exact hw

theorem IsResidue.of_modEq (h : m.IsResidue j p w) (hij : j ≡ i [ZMOD 2 ^ w])
    : m.IsResidue i p w := by
  obtain ⟨hwidth, k, hk, hkj, hrange⟩ := h
  exact ⟨hwidth, k, hk, hkj.trans hij, hrange⟩

theorem IsResidue.integer?_eq (h : m.IsResidue i p w) (hw : p.bits? = some w)
    : m.integer? = some (i.bmod (2 ^ w)) := by
  obtain ⟨rfl, j, hj, hji, -⟩ := h
  rw [← bmod_eq_of_modEq hji, bmod_of_integer? hj hw (Nat.le_refl w)]
  exact hj

theorem IsResidue.eq (h : m.IsResidue i p w) (h' : n.IsResidue i p w) (hw : p.bits? = some w)
    : m = n := by
  apply eq_of_integer?
  . rw [h.width, h'.width]
  . exact h.integer?_eq hw
  . exact h'.integer?_eq hw

theorem read_eq_of_modEq (hn : n.integer? = some i) (hm : m.integer? = some j)
    (hji : j ≡ i [ZMOD 2 ^ w]) (hw : p.bits? = some w) : m.read p = n.read p := by
  have hresidue := (isResidue_read hm hw).of_modEq hji
  exact hresidue.eq (isResidue_read hn hw) hw

end Number

/-- The type is an integral primitive type of `w` bits or more. -/
def NumericType.HasRoomFor (t : NumericType) (w : Nat) : Prop :=
  ∃ p v, t = .primitive p ∧ p.bits? = some v ∧ w ≤ v

namespace Lowering

/-- One cast after another, each given by the types it goes from and to. -/
def convertAll (value : Option Number) (casts : List (NumericType × NumericType)) : Option Number :=
  casts.foldl (fun value cast => convert value cast.1 cast.2) value

variable {n : Number} {i : Int} {w : Nat} {source : NumericType}

theorem convertAll_cons (value : Option Number) (source target : NumericType)
    (casts : List (NumericType × NumericType))
    : convertAll value ((source, target) :: casts) =
        convertAll (convert value source target) casts := rfl

theorem convertAll_append (value : Option Number) (casts more : List (NumericType × NumericType))
    : convertAll value (casts ++ more) = convertAll (convertAll value casts) more :=
  List.foldl_append

theorem exists_convertAll_modEq {casts : List (NumericType × NumericType)}
    (hcasts : ∀ cast ∈ casts, cast.2.HasRoomFor w) (hn : n.integer? = some i)
    : ∃ m j, convertAll (some n) casts = some m ∧ m.integer? = some j ∧ j ≡ i [ZMOD 2 ^ w] := by
  induction casts generalizing n i with
  | nil => exact ⟨n, i, rfl, hn, Int.ModEq.refl i⟩
  | cons cast casts ih =>
    obtain ⟨source, target⟩ := cast
    obtain ⟨p, v, htarget, hv, hwv⟩ := hcasts _ List.mem_cons_self
    obtain rfl : target = .primitive p := htarget
    obtain ⟨m, j, hm, hj, hmod⟩ :=
      ih (fun cast h => hcasts cast (List.mem_cons_of_mem _ h)) (Number.integer?_read hn hv)
    have hdvd : (2 : Int) ^ w ∣ 2 ^ v := pow_dvd_pow 2 hwv
    refine ⟨m, j, ?_, hj, hmod.trans ((bmod_modEq i v).of_dvd hdvd)⟩
    rw [convertAll_cons, convert_primitive]
    exact hm

theorem guards_cast_of_reference (h : source.isReference = true) (q : Primitive)
    : (cast (.ofType source) (.numeric (.primitive q))).guards = [.left] := by
  have hguarded : (CastPlan.toNumeric source (.primitive q)).guarded = true := by
    cases source with
    | primitive p => contradiction
    | boxed p =>
      simp only [CastPlan.toNumeric, reduceCtorEq, if_false]
      split <;> rfl
    | _ => rfl
  simp [cast, CastPlan.plan, hguarded, OperandType.isGuarded, OperandType.ofType, h]

theorem convert_none_of_reference (h : source.isReference = true) (q : Primitive)
    : convert none source (.primitive q) = convert (some (.int 0)) source (.primitive q) := by
  simp only [convert, guards_cast_of_reference h]
  rfl

theorem convert_none_of_primitive (p q : Primitive)
    : convert none (.primitive p) (.primitive q) = none := by
  simp [convert, cast, OperandType.isGuarded, OperandType.ofType, NumericType.isReference,
    NumericType.isPrimitive]

end Lowering

open Lowering

/--
A cast of an integer to an integral primitive type is reduction modulo two to the number of its
bits. It does not depend on the type that the operand is taken to have, nor on earlier casts as long
as none was narrower. Null is zero if the operand is an object, and stays null if it is primitive.
-/
theorem integral_cast_is_reduction (n : Number) (i : Int) (q : Primitive) (w : Nat)
    (hn : n.integer? = some i) (hq : q.bits? = some w)
    : (∃ m : Number, m.IsResidue i q w ∧ (∀ m' : Number, m'.IsResidue i q w → m' = m) ∧
          ∀ source, convert (some n) source (.primitive q) = some m) ∧
        (∀ (casts : List (NumericType × NumericType)) (source source' : NumericType),
          (∀ cast ∈ casts, cast.2.HasRoomFor w) →
            convertAll (some n) (casts ++ [(source, .primitive q)]) =
              convert (some n) source' (.primitive q)) ∧
        (∀ source : NumericType, source.isReference = true →
          ∃ zero : Number, zero.width = q ∧ zero.integer? = some 0 ∧
            convert none source (.primitive q) = some zero) ∧
        ∀ p, convert none (.primitive p) (.primitive q) = none := by
  refine ⟨?_, ?_, ?_, ?_⟩
  . have hread := Number.isResidue_read hn hq
    refine ⟨n.read q, hread, ?_, fun source => convert_primitive n source q⟩
    intro m hm
    exact hm.eq hread hq
  . intro casts source source' hcasts
    obtain ⟨m, j, hm, hj, hji⟩ := exists_convertAll_modEq hcasts hn
    rw [convertAll_append, hm, convert_primitive, ← Number.read_eq_of_modEq hn hj hji hq]
    apply convert_primitive
  . intro source hsource
    refine ⟨Number.read (.int 0) q, Number.width_read _ q, ?_, ?_⟩
    . rw [Number.integer?_read rfl hq]
      simp
    . rw [convert_none_of_reference hsource, convert_primitive]
  . intro p
    apply convert_none_of_primitive

/-- A long that no double holds, read as if it were one, down to a byte in one cast and in three. -/
theorem odd_long_is_reduced_to_byte
    : let n : Number := .long (-9223372036854775679)
      let casts : List (NumericType × NumericType) :=
        [(.atomic .double, .primitive .int), (.boxed .int, .primitive .short)]
      n.integer? = some (-9223372036854775679) ∧ (∀ cast ∈ casts, cast.2.HasRoomFor 8) ∧
        (Number.byte (-127)).IsResidue (-9223372036854775679) .byte 8 ∧
        convertAll (some n) (casts ++ [(.bigDecimal, .primitive .byte)]) =
          convert (some n) (.atomic .double) (.primitive .byte) ∧
        convert (some n) (.atomic .double) (.primitive .byte) = some (.byte (-127)) ∧
        ∃ zero : Number, zero.width = .byte ∧ zero.integer? = some 0 ∧
          convert none (.atomic .double) (.primitive .byte) = some zero := by
  intro n casts
  have hcasts : ∀ cast ∈ casts, cast.2.HasRoomFor 8 := by
    intro cast hcast
    rcases List.mem_cons.mp hcast with rfl | hcast
    . exact ⟨.int, 32, rfl, rfl, by decide⟩
    . obtain rfl := List.mem_singleton.mp hcast
      exact ⟨.short, 16, rfl, rfl, by decide⟩
  obtain ⟨⟨m, hm, -, hconvert⟩, hchain, hnull, -⟩ :=
    integral_cast_is_reduction n (-9223372036854775679) .byte 8 (by decide) rfl
  have hbyte : convert (some n) (.atomic .double) (.primitive .byte) = some (.byte (-127)) := by
    decide
  have hmbyte : m = .byte (-127) := Option.some.inj ((hconvert _).symm.trans hbyte)
  rw [hmbyte] at hm
  refine ⟨by decide, hcasts, hm, ?_, hbyte, ?_⟩
  . exact hchain casts .bigDecimal (.atomic .double) hcasts
  . exact hnull (.atomic .double) rfl

end OperatorLowering

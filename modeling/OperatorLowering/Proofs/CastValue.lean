import OperatorLowering.Lowering.Convert
import OperatorLowering.Proofs.ConversionTyping

/-!
What casts do to the numbers that primitives, boxes and atomic cells hold. Such a cast reads its
operand at the width of the target, but for one case: a primitive value that is put into an object
of a wider type keeps its own width.
-/

namespace OperatorLowering

namespace Primitive

theorem eq_of_not_wider {p q : Primitive} (hpq : p.wider q = false) (hqp : q.wider p = false)
    : p = q := by
  cases p <;> cases q <;> first | rfl | contradiction

end Primitive

namespace Number

@[simp]
theorem width_read (n : Number) (p : Primitive) : (n.read p).width = p := by
  cases p <;> rfl

theorem read_width (n : Number) : n.read n.width = n := by
  cases n with
  | byte v =>
    apply congrArg byte
    apply Int8.toInt8_toInt32
  | short v =>
    apply congrArg short
    apply Int16.toInt16_toInt32
  | _ => rfl

@[simp]
theorem read_read_self (n : Number) (p : Primitive) : (n.read p).read p = n.read p := by
  have := read_width (n.read p)
  rw [width_read] at this
  exact this

theorem eq_read_iff {n : Number} {p : Primitive} : n = n.read p ↔ n.width = p := by
  constructor
  . intro h
    rw [h]
    apply width_read
  . intro h
    rw [← h, read_width]

end Number

namespace NumericType

/-- The type is a primitive, a box or an atomic cell, and its values have width `p`. -/
def Holds (t : NumericType) (p : Primitive) : Prop := t ≠ .number ∧ t.width? = some p

/-- Does a cast put a primitive value into an object of a wider type? -/
def widensInto (source target : NumericType) : Bool :=
  match source, target.width? with
  | primitive p, some q => target.isReference && q.wider p
  | _, _ => false

theorem widensInto_primitive (source : NumericType) (q : Primitive)
    : source.widensInto (.primitive q) = false := by
  cases source <;> rfl

theorem widensInto_of_reference {source target : NumericType} (h : source.isReference = true)
    : source.widensInto target = false := by
  cases source with
  | primitive p => contradiction
  | _ => rfl

theorem widensInto_of_primitive {target : NumericType} {p q : Primitive} (h : target.Holds q)
    (href : target.isReference = true) : (primitive p).widensInto target = q.wider p := by
  unfold widensInto
  rw [h.2, href]
  rfl

theorem wider_of_widensInto {source target : NumericType} {p q : Primitive}
    (hsource : source.Holds p) (htarget : target.Holds q) (h : source.widensInto target = true)
    : q.wider p = true := by
  cases source with
  | primitive =>
    cases hsource.2
    simp only [widensInto, htarget.2, Bool.and_eq_true] at h
    exact h.2
  | _ => contradiction

end NumericType

namespace CastPlan

theorem eval_narrowed (n : Number) (q : Primitive)
    : Chain.eval (narrowed n.width q) n = if q.wider n.width then n else n.read q := by
  unfold narrowed
  split
  . next h =>
    rw [Primitive.not_wider_of_wider h]
    rfl
  . next h =>
    split
    . rfl
    . next h' =>
      have : n.width = q := by
        apply Primitive.eq_of_not_wider
        . simpa using h
        . simpa using h'
      exact Number.eq_read_iff.mpr this

variable {n : Number} {source target : NumericType} {q : Primitive}

theorem eval_obsolete (type : TypeName) : Chain.eval (obsolete source type).chain n = n := rfl

-- Whatever the chain to a primitive is, it reads at no other width than the one it ends at.
theorem eval_toNumeric_primitive (n : Number) (source : NumericType) (q : Primitive)
    : (Chain.eval (toNumeric source (.primitive q)).chain n).read q = n.read q := by
  unfold toNumeric
  split
  . rw [eval_obsolete]
  . cases source with
    | primitive p =>
      dsimp only
      split
      . rw [eval_obsolete]
      . apply Number.read_read_self
    | _ =>
      dsimp only
      split <;> apply Number.read_read_self

theorem eval_toNumeric_of_ne (hsource : source.isReference = true) (hne : source ≠ target)
    (htarget : target.Holds q) (href : target.isReference = true)
    : Chain.eval (toNumeric source target).chain n = n.read q := by
  obtain ⟨hnumber, hq⟩ := htarget
  unfold toNumeric
  rw [if_neg hne]
  cases target with
  | boxed p =>
    cases hq
    cases source <;> first | contradiction | rfl
  | atomic a =>
    cases hq
    cases source <;> first | contradiction | rfl
  | _ => contradiction

theorem eval_toNumeric_of_reference (hsource : source.isReference = true)
    (hwidth : source.width? = some n.width) (htarget : target.Holds q)
    (href : target.isReference = true)
    : Chain.eval (toNumeric source target).chain n = n.read q := by
  by_cases heq : source = target
  . subst heq
    have hq := htarget.2
    rw [hwidth] at hq
    have hobsolete : toNumeric source source = obsolete source (.numeric source) := if_pos rfl
    rw [hobsolete, eval_obsolete]
    exact Number.eq_read_iff.mpr (Option.some.inj hq)
  . exact eval_toNumeric_of_ne hsource heq htarget href

theorem eval_toNumeric_of_primitive (htarget : target.Holds q) (href : target.isReference = true)
    : Chain.eval (toNumeric (.primitive n.width) target).chain n =
        if q.wider n.width then n else n.read q := by
  obtain ⟨hnumber, hq⟩ := htarget
  unfold toNumeric
  split
  . next heq =>
    subst heq
    contradiction
  . cases target with
    | boxed p =>
      cases hq
      dsimp only
      split
      . next heq =>
        cases heq
        rw [Number.read_width, ite_self]
        rfl
      . rw [← eval_narrowed]
        unfold conversion fromPrimitive
        dsimp only
        unfold Chain.eval
        rw [List.foldl_append]
        rfl
    | atomic a =>
      cases hq
      rw [← eval_narrowed]
      simp only [reduceCtorEq, if_false, conversion, fromPrimitive, Chain.eval, List.foldl_append]
      rfl
    | _ => contradiction

end CastPlan

namespace Lowering

variable {n : Number} {source target : NumericType} {q : Primitive}

theorem convert_primitive (n : Number) (source : NumericType) (q : Primitive)
    : convert (some n) source (.primitive q) = some (n.read q) := by
  apply congrArg some
  apply CastPlan.eval_toNumeric_primitive

theorem convert_reference (h : target.isReference = true)
    : convert (some n) source target =
        some (Chain.eval (CastPlan.toNumeric source target).chain n) := by
  cases target with
  | primitive p => contradiction
  | _ => rfl

theorem convert_eq (hsource : source.Holds n.width) (htarget : target.Holds q)
    : convert (some n) source target =
        some (if source.widensInto target then n else n.read q) := by
  cases href : target.isReference with
  | false =>
    cases target with
    | primitive p =>
      cases htarget.2
      rw [NumericType.widensInto_primitive, convert_primitive]
      rfl
    | _ => contradiction
  | true =>
    rw [convert_reference href]
    apply congrArg some
    cases hprimitive : source.isReference with
    | false =>
      cases source with
      | primitive p =>
        cases hsource.2
        rw [CastPlan.eval_toNumeric_of_primitive htarget href,
          NumericType.widensInto_of_primitive htarget href]
      | _ => contradiction
    | true =>
      rw [CastPlan.eval_toNumeric_of_reference hprimitive hsource.2 htarget href,
        NumericType.widensInto_of_reference hprimitive]
      rfl

theorem read_ne_of_widensInto (hsource : source.Holds n.width) (htarget : target.Holds q)
    (h : source.widensInto target = true) : n ≠ n.read q := by
  intro heq
  have hwider := NumericType.wider_of_widensInto hsource htarget h
  rw [Number.eq_read_iff.mp heq, Primitive.not_wider_self] at hwider
  contradiction

end Lowering

/--
A cast reads its operand at the width of the target unless it puts a primitive value into an object
of a wider type, which leaves the number as it is. So two operands that hold the same number in
different ways are converted alike unless one of them is widened so and the other is not.
-/
theorem cast_reads_at_target_width_iff (n : Number) (source target : NumericType) (q : Primitive)
    (hsource : source.Holds n.width) (htarget : target.Holds q)
    : (Lowering.convert (some n) source target = some (n.read q) ↔
          source.widensInto target = false) ∧
        (source.widensInto target = true → Lowering.convert (some n) source target = some n) ∧
        ∀ other : NumericType, other.Holds n.width →
          (Lowering.convert (some n) source target = Lowering.convert (some n) other target ↔
            source.widensInto target = other.widensInto target) := by
  have hother (other : NumericType) (h : other.Holds n.width) := Lowering.convert_eq h htarget
  have hne (other : NumericType) (h : other.Holds n.width) :=
    Lowering.read_ne_of_widensInto h htarget
  rw [hother source hsource]
  refine ⟨?_, ?_, ?_⟩
  . cases hwidens : source.widensInto target with
    | false => simp
    | true => simpa using hne source hsource hwidens
  . intro hwidens
    rw [hwidens]
    rfl
  . intro other h
    rw [hother other h]
    cases hwidens : source.widensInto target with
    | false =>
      cases hwidens' : other.widensInto target with
      | false => simp
      | true => simpa using (hne other h hwidens').symm
    | true =>
      cases hwidens' : other.widensInto target with
      | false => simpa using hne source hsource hwidens
      | true => simp

/-- The least positive integer that single precision rounds is rounded out of an atomic cell. -/
theorem atomic_integer_is_read_as_float
    : let n : Number := .int 16777217
      (NumericType.atomic .integer).Holds n.width ∧ (NumericType.boxed .float).Holds .float ∧
        n.read .float = .float ⟨0x4b800000⟩ ∧
        Lowering.convert (some n) (.atomic .integer) (.boxed .float) = some (n.read .float) := by
  intro n
  have hsource : (NumericType.atomic .integer).Holds n.width := ⟨nofun, rfl⟩
  have htarget : (NumericType.boxed .float).Holds .float := ⟨nofun, rfl⟩
  refine ⟨hsource, htarget, by decide +kernel, ?_⟩
  exact (cast_reads_at_target_width_iff n _ _ _ hsource htarget).1.mpr rfl

-- A `Float` that is no single-precision number; the boxed operand is rounded.
theorem primitive_int_is_kept_in_float
    : let n : Number := .int 16777217
      Lowering.convert (some n) (.primitive .int) (.boxed .float) = some n ∧
        Lowering.convert (some n) (.primitive .int) (.boxed .float) ≠ some (n.read .float) ∧
        Lowering.convert (some n) (.boxed .int) (.boxed .float) = some (n.read .float) := by
  decide +kernel

end OperatorLowering

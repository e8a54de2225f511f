import OperatorLowering.Proofs.IntegralCasts

/-!
Big integers and big decimals keep the integers that are converted to them. Every step of such a
conversion leaves the value of an integer as it is, though it may change the width that carries it,
so the integer is found again at the end of any sequence of conversions.
-/

namespace OperatorLowering

theorem NumericType.holds_of_integer? {t : NumericType} {n : Number} {i : Int}
    (hn : n.integer? = some i) (ht : t.width? = some n.width)
    : t.Holds n.width ∧ t.isFloating = false := by
  have hfloating : n.width.isFloating = false := by
    cases n <;> first | rfl | contradiction
  cases t with
  | primitive p | boxed p | atomic a =>
    refine ⟨⟨nofun, ht⟩, ?_⟩
    rw [← Option.some.inj ht] at hfloating
    exact hfloating
  | number =>
    rw [← Option.some.inj ht] at hfloating
    contradiction
  | _ => contradiction

theorem Number.read_eq_of_integer? {n m : Number} {i : Int} (hn : n.integer? = some i)
    (hm : m.integer? = some i) : m.read n.width = n := by
  obtain ⟨w, hw⟩ := exists_bits?_of_integer? hn
  rw [read_eq_of_modEq hn hm (Int.ModEq.refl i) hw, read_width]

namespace Step

/-- Does the step leave the value of every integer as it is? -/
def keepsIntegers : Step → Bool
  | value p | narrow p => p == .long
  | _ => true

theorem integer?_eval {step : Step} {n : Number} {i : Int} (h : step.keepsIntegers = true)
    (hn : n.integer? = some i) : (step.eval n).integer? = some i := by
  cases step with
  | value p | narrow p =>
    obtain rfl : p = .long := by simpa [keepsIntegers] using h
    exact congrArg some (Number.toInt_longValue hn)
  | toBigInteger =>
    cases n with
    | float | double => contradiction
    | _ => exact hn
  | _ => exact hn

end Step

namespace Chain

theorem integer?_eval {chain : Chain} {n : Number} {i : Int}
    (h : chain.all Step.keepsIntegers = true) (hn : n.integer? = some i)
    : (Chain.eval chain n).integer? = some i := by
  induction chain generalizing n with
  | nil => exact hn
  | cons step chain ih =>
    rw [List.all_cons, Bool.and_eq_true] at h
    exact ih h.2 (Step.integer?_eval h.1 hn)

theorem keepsIntegers_toBigInteger (source : NumericType)
    : (toBigInteger source).all Step.keepsIntegers = true := by
  cases source with
  | primitive p =>
    simp only [toBigInteger]
    split <;> rfl
  | _ => rfl

-- Numbers that may have a fraction are read as doubles, which round long integers.
theorem keepsIntegers_toBigDecimal {source : NumericType}
    (h : source.isBig = true ∨ source.isFloating = false)
    : (toBigDecimal source).all Step.keepsIntegers = true := by
  cases source with
  | boxed p | atomic a =>
    have hfloating := h.resolve_left nofun
    simp [toBigDecimal, hfloating, Step.keepsIntegers]
  | number => rcases h with h | h <;> contradiction
  | _ => rfl

end Chain

namespace CastPlan

theorem chain_toNumeric_bigInteger (source : NumericType)
    : (toNumeric source .bigInteger).chain = Chain.toBigInteger source := by
  cases source <;> rfl

theorem chain_toNumeric_bigDecimal (source : NumericType)
    : (toNumeric source .bigDecimal).chain = Chain.toBigDecimal source := by
  cases source <;> rfl

theorem keepsIntegers_toNumeric {source target : NumericType}
    (hsource : source.isBig = true ∨ source.isFloating = false) (htarget : target.isBig = true)
    : (toNumeric source target).chain.all Step.keepsIntegers = true := by
  cases target with
  | bigInteger =>
    rw [chain_toNumeric_bigInteger]
    apply Chain.keepsIntegers_toBigInteger
  | bigDecimal =>
    rw [chain_toNumeric_bigDecimal]
    exact Chain.keepsIntegers_toBigDecimal hsource
  | _ => contradiction

end CastPlan

namespace Lowering

variable {n : Number} {i : Int} {source target : NumericType} {targets : List NumericType}

/-- The casts from a type through others, each from where the one before went. -/
def path (source : NumericType) : List NumericType → List (NumericType × NumericType)
  | [] => []
  | target :: targets => (source, target) :: path target targets

theorem path_concat (source target : NumericType) (h : targets ≠ [])
    : path source (targets ++ [target]) =
        path source targets ++ [(targets.getLast h, target)] := by
  induction targets generalizing source with
  | nil => contradiction
  | cons t targets ih =>
    cases targets with
    | nil => rfl
    | cons u targets => exact congrArg ((source, t) :: ·) (ih t nofun)

theorem convert_of_big {q : Primitive} (hsource : source.isBig = true) (htarget : target.Holds q)
    : convert (some n) source target = some (n.read q) := by
  cases href : target.isReference with
  | false =>
    cases target with
    | primitive p =>
      cases htarget.2
      apply convert_primitive
    | _ => contradiction
  | true =>
    rw [convert_reference href]
    apply congrArg some
    apply CastPlan.eval_toNumeric_of_ne _ _ htarget href
    . cases source <;> first | rfl | contradiction
    . rintro rfl
      cases source <;> cases htarget.2 <;> contradiction

theorem exists_convert_big (hsource : source.isBig = true ∨ source.isFloating = false)
    (htarget : target.isBig = true) (hn : n.integer? = some i)
    : ∃ m, convert (some n) source target = some m ∧ m.integer? = some i := by
  have href : target.isReference = true := by
    cases target <;> first | rfl | contradiction
  refine ⟨_, convert_reference href, ?_⟩
  apply Chain.integer?_eval _ hn
  exact CastPlan.keepsIntegers_toNumeric hsource htarget

theorem exists_convertAll_path (hsource : source.isBig = true ∨ source.isFloating = false)
    (hbig : ∀ t ∈ targets, t.isBig = true) (hn : n.integer? = some i)
    : ∃ m, convertAll (some n) (path source targets) = some m ∧ m.integer? = some i := by
  induction targets generalizing source n with
  | nil => exact ⟨n, rfl, hn⟩
  | cons t targets ih =>
    have ht := hbig t List.mem_cons_self
    obtain ⟨m, hm, hi⟩ := exists_convert_big hsource ht hn
    obtain ⟨last, hlast, hi⟩ := ih (.inl ht) (fun u hu => hbig u (List.mem_cons_of_mem t hu)) hi
    refine ⟨last, ?_, hi⟩
    rw [path, convertAll_cons, hm]
    exact hlast

end Lowering

open Lowering

/--
An integer that is converted to big integers and big decimals, in any order and any number of times,
comes back to the type it was taken from unchanged.
-/
theorem big_types_keep_integers (n : Number) (i : Int) (source : NumericType)
    (targets : List NumericType) (hn : n.integer? = some i) (hsource : source.width? = some n.width)
    (hne : targets ≠ []) (hbig : ∀ t ∈ targets, t.isBig = true)
    : convertAll (some n) (path source (targets ++ [source])) = some n := by
  obtain ⟨hholds, hintegral⟩ := NumericType.holds_of_integer? hn hsource
  obtain ⟨m, hm, hi⟩ := exists_convertAll_path (.inr hintegral) hbig hn
  rw [path_concat source source hne, convertAll_append, hm, convertAll_cons,
    convert_of_big (hbig _ (List.getLast_mem hne)) hholds]
  exact congrArg some (Number.read_eq_of_integer? hn hi)

-- An odd number above the integers that doubles hold exactly.
theorem odd_atomic_long_survives_big_types
    : let n : Number := .long 9007199254740993
      n.integer? = some 9007199254740993 ∧
        (NumericType.atomic .long).width? = some n.width ∧
        convertAll (some n)
            (path (.atomic .long) ([.bigDecimal, .bigInteger, .bigDecimal] ++ [.atomic .long])) =
          some n := by
  intro n
  refine ⟨by decide, rfl, ?_⟩
  apply big_types_keep_integers n 9007199254740993
  . decide
  . rfl
  . exact List.cons_ne_nil _ _
  . decide

end OperatorLowering

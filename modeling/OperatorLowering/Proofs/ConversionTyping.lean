import OperatorLowering.Proofs.Evaluation

/-!
Types of conversion chains. Every step takes values of one type and gives values of another, unless
it is applied to null; the chains that lowerings use lead from the type of the operand to the type
that the operation needs.
-/

namespace OperatorLowering

variable {α : Type} {m : Machine α} {P Q : Value α → Prop}

/-- The result has the property, unless the number libraries raise an exception. -/
def Safely (P : Value α → Prop) : Except Fault (Value α) → Prop
  | .ok value => P value
  | .error fault => fault = .exception

theorem Safely.bind {x : Except Fault (Value α)} {f : Value α → Except Fault (Value α)}
    (hx : Safely P x) (hf : ∀ v, P v → Safely Q (f v)) : Safely Q (x >>= f) := by
  cases x with
  | ok v => exact hf v hx
  | error fault => exact hx

theorem Safely.mono {x : Except Fault (Value α)} (hx : Safely P x) (h : ∀ v, P v → Q v)
    : Safely Q x := by
  cases x with
  | ok v => exact h v hx
  | error fault => exact hx

theorem safely_ofResult {result : Option α} {value : α → Value α} (h : ∀ a, P (value a))
    : Safely P (Value.ofResult result value) := by
  cases result with
  | none => rfl
  | some a => exact h a

namespace Value

def FitsNonNull (v : Value α) (type : TypeName) : Prop := v ≠ .null ∧ v.Fits type

variable {v : Value α}

theorem FitsNonNull.exists_primitive {p : Primitive} (h : v.FitsNonNull (.numeric (.primitive p)))
    : ∃ width a, v = .primitive width a ∧ width.wider p = false := by
  obtain ⟨hnull, hfits⟩ := h
  cases v with
  | null => contradiction
  | primitive width a => exact ⟨width, a, rfl, hfits⟩
  | object t a =>
    obtain ⟨href, rfl | hnumber⟩ := hfits
    . contradiction
    . contradiction
  | _ => simp [Fits] at hfits

theorem FitsNonNull.exists_object {t : NumericType} (h : v.FitsNonNull (.numeric t))
    (ht : t.isReference = true)
    : ∃ u a, v = .object u a ∧ u.isReference = true ∧ (u = t ∨ t = .number) := by
  obtain ⟨hnull, hfits⟩ := h
  cases v with
  | null => contradiction
  | object u a => exact ⟨u, a, rfl, hfits⟩
  | primitive width a =>
    cases t <;> simp_all [Fits, NumericType.isReference, NumericType.isPrimitive]
  | _ => simp [Fits] at hfits

theorem fitsNonNull_primitive {width p : Primitive} {a : α} (h : width.wider p = false)
    : (primitive width a).FitsNonNull (.numeric (.primitive p)) := ⟨by simp, h⟩

theorem fitsNonNull_object {t : NumericType} {a : α} (h : t.isReference = true)
    : (object t a).FitsNonNull (.numeric t) := ⟨by simp, h, .inl rfl⟩

theorem fitsNonNull_text {s : String} : (text s : Value α).FitsNonNull .string :=
  ⟨by simp, trivial⟩

end Value

namespace Primitive

theorem not_wider_iff {p q : Primitive} : p.wider q = false ↔ p.rank.order ≤ q.rank.order := by
  simp [wider]

@[simp]
theorem not_wider_self (p : Primitive) : p.wider p = false := by
  simp [not_wider_iff]

theorem not_wider_trans {p q r : Primitive} (hpq : p.wider q = false) (hqr : q.wider r = false)
    : p.wider r = false := by
  rw [not_wider_iff] at *
  omega

theorem not_wider_of_wider {p q : Primitive} (h : q.wider p = true) : p.wider q = false := by
  rw [not_wider_iff]
  simp only [wider, decide_eq_true_eq] at h
  omega

theorem widest_order (p q : Primitive)
    : (p.widest q).rank.order = max p.rank.order q.rank.order := by
  cases p <;> cases q <;> rfl

end Primitive

theorem NumericType.isReference_of_ne_primitive {t : NumericType} (h : ∀ p, t ≠ .primitive p)
    : t.isReference = true := by
  cases t with
  | primitive p => exact absurd rfl (h p)
  | _ => rfl

theorem NumericType.factoryTakes_of_not_wider {t : NumericType} {width p : Primitive}
    (h : width.wider p = false) (ht : t.factoryTakes p = true) : t.factoryTakes width = true := by
  cases t with
  | boxed q =>
    simp only [factoryTakes, Bool.not_eq_true'] at *
    exact Primitive.not_wider_trans h ht
  | bigInteger =>
    simp only [factoryTakes, Bool.not_eq_true'] at *
    exact Primitive.not_wider_trans h ht
  | bigDecimal => rfl
  | _ => simp [factoryTakes] at ht

/-- A step that takes values of one type, if they are not null, and gives values of another. -/
inductive Step.Gives : Step → TypeName → TypeName → Prop where
  | value {t : NumericType} {p : Primitive} : t.isReference = true →
      Gives (.value p) (.numeric t) (.numeric (.primitive p))
  | narrow {p q : Primitive}
      : Gives (.narrow q) (.numeric (.primitive p)) (.numeric (.primitive q))
  | valueOf {t : NumericType} {p : Primitive} : t.factoryTakes p = true →
      Gives (.valueOf t) (.numeric (.primitive p)) (.numeric t)
  | newAtomic {c : Atomic} {p : Primitive} : p.wider c.width = false →
      Gives (.newInstance (.atomic c)) (.numeric (.primitive p)) (.numeric (.atomic c))
  | newBigDecimal
      : Gives (.newInstance .bigDecimal) (.numeric .bigInteger) (.numeric .bigDecimal)
  | toBigInteger : Gives .toBigInteger (.numeric .bigDecimal) (.numeric .bigInteger)
  | objectToString {t : NumericType} : t.isReference = true →
      Gives .objectToString (.numeric t) .string
  | staticToString {p : Primitive} : Gives (.staticToString p) (.numeric (.primitive p)) .string

/-- A chain that leads from one type to another; the empty one leads to any wider type. -/
inductive Chain.Gives : Chain → TypeName → TypeName → Prop where
  | same {type : TypeName} : Gives [] type type
  | widen {p q : Primitive} : p.wider q = false →
      Gives [] (.numeric (.primitive p)) (.numeric (.primitive q))
  | toNumber {t : NumericType} : t.isReference = true → Gives [] (.numeric t) (.numeric .number)
  | toObject {t : NumericType} : t.isReference = true → Gives [] (.numeric t) .object
  | step {step : Step} {chain : Chain} {source middle target : TypeName}
      : step.Gives source middle → Gives chain middle target → Gives (step :: chain) source target

open Value

theorem Step.Gives.safely_run {step : Step} {source target : TypeName} {v : Value α}
    (h : step.Gives source target) (hv : v.FitsNonNull source)
    : Safely (FitsNonNull · target) (step.run m v) := by
  cases h with
  | value href =>
    obtain ⟨u, a, rfl, -⟩ := hv.exists_object href
    apply safely_ofResult
    intro b
    apply fitsNonNull_primitive
    simp
  | narrow =>
    obtain ⟨width, a, rfl, -⟩ := hv.exists_primitive
    apply safely_ofResult
    intro b
    apply fitsNonNull_primitive
    simp
  | @valueOf t p htakes =>
    obtain ⟨width, a, rfl, hwidth⟩ := hv.exists_primitive
    simp only [run, NumericType.factoryTakes_of_not_wider hwidth htakes, if_true]
    apply safely_ofResult
    intro b
    apply fitsNonNull_object
    cases t with
    | primitive => contradiction
    | _ => rfl
  | newAtomic hwider =>
    obtain ⟨width, a, rfl, hwidth⟩ := hv.exists_primitive
    simp only [run, Primitive.not_wider_trans hwidth hwider, Bool.false_eq_true, if_false]
    apply safely_ofResult
    intro b
    apply fitsNonNull_object
    rfl
  | newBigDecimal =>
    obtain ⟨u, a, rfl, -, rfl | h⟩ := hv.exists_object rfl
    . apply safely_ofResult
      intro b
      apply fitsNonNull_object
      rfl
    . contradiction
  | toBigInteger =>
    obtain ⟨u, a, rfl, -, rfl | h⟩ := hv.exists_object rfl
    . apply safely_ofResult
      intro b
      apply fitsNonNull_object
      rfl
    . contradiction
  | objectToString href =>
    obtain ⟨u, a, rfl, -⟩ := hv.exists_object href
    exact fitsNonNull_text
  | staticToString =>
    obtain ⟨width, a, rfl, hwidth⟩ := hv.exists_primitive
    simp only [run, hwidth, Bool.false_eq_true, if_false]
    exact fitsNonNull_text

theorem Chain.Gives.safely_run {chain : Chain} {source target : TypeName} {v : Value α}
    (h : chain.Gives source target) (hv : v.FitsNonNull source)
    : Safely (FitsNonNull · target) (Chain.run m chain v) := by
  induction h generalizing v with
  | same => exact hv
  | widen hwider =>
    obtain ⟨width, a, rfl, hwidth⟩ := hv.exists_primitive
    exact fitsNonNull_primitive (Primitive.not_wider_trans hwidth hwider)
  | toNumber href =>
    obtain ⟨u, a, rfl, hu, -⟩ := hv.exists_object href
    exact ⟨by simp, hu, .inr rfl⟩
  | toObject href =>
    obtain ⟨u, a, rfl, -⟩ := hv.exists_object href
    exact ⟨by simp, trivial⟩
  | step hstep hchain ih =>
    apply Safely.bind (hstep.safely_run hv)
    intro w hw
    exact ih hw

namespace Chain

theorem unbox_gives {t : NumericType} {p : Primitive} (h : t.width? = some p)
    : (unbox t).Gives (.numeric t) (.numeric (.primitive p)) := by
  cases t with
  | primitive q =>
    cases h
    exact .same
  | boxed | atomic | number =>
    cases h
    exact .step (.value rfl) .same
  | bigInteger | bigDecimal => contradiction

theorem toBigInteger_gives (t : NumericType)
    : (toBigInteger t).Gives (.numeric t) (.numeric .bigInteger) := by
  cases t with
  | primitive p =>
    simp only [toBigInteger]
    split
    . exact .step .narrow (.step (.valueOf rfl) .same)
    . next hfloating =>
      refine .step (.valueOf ?_) .same
      revert hfloating
      cases p <;> decide
  | boxed | atomic | number => exact .step (.value rfl) (.step (.valueOf rfl) .same)
  | bigInteger => exact .same
  | bigDecimal => exact .step .toBigInteger .same

theorem toBigDecimal_gives (t : NumericType)
    : (toBigDecimal t).Gives (.numeric t) (.numeric .bigDecimal) := by
  cases t with
  | primitive => exact .step (.valueOf rfl) .same
  | boxed | atomic | number => exact .step (.value rfl) (.step (.valueOf rfl) .same)
  | bigInteger => exact .step .newBigDecimal .same
  | bigDecimal => exact .same

end Chain

namespace CastPlan

theorem fromPrimitive_gives {p : Primitive} {target : NumericType}
    (href : target.isReference = true)
    (hnumber : target ≠ .number)
    : (fromPrimitive p target).Gives (.numeric (.primitive p)) (.numeric target) := by
  -- A value that is not narrowed is narrow enough already.
  cases target with
  | boxed q =>
    simp only [fromPrimitive, narrowed]
    split
    . exact .step .narrow (.step (.valueOf (by simp [NumericType.factoryTakes])) .same)
    . next h => exact .step (.valueOf (by simpa [NumericType.factoryTakes] using h)) .same
  | atomic c =>
    simp only [fromPrimitive, narrowed]
    split
    . exact .step .narrow (.step (.newAtomic (by simp)) .same)
    . next h => exact .step (.newAtomic (by simpa using h)) .same
  | bigInteger => exact Chain.toBigInteger_gives (.primitive p)
  | bigDecimal => exact Chain.toBigDecimal_gives (.primitive p)
  | primitive | number => contradiction

theorem fromReference_gives {source target : NumericType} (hsource : source.isReference = true)
    (htarget : target.isReference = true) (hnumber : target ≠ .number)
    : (fromReference source target).Gives (.numeric source) (.numeric target) := by
  cases target with
  | boxed q =>
    exact .step (.value hsource) (.step (.valueOf (by simp [NumericType.factoryTakes])) .same)
  | atomic c => exact .step (.value hsource) (.step (.newAtomic (by simp)) .same)
  | bigInteger => exact Chain.toBigInteger_gives source
  | bigDecimal => exact Chain.toBigDecimal_gives source
  | primitive | number => contradiction

/-- A plan that can be carried out; what it does not guard it hands on unchanged. -/
structure Fits (plan : CastPlan) (source : NumericType) (target : TypeName) : Prop where
  shape : plan.shape = .conversion
  gives : plan.chain.Gives (.numeric source) target
  unguarded : plan.guarded = false → source.isReference = true →
    plan.chain = [] ∧ target.isReference = true

theorem fits_conversion {chain : Chain} {source : NumericType} {target : TypeName}
    {accessor : String} (h : chain.Gives (.numeric source) target)
    : (conversion chain source target accessor).Fits source target :=
  ⟨rfl, h, by simp [conversion]⟩

theorem fits_obsolete {source : NumericType} {target : TypeName}
    (h : Chain.Gives [] (.numeric source) target)
    (href : source.isReference = true → target.isReference = true)
    : (obsolete source target).Fits source target :=
  ⟨rfl, h, fun _ hsource => ⟨rfl, href hsource⟩⟩

theorem fits_toObject {source : NumericType} {target : TypeName}
    (htarget : target = .object ∨ target = .numeric .number)
    : (toObject source target).Fits source target := by
  have hempty {t : NumericType} (ht : t.isReference = true)
      : Chain.Gives [] (.numeric t) target := by
    rcases htarget with rfl | rfl
    . exact .toObject ht
    . exact .toNumber ht
  have hreference : target.isReference = true := by
    rcases htarget with rfl | rfl <;> rfl
  cases source with
  | primitive p =>
    refine ⟨rfl, .step (.valueOf ?_) (hempty (t := .boxed p) rfl), ?_⟩
    . simp [NumericType.factoryTakes]
    . intro _ h
      contradiction
  | _ => exact fits_obsolete (hempty rfl) fun _ => hreference

theorem fits_toNumeric (source target : NumericType)
    : (toNumeric source target).Fits source (.numeric target) := by
  unfold toNumeric
  split
  . next heq =>
    subst heq
    exact fits_obsolete .same id
  . next hne =>
    split
    . exact fits_toObject (.inr rfl)
    . next p q _ =>
      split
      . next hwider =>
        apply fits_obsolete
        . exact .widen (Primitive.not_wider_of_wider hwider)
        . intro h
          contradiction
      . refine ⟨rfl, .step .narrow .same, ?_⟩
        intro _ h
        contradiction
    . next p hnumber hprimitive =>
      split
      . next heq =>
        subst heq
        refine ⟨rfl, .step (.valueOf ?_) .same, ?_⟩
        . simp [NumericType.factoryTakes]
        . intro _ h
          contradiction
      . apply fits_conversion
        exact fromPrimitive_gives (NumericType.isReference_of_ne_primitive hprimitive) hnumber
    . next hprimitive =>
      split
      . next heq =>
        subst heq
        exact ⟨rfl, .step (.value rfl) .same, by simp [silent]⟩
      . apply fits_conversion
        exact .step (.value (NumericType.isReference_of_ne_primitive hprimitive)) .same
    . next hsource hnumber htarget _ =>
      apply fits_conversion
      apply fromReference_gives
      . exact NumericType.isReference_of_ne_primitive hsource
      . exact NumericType.isReference_of_ne_primitive htarget
      . exact hnumber

theorem fits_plan {source : NumericType} {target : TypeName}
    (h : (plan source target).shape ≠ .nothing) : (plan source target).Fits source target := by
  cases target with
  | numeric t => exact fits_toNumeric source t
  | object => exact fits_toObject (.inl rfl)
  | string =>
    apply fits_conversion
    cases source with
    | primitive p => exact .step .staticToString .same
    | _ => exact .step (.objectToString rfl) .same
  | boolean | void | named => exact absurd rfl h

end CastPlan

end OperatorLowering

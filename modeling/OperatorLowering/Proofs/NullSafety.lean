import OperatorLowering.Proofs.ConversionTyping
import OperatorLowering.Proofs.Promotion
import OperatorLowering.Proofs.StaticType
import OperatorLowering.Proofs.Tree

/-!
Lowered expressions never dereference null. Conversion chains meet values that are not null only,
because of the guards or because the operand is known not to be null, and their types say that all
other operations can be carried out.
-/

namespace OperatorLowering

open Value

variable {α : Type} {m : Machine α} {v w : Value α} {left right operand : OperandType}

/-- A value that an operand may have: null has to be expected of it. -/
structure Value.FitsOperand (v : Value α) (o : OperandType) : Prop where
  fits : v.Fits (.numeric o.type)
  guarded : v = .null → o.isGuarded = true

/-- A value that a lowering may give. -/
structure Value.FitsResult (v : Value α) (l : Lowering) : Prop where
  fits : v.Fits l.result
  nullable : v = .null → l.resultNullable = true

theorem Value.isNull_iff : v.isNull = true ↔ v = .null := by
  cases v <;> simp [isNull]

theorem Value.FitsOperand.fitsNonNull (h : v.FitsOperand operand) (hnull : v.isNull = false)
    : v.FitsNonNull (.numeric operand.type) := by
  refine ⟨?_, h.fits⟩
  rintro rfl
  contradiction

theorem Value.FitsNonNull.fitsResult {l : Lowering} (h : v.FitsNonNull l.result)
    : v.FitsResult l :=
  ⟨h.2, fun hnull => absurd hnull h.1⟩

namespace Shape

theorem safely_negate {p q : Primitive} (hv : v.FitsNonNull (.numeric (.primitive p)))
    (hq : q.rank = p.rank.max .int)
    : Safely (FitsNonNull · (.numeric (.primitive q))) (negate.run m v none) := by
  obtain ⟨width, a, rfl, hwidth⟩ := hv.exists_primitive
  apply fitsNonNull_primitive
  have hint : Primitive.int.rank = .int := rfl
  rw [Primitive.not_wider_iff] at *
  rw [Primitive.widest_order, hq, Rank.order_max, hint]
  omega

theorem safely_arithmetic {op : BinaryOp} {p q r : Primitive}
    (hv : v.FitsNonNull (.numeric (.primitive p))) (hw : w.FitsNonNull (.numeric (.primitive q)))
    (hr : r.rank = (p.rank.max q.rank).max .int)
    : Safely (FitsNonNull · (.numeric (.primitive r))) ((arithmetic op).run m v (some w)) := by
  obtain ⟨width, a, rfl, hwidth⟩ := hv.exists_primitive
  obtain ⟨width', b, rfl, hwidth'⟩ := hw.exists_primitive
  apply safely_ofResult
  intro c
  apply fitsNonNull_primitive
  have hint : Primitive.int.rank = .int := rfl
  rw [Primitive.not_wider_iff] at *
  rw [Primitive.widest_order, Primitive.widest_order, hr, Rank.order_max, Rank.order_max, hint]
  omega

theorem safely_power {p q : Primitive} (hv : v.FitsNonNull (.numeric (.primitive p)))
    (hw : w.FitsNonNull (.numeric (.primitive q)))
    : Safely (FitsNonNull · (.numeric (.primitive .double))) (power.run m v (some w)) := by
  obtain ⟨width, a, rfl, -⟩ := hv.exists_primitive
  obtain ⟨width', b, rfl, -⟩ := hw.exists_primitive
  apply safely_ofResult
  intro c
  apply fitsNonNull_primitive
  rfl

theorem safely_bigMethod {op : BinaryOp} {t : NumericType} (hop : op ≠ .pow) (ht : t.isBig = true)
    (hv : v.FitsNonNull (.numeric t)) (hw : w.FitsNonNull (.numeric t))
    : Safely (FitsNonNull · (.numeric t)) ((bigMethod op t).run m v (some w)) := by
  have href : t.isReference = true := by
    apply NumericType.isReference_of_ne_primitive
    rintro p rfl
    contradiction
  have hnumber : t ≠ .number := by
    rintro rfl
    contradiction
  have hmethod : (op.bigMethod? t).isSome = true := by
    cases op with
    | pow => contradiction
    | _ => rfl
  obtain ⟨u, a, rfl, -, hu⟩ := hv.exists_object href
  obtain ⟨u', b, rfl, -, hu'⟩ := hw.exists_object href
  have hu : u = t := by simpa [hnumber] using hu
  have hu' : u' = t := by simpa [hnumber] using hu'
  simp only [run, hu, hu', hmethod, and_self, if_true]
  apply safely_ofResult
  intro c
  exact fitsNonNull_object href

end Shape

namespace Lowering

variable {l : Lowering}

theorem defaultResult_of_primitive {p : Primitive} (h : l.result = .numeric (.primitive p))
    : (l.defaultResult m).FitsNonNull l.result := by
  have hzero : p.zeroLiteral ≠ "null" := by
    cases p <;> decide
  simp only [defaultResult, defaultValue, h, hzero, if_false]
  exact fitsNonNull_primitive (by simp)

theorem defaultResult_of_reference (h : ∀ p, l.result ≠ .numeric (.primitive p))
    : l.defaultResult m = .null := by
  have hdefault : l.defaultValue = "null" := by
    unfold defaultValue
    split
    . next p hp => exact absurd hp (h p)
    . rfl
  simp [defaultResult, hdefault]

theorem defaultResult_fitsResult (h : (∃ p, l.result = .numeric (.primitive p)) ∨
      (l.result.isReference = true ∧ l.resultNullable = true))
    : (l.defaultResult m).FitsResult l := by
  by_cases hprimitive : ∃ p, l.result = .numeric (.primitive p)
  . obtain ⟨p, hp⟩ := hprimitive
    exact (defaultResult_of_primitive hp).fitsResult
  . have hnull : l.defaultResult m = .null := by
      apply defaultResult_of_reference
      intro p hp
      exact hprimitive ⟨p, hp⟩
    rw [hnull]
    rcases h with h | ⟨href, hnullable⟩
    . contradiction
    . exact ⟨href, fun _ => hnullable⟩

theorem not_guardHolds {r : Option (Value α)} (hv : v.isNull = false)
    (hr : r.any Value.isNull = false) (guards : List Side)
    : guards.any (guardHolds v r) = false := by
  rw [List.any_eq_false]
  intro side _
  cases side <;> simp [guardHolds, hv, hr]

theorem run_of_guardHolds {r : Option (Value α)} (h : l.guards.any (guardHolds v r) = true)
    : l.run m v r = .ok (l.defaultResult m) := by
  simp [run, h]

theorem run_unary (h : l.guards.any (guardHolds v none) = false) (hright : l.right = none)
    : l.run m v none = Chain.run m l.left v >>= fun a => l.shape.run m a none := by
  simp [run, h, hright]

theorem run_binary {chain : Chain} (h : l.guards.any (guardHolds v (some w)) = false)
    (hright : l.right = some chain)
    : l.run m v (some w) = Chain.run m l.left v >>= fun a =>
        Chain.run m chain w >>= fun b => l.shape.run m a (some b) := by
  simp [run, h, hright]

theorem safely_run_negate (hl : negate operand = .ok l) (hv : v.FitsOperand operand)
    : Safely (FitsResult · l) (l.run m v none) := by
  unfold negate at hl
  split at hl
  . next promotion hpromotion =>
    obtain ⟨hbig, p, rfl, hrank⟩ := Promotion.negation?_cases hpromotion
    cases hl
    cases hnull : v.isNull with
    | true =>
      have hguarded := hv.guarded (isNull_iff.mp hnull)
      rw [run_of_guardHolds (by simp [hguarded, guardHolds, hnull])]
      exact (defaultResult_of_primitive rfl).fitsResult
    | false =>
      rw [run_unary (not_guardHolds hnull rfl _) rfl]
      obtain ⟨q, hq, hqrank⟩ := NumericType.exists_width_of_not_big hbig
      apply Safely.bind ((Chain.unbox_gives hq).safely_run (hv.fitsNonNull hnull))
      intro a ha
      apply (Shape.safely_negate ha (by rw [hrank, hqrank])).mono
      intro b hb
      exact hb.fitsResult
  . contradiction

theorem cast_primitive_or_reference {target : TypeName}
    (hshape : (cast operand target).shape ≠ .nothing)
    : (∃ p, target = .numeric (.primitive p)) ∨ target.isReference = true := by
  cases target with
  | numeric t =>
    cases t with
    | primitive p => exact .inl ⟨p, rfl⟩
    | _ => exact .inr rfl
  | string | object => exact .inr rfl
  | boolean | void | named => exact absurd rfl hshape

theorem cast_resultNullable {target : TypeName} (hshape : (cast operand target).shape ≠ .nothing)
    (htarget : target.isReference = true) (hnullable : operand.nullable = true)
    : (cast operand target).resultNullable = true := by
  have : (CastPlan.plan operand.type target).shape ≠ .nothing := hshape
  simp [cast, this, htarget, hnullable]

theorem safely_run_cast {target : TypeName} (hv : v.FitsOperand operand)
    (hshape : (cast operand target).shape ≠ .nothing)
    : Safely (FitsResult · (cast operand target)) ((cast operand target).run m v none) := by
  obtain ⟨hconversion, hgives, hunguarded⟩ := CastPlan.fits_plan hshape
  replace hconversion : (cast operand target).shape = .conversion := hconversion
  cases hnull : v.isNull with
  | true =>
    cases isNull_iff.mp hnull
    have hguarded := hv.guarded rfl
    have ⟨hnullable, href⟩ : operand.nullable = true ∧ operand.type.isReference = true := by
      simpa [OperandType.isGuarded] using hguarded
    -- Either the guard of the plan catches null or the plan hands it on as it is.
    cases hplan : (CastPlan.plan operand.type target).guarded with
    | true =>
      rw [run_of_guardHolds (by simp [cast, hplan, hguarded, guardHolds, hnull])]
      apply defaultResult_fitsResult
      rcases cast_primitive_or_reference hshape with h | h
      . exact .inl h
      . exact .inr ⟨h, cast_resultNullable hshape h hnullable⟩
    | false =>
      obtain ⟨hchain, htarget⟩ := hunguarded hplan href
      replace hchain : (cast operand target).left = [] := hchain
      rw [run_unary (by simp [cast, hplan]) rfl, hchain, hconversion]
      exact ⟨htarget, fun _ => cast_resultNullable hshape htarget hnullable⟩
  | false =>
    rw [run_unary (not_guardHolds hnull rfl _) rfl]
    apply Safely.bind (hgives.safely_run (hv.fitsNonNull hnull))
    intro a ha
    rw [hconversion]
    exact ha.fitsResult

theorem safely_run_ofPromotion_of_null {op : BinaryOp} {promotion : Promotion}
    (hv : v.FitsOperand left) (hw : w.FitsOperand right)
    (hnull : v.isNull = true ∨ w.isNull = true)
    : Safely (FitsResult · (ofPromotion op left right promotion))
        ((ofPromotion op left right promotion).run m v (some w)) := by
  have hguard : (ofPromotion op left right promotion).guards.any (guardHolds v (some w)) =
      true := by
    rw [ofPromotion_guards, List.any_append, Bool.or_eq_true]
    rcases hnull with hnull | hnull
    . left
      simp [hv.guarded (isNull_iff.mp hnull), guardHolds, hnull]
    . right
      simp [hw.guarded (isNull_iff.mp hnull), guardHolds, hnull]
  have hguards : (ofPromotion op left right promotion).guards.isEmpty = false := by
    rw [List.any_eq_true] at hguard
    obtain ⟨side, hside, -⟩ := hguard
    exact List.isEmpty_eq_false_iff_exists_mem.mpr ⟨side, hside⟩
  rw [run_of_guardHolds hguard]
  apply defaultResult_fitsResult
  rw [ofPromotion_result, ofPromotion_resultNullable, hguards]
  cases promotion.result with
  | primitive p => exact .inl ⟨p, rfl⟩
  | _ => exact .inr ⟨rfl, rfl⟩

-- The conversions meet no null here, so what counts is where they lead.
theorem safely_run_of_chains {chain : Chain} {leftTarget rightTarget : TypeName}
    (hv : v.FitsNonNull (.numeric left.type)) (hw : w.FitsNonNull (.numeric right.type))
    (hleft : l.left.Gives (.numeric left.type) leftTarget) (hright : l.right = some chain)
    (hchain : chain.Gives (.numeric right.type) rightTarget)
    (hshape : ∀ a b : Value α, a.FitsNonNull leftTarget → b.FitsNonNull rightTarget →
      Safely (FitsNonNull · l.result) (l.shape.run m a (some b)))
    : Safely (FitsResult · l) (l.run m v (some w)) := by
  have hvnull : v.isNull = false := by
    rw [← Bool.not_eq_true, isNull_iff]
    exact hv.1
  have hwnull : w.isNull = false := by
    rw [← Bool.not_eq_true, isNull_iff]
    exact hw.1
  rw [run_binary (not_guardHolds hvnull (by simp [hwnull]) _) hright]
  apply Safely.bind (hleft.safely_run hv)
  intro a ha
  apply Safely.bind (hchain.safely_run hw)
  intro b hb
  apply (hshape a b ha hb).mono
  intro c hc
  exact hc.fitsResult

theorem safely_run_binary {op : BinaryOp} (hl : binary op left right = .ok l)
    (hv : v.FitsOperand left) (hw : w.FitsOperand right)
    : Safely (FitsResult · l) (l.run m v (some w)) := by
  unfold binary at hl
  split at hl
  . next promotion hpromotion =>
    cases hl
    by_cases hnull : v.isNull = true ∨ w.isNull = true
    . exact safely_run_ofPromotion_of_null hv hw hnull
    . simp only [not_or, Bool.not_eq_true] at hnull
      have hv := hv.fitsNonNull hnull.1
      have hw := hw.fitsNonNull hnull.2
      rcases Promotion.binary?_cases hpromotion with
        ⟨-, hop, rfl⟩ | ⟨ht, hu, -, rfl⟩ | ⟨ht, hu, -, r, rfl, hrank⟩
      . split
        . apply safely_run_of_chains hv hw (Chain.toBigDecimal_gives _) rfl
            (Chain.toBigDecimal_gives _)
          intro a b ha hb
          exact Shape.safely_bigMethod hop rfl ha hb
        . apply safely_run_of_chains hv hw (Chain.toBigInteger_gives _) rfl
            (Chain.toBigInteger_gives _)
          intro a b ha hb
          exact Shape.safely_bigMethod hop rfl ha hb
      . obtain ⟨p, hp, -⟩ := NumericType.exists_width_of_not_big ht
        obtain ⟨q, hq, -⟩ := NumericType.exists_width_of_not_big hu
        apply safely_run_of_chains hv hw (Chain.unbox_gives hp) rfl (Chain.unbox_gives hq)
        intro a b ha hb
        exact Shape.safely_power ha hb
      . obtain ⟨p, hp, hprank⟩ := NumericType.exists_width_of_not_big ht
        obtain ⟨q, hq, hqrank⟩ := NumericType.exists_width_of_not_big hu
        apply safely_run_of_chains hv hw (Chain.unbox_gives hp) rfl (Chain.unbox_gives hq)
        intro a b ha hb
        exact Shape.safely_arithmetic ha hb (by rw [hrank, hprank, hqrank])
  . contradiction

end Lowering

namespace Scope

variable {s : Scope} {e : Expr} {l : Lowering}

theorem fitsOperand_of_operandType? {o : OperandType} (ho : s.operandType? e = some o)
    (hfits : ∀ type, s.typeOf? e = some type → v.Fits type)
    (hnonNull : s.isNonNull e = true → v ≠ .null) : v.FitsOperand o := by
  obtain ⟨t, ht, rfl⟩ := exists_numeric_of_operandType? ho
  have hfits := hfits _ ht
  split
  . next h => exact ⟨hfits, fun hnull => absurd hnull (hnonNull h)⟩
  . refine ⟨hfits, ?_⟩
    rintro rfl
    have href : t.isReference = true := hfits
    simp [OperandType.isGuarded, OperandType.ofType, href]

theorem lowering?_binary {span : Span} {left right : Expr} {op : BinaryOp}
    : s.lowering? (.binary span left op right) = some l ↔
        ∃ a b, s.operandType? left = some a ∧ s.operandType? right = some b ∧
          Lowering.binary op a b = .ok l := by
  cases hleft : s.operandType? left with
  | none => simp [lowering?, hleft]
  | some a =>
    cases hright : s.operandType? right with
    | none => simp [lowering?, hleft, hright]
    | some b => simp [lowering?, hleft, hright, Lowering.resolve, toOption_eq_some_iff]

theorem lowering?_negation {span : Span} {operand : Expr}
    : s.lowering? (.negation span operand) = some l ↔
        ∃ a, s.operandType? operand = some a ∧ Lowering.negate a = .ok l := by
  simp [lowering?, Lowering.resolve, toOption_eq_some_iff, Option.bind_eq_some_iff]

theorem lowering?_cast {span : Span} {operand : Expr} {target : Spanned TypeName}
    : s.lowering? (.cast span operand target) = some l ↔
        ∃ a, s.operandType? operand = some a ∧ Lowering.cast a target.node = l := by
  simp [lowering?, Lowering.resolve, Except.toOption, Option.bind_eq_some_iff]

theorem typeOf?_eq_of_lowering? (h : s.lowering? e = some l) : s.typeOf? e = some l.result := by
  cases e with
  | binary span left op right =>
    obtain ⟨a, b, ha, hb, hl⟩ := lowering?_binary.mp h
    have : s.typeOf? (.binary span left op right) =
        resultType? (.binary op) (s.operandType? left) (some (s.operandType? right)) := rfl
    rw [this, ha, hb]
    simp [resultType?, Lowering.resolve, hl, Except.toOption]
  | negation span operand =>
    obtain ⟨a, ha, hl⟩ := lowering?_negation.mp h
    have : s.typeOf? (.negation span operand) =
        resultType? .negate (s.operandType? operand) none := rfl
    rw [this, ha]
    simp [resultType?, Lowering.resolve, hl, Except.toOption]
  | cast span operand target =>
    obtain ⟨a, -, rfl⟩ := lowering?_cast.mp h
    rfl
  | _ => simp [lowering?] at h

/-- A value that the expression may have. -/
structure Admits (s : Scope) (e : Expr) (v : Value α) : Prop where
  fits : ∀ type, s.typeOf? e = some type → v.Fits type
  nonNull : s.isNonNull e = true → v ≠ .null
  fitsResult : ∀ l, s.lowering? e = some l → v.FitsResult l

theorem Admits.of_fitsResult (hl : s.lowering? e = some l) (hnonNull : s.isNonNull e = false)
    (h : v.FitsResult l) : s.Admits e v := by
  constructor
  . intro type htype
    rw [typeOf?_eq_of_lowering? hl] at htype
    cases htype
    exact h.fits
  . simp [hnonNull]
  . intro l' hl'
    rw [hl] at hl'
    cases hl'
    exact h

theorem safely_evaluate (m : Machine α) (ρ : Assignment s α) (h : s.Lowers e)
    : Safely (s.Admits e) (e.evaluate m ρ) := by
  induction e using Expr.induction_children with
  | step e ih =>
    cases e with
    | intLit span value =>
      refine ⟨?_, by simp, by simp [lowering?]⟩
      intro type htype
      cases htype
      rfl
    | floatLit span value =>
      refine ⟨?_, by simp, by simp [lowering?]⟩
      intro type htype
      cases htype
      rfl
    | var | call =>
      refine ⟨?_, ?_, by simp [lowering?]⟩
      . intro type htype
        exact ρ.fits _ type rfl htype
      . exact ρ.nonNull _ rfl
    | binary span left op right =>
      obtain ⟨hleft, hright, l, hl, -⟩ := h
      obtain ⟨a, b, ha, hb, hbinary⟩ := lowering?_binary.mp hl
      apply Safely.bind (ih left (by simp [Expr.children]) hleft)
      intro v hv
      apply Safely.bind (ih right (by simp [Expr.children]) hright)
      intro w hw
      rw [hl]
      have hv := fitsOperand_of_operandType? ha hv.fits hv.nonNull
      have hw := fitsOperand_of_operandType? hb hw.fits hw.nonNull
      apply (Lowering.safely_run_binary hbinary hv hw).mono
      intro _ hresult
      exact .of_fitsResult hl rfl hresult
    | negation span operand =>
      obtain ⟨hoperand, l, hl, -⟩ := h
      obtain ⟨a, ha, hnegate⟩ := lowering?_negation.mp hl
      apply Safely.bind (ih operand (by simp [Expr.children]) hoperand)
      intro v hv
      rw [hl]
      have hv := fitsOperand_of_operandType? ha hv.fits hv.nonNull
      apply (Lowering.safely_run_negate hnegate hv).mono
      intro _ hresult
      exact .of_fitsResult hl rfl hresult
    | cast span operand target =>
      obtain ⟨hoperand, l, hl, hshape⟩ := h
      obtain ⟨a, ha, rfl⟩ := lowering?_cast.mp hl
      apply Safely.bind (ih operand (by simp [Expr.children]) hoperand)
      intro v hv
      rw [hl]
      have hv := fitsOperand_of_operandType? ha hv.fits hv.nonNull
      apply (Lowering.safely_run_cast hv hshape).mono
      intro _ hresult
      exact .of_fitsResult hl rfl hresult
    | _ => contradiction

theorem Lowers.of_mem_evaluated {n : Expr} (h : s.Lowers e) (hn : n ∈ e.evaluated)
    : s.Lowers n := by
  induction e using Expr.induction_children with
  | step e ih =>
    cases e with
    | binary span left op right =>
      simp only [Expr.evaluated, List.mem_cons, List.mem_append] at hn
      rcases hn with rfl | hn | hn
      . exact h
      . exact ih left (by simp [Expr.children]) h.1 hn
      . exact ih right (by simp [Expr.children]) h.2.1 hn
    | negation span operand | cast span operand =>
      simp only [Expr.evaluated, List.mem_cons] at hn
      rcases hn with rfl | hn
      . exact h
      . exact ih operand (by simp [Expr.children]) h.1 hn
    | _ =>
      simp only [Expr.evaluated, List.mem_singleton] at hn
      rw [hn]
      exact h

end Scope

/--
Evaluation comes to a value or to an exception of the number libraries, at every node. The value has
the static type of the node, and it is null only where the node has a reference type and its
lowering says so.
-/
theorem evaluation_never_dereferences_null (m : Machine α) (s : Scope) (ρ : Assignment s α)
    (e : Expr) (h : s.Lowers e)
    : ∀ n ∈ e.evaluated,
        n.evaluate m ρ ≠ .error .nullDereference ∧
        n.evaluate m ρ ≠ .error .mismatch ∧
        ∀ v, n.evaluate m ρ = .ok v →
          (∀ type, s.typeOf? n = some type →
            v.Fits type ∧ (type.isReference = false → v ≠ .null)) ∧
          ∀ l, s.lowering? n = some l → l.resultNullable = false → v ≠ .null := by
  intro n hn
  have hsafe := Scope.safely_evaluate m ρ (h.of_mem_evaluated hn)
  cases hresult : n.evaluate m ρ with
  | error fault =>
    rw [hresult] at hsafe
    have : fault = .exception := hsafe
    simp [this]
  | ok v =>
    rw [hresult] at hsafe
    have hv : s.Admits n v := hsafe
    refine ⟨by simp, by simp, ?_⟩
    rintro w hw
    cases hw
    constructor
    . intro type htype
      have hfits := hv.fits type htype
      refine ⟨hfits, ?_⟩
      rintro hreference rfl
      have : type.isReference = true := hfits
      rw [hreference] at this
      contradiction
    . rintro l hl hnullable rfl
      have := (hv.fitsResult l hl).nullable rfl
      rw [hnullable] at this
      contradiction

/-- Whole numbers that never overflow. -/
def Machine.integers : Machine Int where
  integer := Int64.toInt
  floating _ := 0
  literal _ := 0
  text := toString
  convert _ a := some a
  negate a := -a
  operate
    | .arithmetic .add, a, b | .bigMethod .add _, a, b => some (a + b)
    | .arithmetic .sub, a, b | .bigMethod .sub _, a, b => some (a - b)
    | .arithmetic .mul, a, b | .bigMethod .mul _, a, b => some (a * b)
    | _, _, _ => none

def Scope.counters : Scope :=
  (Scope.empty.declare "counter" (.numeric (.atomic .long))).declare "total" (.numeric .bigInteger)

/-- The counter is null and the total is 5. -/
def Assignment.nullCounter : Assignment Scope.counters Int where
  value
    | .var _ name => if name = "counter" then .null else .object .bigInteger 5
    | _ => .null
  fits e type hinput htype := by
    cases e with
    | var span name =>
      simp only [Scope.typeOf?, Scope.counters, Scope.declare, Scope.empty, List.lookup_cons,
        List.lookup_nil] at htype
      split at htype
      . next h =>
        cases htype
        cases eq_of_beq h
        exact ⟨rfl, .inl rfl⟩
      . split at htype
        . next h =>
          cases htype
          cases eq_of_beq h
          rfl
        . contradiction
    | call span receiver feature =>
      cases feature <;> simp [Scope.typeOf?, FeatureSlot.linked?, Scope.counters, Scope.declare,
        Scope.empty] at htype
    | _ => contradiction
  nonNull e hinput hnonNull := by
    cases e with
    | var span name =>
      simp [Scope.isNonNull, Scope.counters, Scope.declare, Scope.empty] at hnonNull
    | _ => contradiction

/-- `((counter + total) as Long) - 1` -/
def Expr.remaining : Expr :=
  .binary .zero
    (.cast .zero (.binary .zero (.var .zero "counter") .add (.var .zero "total"))
      ⟨.numeric (.boxed .long), .zero⟩)
    .sub (.intLit .zero 1)

theorem remaining_of_null_counter_is_zero
    : Scope.counters.Lowers Expr.remaining ∧
        Expr.remaining.evaluate Machine.integers Assignment.nullCounter =
          .ok (.primitive .long 0) ∧
        ∀ n ∈ Expr.remaining.evaluated,
          n.evaluate Machine.integers Assignment.nullCounter ≠ .error .nullDereference := by
  have hlowers : Scope.counters.Lowers Expr.remaining := by
    refine ⟨⟨⟨trivial, trivial, ?_⟩, ?_⟩, trivial, ?_⟩
    . exact ⟨_, rfl, by decide⟩
    . exact ⟨_, rfl, by decide⟩
    . exact ⟨_, rfl, by decide⟩
  refine ⟨hlowers, rfl, ?_⟩
  intro n hn
  exact (evaluation_never_dereferences_null Machine.integers Scope.counters Assignment.nullCounter
    Expr.remaining hlowers n hn).1

end OperatorLowering

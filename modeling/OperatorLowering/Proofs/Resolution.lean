import OperatorLowering.Lowering.Resolve

/-!
What resolution can give: the plans that casts are carried out by, and the lowerings that operators
have.
-/

namespace OperatorLowering

/-- The types that there are casts to. -/
def TypeName.IsCastTarget : TypeName → Prop
  | numeric _ | string | object => True
  | boolean | void | named _ => False

namespace CastPlan

/-- The plan converts its operand, and if it says anything about the cast it is a warning. -/
inductive Converts (source : NumericType) (target : TypeName) : CastPlan → Prop where
  | obsolete : Converts source target (obsolete source target)
  | silent (chain : Chain) (guarded : Bool) : Converts source target (silent chain guarded)
  | conversion (chain : Chain) (accessor : String)
    : Converts source target (conversion chain source target accessor)

theorem converts_toObject (source : NumericType) (target : TypeName)
    : Converts source target (toObject source target) := by
  cases source with
  | primitive p => exact .silent _ _
  | _ => exact .obsolete

theorem converts_toNumeric (source target : NumericType)
    : Converts source (.numeric target) (toNumeric source target) := by
  unfold toNumeric
  split
  . exact .obsolete
  . split
    . apply converts_toObject
    . split
      . exact .obsolete
      . exact .silent _ _
    . split
      . exact .silent _ _
      . exact .conversion _ _
    . split
      . exact .silent _ _
      . exact .conversion _ _
    . exact .conversion _ _

theorem Converts.shape_eq {source : NumericType} {target : TypeName} {p : CastPlan}
    (h : Converts source target p) : p.shape = .conversion := by
  cases h <;> rfl

theorem Converts.isError_eq_false {source : NumericType} {target : TypeName} {p : CastPlan}
    {d : Diagnostic} (h : Converts source target p) (hd : p.diagnostic = some d)
    : d.isError = false := by
  cases h <;> cases hd <;> rfl

theorem plan_cases (source : NumericType) (target : TypeName)
    : (target.IsCastTarget ∧ Converts source target (plan source target)) ∨
        (¬target.IsCastTarget ∧ plan source target = invalid source target) := by
  cases target with
  | numeric t => exact .inl ⟨trivial, converts_toNumeric source t⟩
  | object => exact .inl ⟨trivial, converts_toObject source .object⟩
  | string => exact .inl ⟨trivial, .conversion _ _⟩
  | boolean | void | named => exact .inr ⟨id, rfl⟩

end CastPlan

namespace Lowering

section ofPromotion

variable (op : BinaryOp) (left right : OperandType) (promotion : Promotion)

theorem ofPromotion_result
    : (ofPromotion op left right promotion).result = .numeric promotion.result := by
  cases promotion with
  | big t => cases t <;> rfl
  | _ => rfl

theorem ofPromotion_diagnostic
    : (ofPromotion op left right promotion).diagnostic = none := by
  cases promotion with
  | big t => cases t <;> rfl
  | _ => rfl

theorem ofPromotion_shape
    : (ofPromotion op left right promotion).shape =
        match promotion with
        | .primitive _ => .arithmetic op
        | .power => .power
        | .big t => .bigMethod op t := by
  cases promotion with
  | big t => cases t <;> rfl
  | _ => rfl

theorem ofPromotion_right
    : (ofPromotion op left right promotion).right.isSome = true := by
  cases promotion with
  | big t => cases t <;> rfl
  | _ => rfl

theorem ofPromotion_guards
    : (ofPromotion op left right promotion).guards =
        (if left.isGuarded then [Side.left] else []) ++
          (if right.isGuarded then [Side.right] else []) := by
  cases promotion with
  | big t => cases t <;> rfl
  | _ => rfl

theorem ofPromotion_resultNullable
    : (ofPromotion op left right promotion).resultNullable =
        (promotion.result.isReference &&
          !(ofPromotion op left right promotion).guards.isEmpty) := by
  cases promotion with
  | big t => cases t <;> rfl
  | _ => rfl

end ofPromotion

variable {operator : Operator} {left : OperandType} {right : Option OperandType} {l : Lowering}

theorem exists_of_negate_eq_ok {operand : OperandType} (h : negate operand = .ok l)
    : ∃ promotion, Promotion.negation? operand.type = some promotion ∧
        l = ⟨.numeric promotion.result, false, Chain.unbox operand.type, none,
          if operand.isGuarded then [.left] else [], none, .negate⟩ := by
  unfold negate at h
  split at h
  . next promotion hpromotion =>
    cases h
    exact ⟨promotion, hpromotion, rfl⟩
  . contradiction

theorem resolve_cases (h : resolve operator left right = .ok l)
    : (∃ op r promotion, operator = .binary op ∧ right = some r ∧
          Promotion.binary? op left.type r.type = some promotion ∧
          l = ofPromotion op left r promotion) ∨
        (operator = .negate ∧ right = none ∧ negate left = .ok l) ∨
        ∃ target, operator = .cast target ∧ right = none ∧ l = cast left target := by
  unfold resolve at h
  split at h
  . next op r =>
    unfold binary at h
    split at h
    . next promotion hpromotion =>
      cases h
      exact .inl ⟨op, r, promotion, rfl, rfl, hpromotion, rfl⟩
    . contradiction
  . exact .inr (.inl ⟨rfl, rfl, h⟩)
  . next target =>
    cases h
    exact .inr (.inr ⟨target, rfl, rfl, rfl⟩)
  . contradiction

end Lowering

end OperatorLowering

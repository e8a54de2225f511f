import OperatorLowering.Expr
import OperatorLowering.Lowering.Cast

/-!
What a check asks about the expressions of a tree. Whoever answers may keep a state, so every answer
comes with the resolver to ask next.
-/

namespace OperatorLowering

class TypeResolution (ρ : Type) where
  resolveType : ρ → Expr → Option TypeName × ρ
  /-- What a call refers to, which takes no static type. -/
  slotOf : ρ → FeatureCall → FeatureSlot × ρ := fun r call => (call.feature, r)
  isNonNull : ρ → Expr → Bool × ρ := fun r e => (e.isNumberLiteral, r)
  resolveOperand : ρ → Expr → Option OperandType × ρ := fun r e =>
    match resolveType r e with
    | (some (.numeric t), r) =>
      match isNonNull r e with
      | (true, r) => (some (.nonNull t), r)
      | (false, r) => (some (.ofType t), r)
    | (_, r) => (none, r)

end OperatorLowering

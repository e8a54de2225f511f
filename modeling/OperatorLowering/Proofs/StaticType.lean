import OperatorLowering.Proofs.Resolution
import OperatorLowering.Scope

/-!
Static types of operator expressions, from the static types of their operands. Whether an operand
may be null makes no difference to them.
-/

namespace OperatorLowering

theorem toOption_eq_some_iff {ε β : Type} {x : Except ε β} {b : β}
    : x.toOption = some b ↔ x = .ok b := by
  cases x <;> simp [Except.toOption]

namespace Lowering

variable (op : BinaryOp) (left right operand : OperandType)

theorem binary_result?
    : (binary op left right).toOption.map result =
        (Promotion.binary? op left.type right.type).map fun p => .numeric p.result := by
  unfold binary
  split
  . next promotion h => simp [h, Except.toOption, ofPromotion_result]
  . next h => simp [h, Except.toOption]

theorem negate_result?
    : (negate operand).toOption.map result =
        (Promotion.negation? operand.type).map fun p => .numeric p.result := by
  unfold negate
  split
  . next promotion h => simp [h, Except.toOption]
  . next h => simp [h, Except.toOption]

end Lowering

namespace Scope

variable {s : Scope} {e left right operand : Expr} {t u : NumericType} {span : Span} {op : BinaryOp}

theorem operandType?_of_numeric (h : s.typeOf? e = some (.numeric t))
    : s.operandType? e = some (if s.isNonNull e then .nonNull t else .ofType t) := by
  simp [operandType?, operandOf, h]

theorem exists_numeric_of_operandType? {o : OperandType} (h : s.operandType? e = some o)
    : ∃ t, s.typeOf? e = some (.numeric t) ∧
        o = if s.isNonNull e then .nonNull t else .ofType t := by
  unfold operandType? operandOf at h
  split at h
  . next t ht =>
    cases h
    exact ⟨t, ht, rfl⟩
  . contradiction

theorem operandType_type (b : Bool)
    : (if b then OperandType.nonNull t else OperandType.ofType t).type = t := by
  cases b <;> rfl

theorem typeOf?_binary (hleft : s.typeOf? left = some (.numeric t))
    (hright : s.typeOf? right = some (.numeric u))
    : s.typeOf? (.binary span left op right) =
        (Promotion.binary? op t u).map fun p => .numeric p.result := by
  have : s.typeOf? (.binary span left op right) =
      resultType? (.binary op) (s.operandType? left) (some (s.operandType? right)) := rfl
  rw [this, operandType?_of_numeric hleft, operandType?_of_numeric hright]
  have := Lowering.binary_result? op (if s.isNonNull left then .nonNull t else .ofType t)
    (if s.isNonNull right then .nonNull u else .ofType u)
  rw [operandType_type, operandType_type] at this
  exact this

theorem typeOf?_negation (h : s.typeOf? operand = some (.numeric t))
    : s.typeOf? (.negation span operand) =
        (Promotion.negation? t).map fun p => .numeric p.result := by
  have : s.typeOf? (.negation span operand) =
      resultType? .negate (s.operandType? operand) none := rfl
  rw [this, operandType?_of_numeric h]
  have := Lowering.negate_result? (if s.isNonNull operand then .nonNull t else .ofType t)
  rw [operandType_type] at this
  exact this

theorem exists_operands_of_typeOf?_binary {type : TypeName}
    (h : s.typeOf? (.binary span left op right) = some type)
    : ∃ t u p, s.typeOf? left = some (.numeric t) ∧ s.typeOf? right = some (.numeric u) ∧
        Promotion.binary? op t u = some p ∧ type = .numeric p.result := by
  have hresult : resultType? (.binary op) (s.operandType? left) (some (s.operandType? right)) =
      some type := h
  unfold resultType? at hresult
  split at hresult
  . contradiction
  . next hl hr =>
    obtain ⟨t, ht, -⟩ := exists_numeric_of_operandType? hl
    obtain ⟨u, hu, -⟩ := exists_numeric_of_operandType? (Option.some.inj hr)
    rw [typeOf?_binary ht hu] at h
    obtain ⟨p, hp, rfl⟩ := Option.map_eq_some_iff.mp h
    exact ⟨t, u, p, ht, hu, hp, rfl⟩
  . contradiction

theorem exists_operand_of_typeOf?_negation {type : TypeName}
    (h : s.typeOf? (.negation span operand) = some type)
    : ∃ t p, s.typeOf? operand = some (.numeric t) ∧ Promotion.negation? t = some p ∧
        type = .numeric p.result := by
  have hresult : resultType? .negate (s.operandType? operand) none = some type := h
  unfold resultType? at hresult
  split at hresult
  . next ho _ =>
    obtain ⟨t, ht, -⟩ := exists_numeric_of_operandType? ho
    rw [typeOf?_negation ht] at h
    obtain ⟨p, hp, rfl⟩ := Option.map_eq_some_iff.mp h
    exact ⟨t, p, ht, hp, rfl⟩
  . contradiction
  . contradiction

end Scope

end OperatorLowering

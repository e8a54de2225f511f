import OperatorLowering.Proofs.FixedSlots

/-!
A check looks at each node on its own: what it says about a node depends on the scope only, not on
the nodes before it.
-/

namespace OperatorLowering

/-- The position in a block right after the first statement that control never gets past. -/
def Registry.afterFirstExit {ρ : Type} [TypeResolution ρ] (registry : Registry) (r : ρ)
    (statements : List Expr) : Nat :=
  statements.findIdx (Expr.isDefiniteExit (.ofResolver registry r)) + 1

namespace Checker

section FixedSlots

open TypeResolution (slots)

variable {ρ : Type} [TypeResolution ρ] [FixedSlots ρ] (c : Checker) (span : Span) (r : ρ)

theorem checkCall_eq (call : FeatureCall)
    : c.checkCall span call r = (c.checkSlot span (slots r call), r) := by
  unfold checkCall
  rw [FixedSlots.slotOf_eq]

-- If there is no exit, the position is past the end.
theorem firstUnreachable?_eq (registry : Registry) (statements : List Expr)
    : firstUnreachable? registry statements r =
        (statements[registry.afterFirstExit r statements]?, r) := by
  unfold Registry.afterFirstExit
  induction statements with
  | nil => rfl
  | cons s statements ih =>
    rw [firstUnreachable?, Registry.definiteExit_exitTest]
    cases hexit : s.isDefiniteExit (.ofResolver registry r) with
    | true => simp [hexit, List.findIdx_cons, List.head?_eq_getElem?]
    | false => simp [hexit, List.findIdx_cons, ih]

theorem checkBlock_eq (statements : List Expr)
    : c.checkBlock statements r =
        (match statements[c.registry.afterFirstExit r statements]? with
          | some next => c.emit true (.unreachableCode next.span)
          | none => [], r) := by
  unfold checkBlock
  rw [firstUnreachable?_eq]
  cases statements[c.registry.afterFirstExit r statements]? <;> rfl

theorem slots_checkUnary (operator : Operator) (operand : Expr)
    : slots (c.checkUnary span operator operand r).2 = slots r := by
  rw [← FixedSlots.slots_resolveOperand r operand]
  unfold checkUnary
  split <;> next h => rw [h]

theorem slots_checkBinary (op : BinaryOp) (left right : Expr)
    : slots (c.checkBinary span op left right r).2 = slots r := by
  rw [← FixedSlots.slots_resolveOperand r left]
  unfold checkBinary
  split
  . next h => rw [h]
  . next left' r' h =>
    rw [h, ← FixedSlots.slots_resolveOperand r' right]
    split <;> next h => rw [h]

theorem slots_checkNode (e : Expr) : slots (c.checkNode e r).2 = slots r := by
  cases e with
  | binary => apply slots_checkBinary
  | negation | cast => apply slots_checkUnary
  | call => rw [checkNode, checkCall_eq]
  | block => rw [checkNode, checkBlock_eq]
  | _ => rfl

end FixedSlots

variable (c : Checker) (span : Span) (r : Resolver)

theorem resolveOperand_eq (e : Expr)
    : TypeResolution.resolveOperand r e = (r.scope.operandType? e, r.count) := by
  simp only [TypeResolution.resolveOperand, Resolver.resolveType, Resolver.count,
    Scope.operandType?, Scope.operandOf]
  cases r.scope.typeOf? e with
  | none => rfl
  | some type =>
    cases type with
    | numeric =>
      dsimp only
      cases r.scope.isNonNull e <;> rfl
    | _ => rfl

theorem checkUnary_eq (operator : Operator) (operand : Expr)
    : c.checkUnary span operator operand r =
        (match r.scope.operandType? operand with
          | some operand => c.checkOperands span operator operand none
          | none => [], r.count) := by
  unfold checkUnary
  rw [resolveOperand_eq]
  cases r.scope.operandType? operand <;> rfl

theorem checkBinary_eq (op : BinaryOp) (left right : Expr)
    : c.checkBinary span op left right r =
        (match r.scope.operandType? left, r.scope.operandType? right with
          | some left, some right => c.checkOperands span (.binary op) left (some right)
          | _, _ => [],
          if (r.scope.operandType? left).isSome then r.count.count else r.count) := by
  unfold checkBinary
  rw [resolveOperand_eq]
  cases r.scope.operandType? left with
  | none => rfl
  | some left =>
    dsimp only
    rw [resolveOperand_eq]
    dsimp only [Resolver.count]
    cases r.scope.operandType? right <;> rfl

@[simp]
theorem checkNode_scope (e : Expr) : (c.checkNode e r).2.scope = r.scope := by
  cases e with
  | binary =>
    rw [checkNode, checkBinary_eq]
    dsimp only
    split <;> rfl
  | negation | cast =>
    rw [checkNode, checkUnary_eq]
    rfl
  | block => rw [checkNode, checkBlock_eq]
  | _ => rfl

theorem checkNode_diagnostics_of_scope_eq {r r' : Resolver} (h : r.scope = r'.scope) (e : Expr)
    : (c.checkNode e r).1 = (c.checkNode e r').1 := by
  cases e with
  | binary => simp only [checkNode, checkBinary_eq, h]
  | negation | cast => simp only [checkNode, checkUnary_eq, h]
  | block =>
    simp only [checkNode, checkBlock_eq]
    rfl
  | _ => rfl

theorem checkNodes_diagnostics (es : List Expr)
    : (c.checkNodes es r).1 = es.flatMap fun n => (c.checkNode n r).1 := by
  induction es generalizing r with
  | nil => rfl
  | cons e es ih =>
    simp only [checkNodes, List.flatMap_cons, ih]
    congr 2
    funext n
    apply checkNode_diagnostics_of_scope_eq
    apply checkNode_scope

theorem checkExpr_diagnostics (e : Expr)
    : (c.checkExpr e r).1 = e.nodes.flatMap fun n => (c.checkNode n r).1 :=
  c.checkNodes_diagnostics r e.nodes

theorem checkItem_diagnostics (item : Item)
    : (c.checkItem item r).1 =
        (item.parts.flatMap Expr.nodes).flatMap fun n => (c.checkNode n r).1 :=
  c.checkNodes_diagnostics r _

end Checker

end OperatorLowering

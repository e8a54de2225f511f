import OperatorLowering.Lowering.Cast
import OperatorLowering.Promotion
import OperatorLowering.Query

/-!
Resolution: the lowering of an operator on operands of known types.
-/

namespace OperatorLowering

inductive OperatorError where
  | operandCount (operator : Operator) (given : Nat)
  | undefined (spec : OperatorSpec)
  deriving Repr, DecidableEq, Inhabited

namespace OperatorError

def message : OperatorError → String
  | operandCount operator given =>
    s!"operator '{operator.symbol.text}' takes {operator.arity} operand(s), got {given}"
  | undefined spec => s!"{spec.text} is not defined"

def diagnostic (e : OperatorError) : Diagnostic := .ofCode .unsupportedOperator e.message

end OperatorError

namespace Lowering

def ofPromotion (op : BinaryOp) (left right : OperandType) (promotion : Promotion) : Lowering :=
  let guards := (if left.isGuarded then [Side.left] else []) ++
    (if right.isGuarded then [Side.right] else [])
  let lower (leftChain rightChain : Chain) (shape : Shape) : Lowering :=
    { result := .numeric promotion.result
      resultNullable := promotion.result.isReference && !guards.isEmpty
      left := leftChain
      right := some rightChain
      guards := guards
      diagnostic := none
      shape := shape }
  match promotion with
  | .primitive _ => lower (Chain.unbox left.type) (Chain.unbox right.type) (.arithmetic op)
  | .power => lower (Chain.unbox left.type) (Chain.unbox right.type) .power
  | .big .bigDecimal =>
    lower (Chain.toBigDecimal left.type) (Chain.toBigDecimal right.type) (.bigMethod op .bigDecimal)
  | .big t => lower (Chain.toBigInteger left.type) (Chain.toBigInteger right.type) (.bigMethod op t)

def binary (op : BinaryOp) (left right : OperandType) : Except OperatorError Lowering :=
  match Promotion.binary? op left.type right.type with
  | some promotion => .ok (ofPromotion op left right promotion)
  | none => .error (.undefined ⟨.binary op, left.type, some right.type⟩)

def negate (operand : OperandType) : Except OperatorError Lowering :=
  match Promotion.negation? operand.type with
  | some promotion => .ok
    { result := .numeric promotion.result
      resultNullable := false
      left := Chain.unbox operand.type
      right := none
      guards := if operand.isGuarded then [.left] else []
      diagnostic := none
      shape := .negate }
  | none => .error (.undefined ⟨.negation, operand.type, none⟩)

/--
The lowering of an operator. Problems of casts are diagnostics of the lowering; operators that are
not defined, and wrong numbers of operands, are errors.
-/
def resolve (operator : Operator) (left : OperandType) (right : Option OperandType)
    : Except OperatorError Lowering :=
  match operator, right with
  | .binary op, some right => binary op left right
  | .negate, none => negate left
  | .cast target, none => .ok (cast left target)
  | operator, right => .error (.operandCount operator (if right.isSome then 2 else 1))

end Lowering

namespace Query

def Operand.operandType (o : Operand) : OperandType := ⟨o.type, o.nullable⟩

def lower (q : Query) : Except OperatorError Lowering :=
  Lowering.resolve q.operator q.left.operandType (q.right.map Operand.operandType)

def render? (q : Query) (lowering : Lowering) : Option String :=
  lowering.render? q.left.name (q.right.map Operand.name)

end Query

end OperatorLowering

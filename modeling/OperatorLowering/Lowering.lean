import OperatorLowering.Conversion
import OperatorLowering.Diagnostic
import OperatorLowering.Operator

/-!
Lowerings: how an operator expression is written in the target language, and the writing itself.
-/

namespace OperatorLowering

/-- The side of an operand. The operand of a unary operator is on the left. -/
inductive Side where
  | left | right
  deriving Repr, DecidableEq, Inhabited

namespace Side

def name : Side → String
  | left => "Left"
  | right => "Right"

end Side

inductive Shape where
  | arithmetic (op : BinaryOp)
  | negate
  | power
  | bigMethod (op : BinaryOp) (t : NumericType)
  | conversion
  | nothing
  deriving Repr, DecidableEq, Inhabited

structure Lowering where
  result : TypeName
  resultNullable : Bool
  left : Chain
  right : Option Chain
  guards : List Side
  diagnostic : Option Diagnostic
  shape : Shape
  deriving Repr, DecidableEq, Inhabited

namespace BinaryOp

/-- The method of a big number class, and the text after its argument. -/
def bigMethod? (op : BinaryOp) (t : NumericType) : Option (String × String) :=
  let decimal : Bool := t == .bigDecimal
  match op with
  | add => some ("add", "")
  | sub => some ("subtract", "")
  | mul => some ("multiply", "")
  | div => some ("divide", if decimal then ", MathContext.DECIMAL128" else "")
  | mod => some (if decimal then "remainder" else "mod", "")
  | pow => none

end BinaryOp

namespace Shape

/-- The construct over converted operands; a missing right operand leaves binary ones unwritten. -/
def core? (shape : Shape) (left : String) (right : Option String) : Option String :=
  match shape, right with
  | arithmetic op, some right => some s!"{left} {op.text} {right}"
  | negate, _ => some s!"-({left})"
  | power, some right => some s!"Math.pow({left}, {right})"
  | bigMethod op t, some right =>
    (op.bigMethod? t).map fun (method, extra) => s!"{left}.{method}({right}{extra})"
  | conversion, _ => some left
  | _, _ => none

/-- Constructs that stand in parentheses unless a null test encloses them anyway. -/
def needsParentheses : Shape → Bool
  | arithmetic _ | negate => true
  | _ => false

end Shape

namespace Lowering

def defaultValue (l : Lowering) : String :=
  match l.result with
  | .numeric (.primitive p) => p.zeroLiteral
  | _ => "null"

def guardText (left : String) (right : Option String) : Side → String
  | .left => left ++ " == null"
  | .right => right.getD "" ++ " == null"

/--
The expression in the target language over the sources of its operands. The source of a guarded
operand appears twice, so it has to be free of side effects.
-/
def render? (l : Lowering) (left : String) (right : Option String) : Option String :=
  let converted : Option (Option String) :=
    match l.right, right with
    | some chain, some source => some (some (Chain.apply chain source))
    | some _, none => none
    | none, _ => some none
  match converted with
  | none => none
  | some converted =>
    match l.shape.core? (Chain.apply l.left left) converted with
    | none => none
    | some core =>
      if l.guards.isEmpty then
        some (if l.shape.needsParentheses then s!"({core})" else core)
      else
        let test := " || ".intercalate (l.guards.map (guardText left right))
        some s!"({test} ? {l.defaultValue} : {core})"

end Lowering

end OperatorLowering

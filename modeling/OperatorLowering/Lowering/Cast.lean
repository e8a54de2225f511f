import OperatorLowering.Lowering

/-!
Casts: the conversion chain from a numeric type to another type, and what there is to say about it.
-/

namespace OperatorLowering

structure OperandType where
  type : NumericType
  nullable : Bool
  deriving Repr, DecidableEq, Inhabited

namespace OperandType

/-- Operands of reference types are nullable unless known otherwise. -/
def ofType (t : NumericType) : OperandType := ⟨t, t.isReference⟩

def nonNull (t : NumericType) : OperandType := ⟨t, false⟩

def isGuarded (o : OperandType) : Bool := o.nullable && o.type.isReference

end OperandType

structure CastPlan where
  chain : Chain
  /-- Does the chain read its operand, so that a null operand has to be kept from it? -/
  guarded : Bool
  diagnostic : Option Diagnostic
  shape : Shape
  deriving Repr, DecidableEq, Inhabited

namespace CastPlan

def obsolete (source : NumericType) (target : TypeName) : CastPlan :=
  ⟨[], false, some (.obsoleteCast source.name target.simpleName), .conversion⟩

def invalid (source : NumericType) (target : TypeName) : CastPlan :=
  ⟨[], false, some (.invalidCast source.name target.simpleName), .nothing⟩

def silent (chain : Chain) (guarded : Bool) : CastPlan := ⟨chain, guarded, none, .conversion⟩

def conversion (chain : Chain) (source : NumericType) (target : TypeName) (accessor : String)
    : CastPlan :=
  ⟨chain, true, some (.inefficientConversion source.name target.simpleName accessor), .conversion⟩

def narrowed (p q : Primitive) : Chain := if p.wider q then [.narrow q] else []

def fromPrimitive (p : Primitive) : NumericType → Chain
  | .boxed q => narrowed p q ++ [.valueOf (.boxed q)]
  | .atomic a => narrowed p a.width ++ [.newInstance (.atomic a)]
  | .bigInteger => Chain.toBigInteger (.primitive p)
  | .bigDecimal => Chain.toBigDecimal (.primitive p)
  | .primitive _ | .number => []

def fromReference (source : NumericType) : NumericType → Chain
  | .boxed q => [.value q, .valueOf (.boxed q)]
  | .atomic a => [.value a.width, .newInstance (.atomic a)]
  | .bigInteger => Chain.toBigInteger source
  | .bigDecimal => Chain.toBigDecimal source
  | .primitive _ | .number => []

def toObject (source : NumericType) (target : TypeName) : CastPlan :=
  match source with
  | .primitive p => silent [.valueOf (.boxed p)] false
  | _ => obsolete source target

def toNumeric (source target : NumericType) : CastPlan :=
  if source = target then
    obsolete source (.numeric target)
  else
    match source, target with
    | source, .number => toObject source (.numeric .number)
    | .primitive p, .primitive q =>
      if q.wider p then obsolete source (.numeric target) else silent [.narrow q] false
    | .primitive p, target =>
      if target = .boxed p then
        silent [.valueOf target] false
      else
        conversion (fromPrimitive p target) source (.numeric target) target.conversionHelper
    | source, .primitive q =>
      if source = .boxed q then
        silent [.value q] true
      else
        conversion [.value q] source (.numeric target) q.accessor
    | source, target =>
      conversion (fromReference source target) source (.numeric target) target.conversionHelper

def plan (source : NumericType) (target : TypeName) : CastPlan :=
  match target with
  | .numeric t => toNumeric source t
  | .object => toObject source .object
  | .string =>
    let step := match source with
      | .primitive p => Step.staticToString p
      | _ => Step.objectToString
    conversion [step] source .string "toString"
  | .boolean | .void | .named _ => invalid source target

end CastPlan

namespace Lowering

def cast (operand : OperandType) (target : TypeName) : Lowering :=
  let plan := CastPlan.plan operand.type target
  { result := target
    resultNullable := plan.shape != .nothing && target.isReference && operand.nullable
    left := plan.chain
    right := none
    guards := if plan.guarded && operand.isGuarded then [.left] else []
    diagnostic := plan.diagnostic
    shape := plan.shape }

end Lowering

end OperatorLowering

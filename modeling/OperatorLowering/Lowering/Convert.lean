import OperatorLowering.Lowering.Cast
import OperatorLowering.Numeric.Number

/-!
What a lowered cast does to a number at run time. Big numbers keep the value they were made of.
-/

namespace OperatorLowering

namespace Step

def eval (step : Step) (n : Number) : Number :=
  match step with
  | value p | narrow p => n.read p
  | toBigInteger => if n.floating?.isSome then .long n.longValue else n
  | valueOf _ | newInstance _ | objectToString | staticToString _ => n

end Step

namespace Chain

def eval (chain : Chain) (n : Number) : Number := chain.foldl (fun n step => step.eval n) n

end Chain

namespace Lowering

/--
The value of `value as target` for an operand of type `source`, `none` standing for null. A guarded
cast of null gives zero if the target is primitive; a cast to a primitive ends at its width.
-/
def convert (value : Option Number) (source target : NumericType) : Option Number :=
  let lowering := cast (.ofType source) (.numeric target)
  let operand :=
    match value with
    | some n => some n
    | none => if !lowering.guards.isEmpty && target.isPrimitive then some (.int 0) else none
  match operand with
  | none => none
  | some n =>
    let converted := Chain.eval lowering.left n
    match target with
    | .primitive p => some (converted.read p)
    | _ => some converted

end Lowering

end OperatorLowering

import OperatorLowering.Numeric.NumericType

/-!
Conversions of an operand, as chains of single steps of the target language.
-/

namespace OperatorLowering

inductive Step where
  | value (p : Primitive)
  | narrow (p : Primitive)
  | valueOf (t : NumericType)
  | newInstance (t : NumericType)
  | toBigInteger
  | objectToString
  | staticToString (p : Primitive)
  deriving Repr, DecidableEq, Inhabited

namespace Step

def apply (step : Step) (source : String) : String :=
  match step with
  | value p => s!"{source}.{p.accessor}()"
  | narrow p => s!"(({p.name}) {source})"
  | valueOf t => s!"{t.name}.valueOf({source})"
  | newInstance t => s!"new {t.name}({source})"
  | toBigInteger => s!"{source}.toBigInteger()"
  | objectToString => s!"{source}.toString()"
  | staticToString p => s!"{(NumericType.boxed p).name}.toString({source})"

end Step

/-- Conversion steps, the innermost first. The empty chain changes nothing. -/
abbrev Chain := List Step

namespace Chain

def apply (chain : Chain) (source : String) : String :=
  chain.foldl (fun text step => step.apply text) source

def unbox : NumericType → Chain
  | .boxed p => [.value p]
  | .atomic a => [.value a.width]
  | .number => [.value .double]
  | .primitive _ | .bigInteger | .bigDecimal => []

def toBigInteger : NumericType → Chain
  | .bigInteger => []
  | .bigDecimal => [.toBigInteger]
  | .primitive p =>
    if p.isFloating then [.narrow .long, .valueOf .bigInteger] else [.valueOf .bigInteger]
  | .boxed _ | .atomic _ | .number => [.value .long, .valueOf .bigInteger]

/-- Conversion to big decimals; integral objects are read as longs, all others as doubles. -/
def toBigDecimal : NumericType → Chain
  | .bigDecimal => []
  | .bigInteger => [.newInstance .bigDecimal]
  | .primitive _ => [.valueOf .bigDecimal]
  | t => [.value (if t.isFloating then .double else .long), .valueOf .bigDecimal]

end Chain

end OperatorLowering

import OperatorLowering.Operator

/-!
Promotion: the type in which arithmetic on given operand types is carried out.
-/

namespace OperatorLowering

inductive Promotion where
  | primitive (p : Primitive)
  /-- The library power function, which computes in doubles. -/
  | power
  | big (t : NumericType)
  deriving Repr, DecidableEq, Inhabited

/-- An operator and its operand types; negation and casts have no right operand. -/
structure OperatorSpec where
  symbol : OperatorSymbol
  left : NumericType
  right : Option NumericType
  deriving Repr, DecidableEq, Inhabited

namespace Promotion

def result : Promotion → NumericType
  | primitive p => .primitive p
  | power => .primitive .double
  | big t => t

def label : Promotion → String
  | primitive p => s!"Primitive({p.rank.name})"
  | power => "Power"
  | big t => s!"Big({t.name})"

def ofRank? (rank : Rank) : Option Promotion :=
  (Primitive.ofRank? (rank.max .int)).map primitive

/--
The promotion of a binary operator. A big operand makes the result big, decimal if any operand has a
fractional part; powers of big numbers are not defined.
-/
def binary? (op : BinaryOp) (left right : NumericType) : Option Promotion :=
  if left.isBig || right.isBig then
    if op = .pow then none
    else if left.isFloating || right.isFloating then some (.big .bigDecimal)
    else some (.big .bigInteger)
  else if op = .pow then some .power
  else ofRank? (left.rank.max right.rank)

def negation? (operand : NumericType) : Option Promotion :=
  if operand.isBig then none else ofRank? operand.rank

end Promotion

namespace OperatorSpec

/-- Written `int + Long`, `-int`, or as the symbol before its only operand. -/
def text (spec : OperatorSpec) : String :=
  match spec.right with
  | some right => s!"{spec.left.name} {spec.symbol.text} {right.name}"
  | none =>
    if spec.symbol = .negation then s!"-{spec.left.name}"
    else s!"{spec.symbol.text} {spec.left.name}"

def promotion? (spec : OperatorSpec) : Option Promotion :=
  match spec.symbol, spec.right with
  | .binary op, some right => Promotion.binary? op spec.left right
  | .negation, none => Promotion.negation? spec.left
  | _, _ => none

def all : List OperatorSpec :=
  (BinaryOp.all.flatMap fun op => NumericType.all.flatMap fun left =>
    NumericType.all.map fun right => ⟨.binary op, left, some right⟩) ++
  NumericType.all.map fun operand => ⟨.negation, operand, none⟩

end OperatorSpec

namespace Promotion

def table : List (OperatorSpec × Promotion) :=
  OperatorSpec.all.filterMap fun spec => spec.promotion?.map fun promotion => (spec, promotion)

def tableOf (symbol : OperatorSymbol) : List (OperatorSpec × Promotion) :=
  table.filter fun entry => entry.1.symbol = symbol

end Promotion

end OperatorLowering

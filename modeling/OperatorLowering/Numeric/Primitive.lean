/-!
The primitive number types and the ranks by which arithmetic chooses its width.
-/

namespace OperatorLowering

inductive Rank where
  | byte | short | int | long | float | double | bigInteger | bigDecimal
  deriving Repr, DecidableEq, Inhabited

namespace Rank

def order : Rank → Nat
  | byte => 0
  | short => 1
  | int => 2
  | long => 3
  | float => 4
  | double => 5
  | bigInteger => 6
  | bigDecimal => 7

def max (a b : Rank) : Rank := if a.order ≤ b.order then b else a

def name : Rank → String
  | byte => "Byte"
  | short => "Short"
  | int => "Int"
  | long => "Long"
  | float => "Float"
  | double => "Double"
  | bigInteger => "BigInteger"
  | bigDecimal => "BigDecimal"

end Rank

inductive Primitive where
  | byte | short | int | long | float | double
  deriving Repr, DecidableEq, Inhabited

namespace Primitive

def all : List Primitive := [byte, short, int, long, float, double]

def rank : Primitive → Rank
  | byte => .byte
  | short => .short
  | int => .int
  | long => .long
  | float => .float
  | double => .double

/-- The primitive of a rank; the ranks of the big number types have none. -/
def ofRank? : Rank → Option Primitive
  | .byte => some byte
  | .short => some short
  | .int => some int
  | .long => some long
  | .float => some float
  | .double => some double
  | .bigInteger | .bigDecimal => none

def name : Primitive → String
  | byte => "byte"
  | short => "short"
  | int => "int"
  | long => "long"
  | float => "float"
  | double => "double"

def ofName? (name : String) : Option Primitive := all.find? fun p => p.name == name

def accessor : Primitive → String
  | byte => "byteValue"
  | short => "shortValue"
  | int => "intValue"
  | long => "longValue"
  | float => "floatValue"
  | double => "doubleValue"

def isFloating : Primitive → Bool
  | float | double => true
  | _ => false

def zeroLiteral : Primitive → String
  | float => "0f"
  | double => "0.0"
  | _ => "0"

def wider (p q : Primitive) : Bool := q.rank.order < p.rank.order

@[simp]
theorem ofRank?_rank (p : Primitive) : ofRank? p.rank = some p := by
  cases p <;> rfl

end Primitive

end OperatorLowering

import OperatorLowering.Numeric.Primitive

/-!
The numeric types an operand can have: primitives, their boxes, atomic cells, big numbers and the
common class of all number objects.
-/

namespace OperatorLowering

inductive Atomic where
  | integer | long | double
  deriving Repr, DecidableEq, Inhabited

inductive NumericType where
  | primitive (p : Primitive)
  | boxed (p : Primitive)
  | atomic (a : Atomic)
  | bigInteger
  | bigDecimal
  /-- The class of all number objects, read as a double. -/
  | number
  deriving Repr, DecidableEq, Inhabited

namespace Atomic

def all : List Atomic := [integer, long, double]

def width : Atomic → Primitive
  | integer => .int
  | long => .long
  | double => .double

end Atomic

namespace NumericType

/-- Every numeric type, in the order in which tables list them. -/
def all : List NumericType :=
  Primitive.all.map primitive ++ Primitive.all.map boxed ++ Atomic.all.map atomic ++
    [bigInteger, bigDecimal, number]

def width? : NumericType → Option Primitive
  | primitive p | boxed p => some p
  | atomic a => some a.width
  | number => some .double
  | bigInteger | bigDecimal => none

def rank : NumericType → Rank
  | primitive p | boxed p => p.rank
  | atomic a => a.width.rank
  | number => .double
  | bigInteger => .bigInteger
  | bigDecimal => .bigDecimal

def isPrimitive : NumericType → Bool
  | primitive _ => true
  | _ => false

def isBoxed : NumericType → Bool
  | boxed _ => true
  | _ => false

def isAtomic : NumericType → Bool
  | atomic _ => true
  | _ => false

def isBig : NumericType → Bool
  | bigInteger | bigDecimal => true
  | _ => false

def isReference (t : NumericType) : Bool := !t.isPrimitive

def isFloating : NumericType → Bool
  | primitive p | boxed p => p.isFloating
  | atomic a => a.width.isFloating
  | number | bigDecimal => true
  | bigInteger => false

def name : NumericType → String
  | primitive p => p.name
  | boxed .byte => "Byte"
  | boxed .short => "Short"
  | boxed .int => "Integer"
  | boxed .long => "Long"
  | boxed .float => "Float"
  | boxed .double => "Double"
  | atomic .integer => "AtomicInteger"
  | atomic .long => "AtomicLong"
  | atomic .double => "AtomicDouble"
  | bigInteger => "BigInteger"
  | bigDecimal => "BigDecimal"
  | number => "Number"

def package? : NumericType → Option String
  | primitive _ => none
  | boxed _ | number => some "java.lang"
  | atomic .integer | atomic .long => some "java.util.concurrent.atomic"
  | atomic .double => some "com.google.common.util.concurrent"
  | bigInteger | bigDecimal => some "java.math"

def qualifiedName? (t : NumericType) : Option String :=
  t.package?.map fun package => s!"{package}.{t.name}"

def ofName? (name : String) : Option NumericType :=
  all.find? fun t => t.name == name || t.qualifiedName? == some name

/-- The helper that converts any number to this type: `toByte`, `toInteger`, `toAtomicLong`. -/
def conversionHelper : NumericType → String
  | primitive .byte => "toByte"
  | primitive .short => "toShort"
  | primitive .int => "toInt"
  | primitive .long => "toLong"
  | primitive .float => "toFloat"
  | primitive .double => "toDouble"
  | t => "to" ++ t.name

end NumericType

end OperatorLowering

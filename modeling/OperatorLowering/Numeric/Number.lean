import OperatorLowering.Numeric.Binary
import OperatorLowering.Numeric.Primitive

/-!
Numbers at run time, and how they are read at another width. Integers wrap when they are narrowed;
floating-point numbers are cut toward zero and stop at the ends of the range.
-/

namespace OperatorLowering

inductive Number where
  | byte (v : Int8)
  | short (v : Int16)
  | int (v : Int32)
  | long (v : Int64)
  | float (v : Binary32)
  | double (v : Binary64)
  deriving Repr, DecidableEq, Inhabited

namespace Number

def width : Number → Primitive
  | byte _ => .byte
  | short _ => .short
  | int _ => .int
  | long _ => .long
  | float _ => .float
  | double _ => .double

def floating? : Number → Option BinaryValue
  | float v => some v.value
  | double v => some v.value
  | _ => none

def intValue : Number → Int32
  | byte v => v.toInt32
  | short v => v.toInt32
  | int v => v
  | long v => v.toInt32
  | float v => .ofInt (v.value.clamp Int32.minValue.toInt Int32.maxValue.toInt)
  | double v => .ofInt (v.value.clamp Int32.minValue.toInt Int32.maxValue.toInt)

def longValue : Number → Int64
  | byte v => v.toInt64
  | short v => v.toInt64
  | int v => v.toInt64
  | long v => v
  | float v => .ofInt (v.value.clamp Int64.minValue.toInt Int64.maxValue.toInt)
  | double v => .ofInt (v.value.clamp Int64.minValue.toInt Int64.maxValue.toInt)

/-- Bytes are read through `int`. -/
def byteValue (n : Number) : Int8 := n.intValue.toInt8

def shortValue (n : Number) : Int16 := n.intValue.toInt16

def floatValue : Number → Binary32
  | float v => v
  | double v => .ofValue v.value
  | n => .ofValue (.ofInt n.longValue.toInt)

def doubleValue : Number → Binary64
  | float v => .ofValue v.value
  | double v => v
  | n => .ofValue (.ofInt n.longValue.toInt)

def read (n : Number) : Primitive → Number
  | .byte => byte n.byteValue
  | .short => short n.shortValue
  | .int => int n.intValue
  | .long => long n.longValue
  | .float => float n.floatValue
  | .double => double n.doubleValue

end Number

end OperatorLowering

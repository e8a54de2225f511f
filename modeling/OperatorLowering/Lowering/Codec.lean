import OperatorLowering.Expr.Codec
import OperatorLowering.Lowering
import OperatorLowering.Promotion

/-!
Lowerings as JSON values, keys in alphabetical order.
-/

namespace OperatorLowering

namespace Step

def encode : Step → Json
  | value p => .object [("Value", .string p.name)]
  | narrow p => .object [("Narrow", .string p.name)]
  | valueOf t => .object [("ValueOf", .string t.name)]
  | newInstance t => .object [("NewInstance", .string t.name)]
  | toBigInteger => .string "ToBigInteger"
  | objectToString => .string "ToString"
  | staticToString p => .object [("StaticToString", .string p.name)]

end Step

namespace Chain

def encode (chain : Chain) : Json := .array (chain.map Step.encode)

end Chain

namespace Promotion

def encode : Promotion → Json
  | primitive p => .object [("Primitive", .string p.name)]
  | power => .string "Power"
  | big t => .object [("Big", .string t.name)]

end Promotion

namespace Shape

def encode : Shape → Json
  | arithmetic op => .object [("Infix", op.encode)]
  | negate => .string "Negate"
  | power => .string "Power"
  | bigMethod op t => .object [("BigMethod", .object [("kind", .string t.name), ("op", op.encode)])]
  | conversion => .string "Conversion"
  | nothing => .string "None"

end Shape

namespace Diagnostic

def encode (d : Diagnostic) : Json :=
  .object [("code", .string d.code.name), ("message", .string d.message),
    ("offending_accessor", .ofOption .string d.accessor),
    ("severity", .string d.severity.name),
    ("span", .ofOption (fun s => .object [("end", .nat s.stop), ("start", .nat s.start)]) d.span)]

end Diagnostic

namespace Lowering

def encode (l : Lowering) : Json :=
  .object [("diagnostic", .ofOption Diagnostic.encode l.diagnostic),
    ("guards", .array (l.guards.map fun side => .object [("operand", .string side.name)])),
    ("left", Chain.encode l.left), ("result", l.result.encode),
    ("result_nullable", .bool l.resultNullable), ("right", .ofOption Chain.encode l.right),
    ("shape", l.shape.encode)]

end Lowering

end OperatorLowering

import OperatorLowering.Expr.Codec
import OperatorLowering.Json.Reader
import OperatorLowering.Program

/-!
Compilation units as JSON values and texts.
-/

namespace OperatorLowering

namespace Param

def encode (p : Param) : Json :=
  .object [("name", p.name.encode .string), ("ty", p.type.encode TypeName.encode),
    ("non_null", .bool p.nonNull)]

def decoder : Decoder Param := fun n j =>
  match Decoder.record ["name", "ty", "non_null"] n j with
  | some (n, [name, type, nonNull]) => do
    return ⟨← name.required (Spanned.decoder Decoder.string) n,
      ← type.required (Spanned.decoder TypeName.decoder) n,
      ← nonNull.withDefault false Decoder.bool n⟩
  | _ => none

end Param

namespace FeatureDecl

def encode (d : FeatureDecl) : Json :=
  .object [("id", d.id.encode), ("ret_ty", d.resultType.encode)]

def decoder : Decoder FeatureDecl := fun n j =>
  match Decoder.record ["id", "ret_ty"] n j with
  | some (n, [id, resultType]) => do
    return ⟨← id.required CallableId.decoder n, ← resultType.required TypeName.decoder n⟩
  | _ => none

end FeatureDecl

namespace Behavior

def encode (b : Behavior) : Json :=
  .object [("event", b.event.encode TypeName.encode), ("guard", .ofOption Expr.encode b.guard),
    ("body", b.body.encode), ("span", b.span.encode)]

def decoder : Decoder Behavior := fun n j =>
  match Decoder.record ["event", "guard", "body", "span"] n j with
  | some (n, [event, guard, body, span]) => do
    return ⟨← event.required (Spanned.decoder TypeName.decoder) n,
      ← guard.withDefault none Expr.decoder.option n, ← body.required Expr.decoder n,
      ← span.withDefault .zero Span.decoder n⟩
  | _ => none

end Behavior

namespace Action

def encode (a : Action) : Json :=
  .object [("name", a.name.encode .string), ("params", .array (a.params.map Param.encode)),
    ("ret_ty", .ofOption (Spanned.encode TypeName.encode) a.resultType), ("body", a.body.encode),
    ("span", a.span.encode)]

def decoder : Decoder Action := fun n j =>
  match Decoder.record ["name", "params", "ret_ty", "body", "span"] n j with
  | some (n, [name, params, resultType, body, span]) => do
    return ⟨← name.required (Spanned.decoder Decoder.string) n,
      ← params.withDefault [] Param.decoder.list n,
      ← resultType.withDefault none (Spanned.decoder TypeName.decoder).option n,
      ← body.required Expr.decoder n, ← span.withDefault .zero Span.decoder n⟩
  | _ => none

end Action

namespace Item

def encode : Item → Json
  | behavior b => .object [("Behavior", b.encode)]
  | action a => .object [("Action", a.encode)]

def decoder : Decoder Item := fun n j =>
  match Decoder.choice n j with
  | some (n, .holding "Behavior" content) => (Behavior.decoder n content).map behavior
  | some (n, .holding "Action" content) => (Action.decoder n content).map action
  | _ => none

end Item

namespace Program

def encode (p : Program) : Json :=
  .object [("items", .array (p.items.map Item.encode)),
    ("features", .array (p.features.map FeatureDecl.encode))]

def decoder : Decoder Program := fun n j =>
  match Decoder.record ["items", "features"] n j with
  | some (n, [items, features]) => do
    return ⟨← items.required Item.decoder.list n,
      ← features.withDefault [] FeatureDecl.decoder.list n⟩
  | _ => none

end Program

namespace Decoder

def nestingLimit : Nat := 127

def ofText {α : Type} (d : Decoder α) (text : String) : Option α :=
  (Json.parse text).bind (d nestingLimit)

end Decoder

end OperatorLowering

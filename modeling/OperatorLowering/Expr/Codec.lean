import OperatorLowering.Expr
import OperatorLowering.Json.Decoder

/-!
Expression trees as JSON values.
-/

namespace OperatorLowering

namespace Span

def encode (s : Span) : Json := .object [("start", .nat s.start), ("end", .nat s.stop)]

def decoder : Decoder Span := fun n j =>
  match Decoder.record ["start", "end"] n j with
  | some (n, [start, stop]) => do
    return ⟨← start.required Decoder.word n, ← stop.required Decoder.word n⟩
  | _ => none

end Span

namespace Spanned

def encode {α : Type} (encodeNode : α → Json) (s : Spanned α) : Json :=
  .object [("node", encodeNode s.node), ("span", s.span.encode)]

/-- A span that is left out is the zero span. -/
def decoder {α : Type} (d : Decoder α) : Decoder (Spanned α) := fun n j =>
  match Decoder.record ["node", "span"] n j with
  | some (n, [node, span]) => do
    return ⟨← node.required d n, ← span.withDefault .zero Span.decoder n⟩
  | _ => none

end Spanned

namespace TypeName

def encode (t : TypeName) : Json := .string t.text

def decoder : Decoder TypeName := fun n j => (Decoder.string n j).map ofName

end TypeName

namespace BinaryOp

def encode (op : BinaryOp) : Json := .string op.name

def decoder : Decoder BinaryOp := fun n j => do
  let (_, choice) ← Decoder.choice n j
  ofName? (← choice.plain?)

end BinaryOp

namespace CallableId

def encode (id : CallableId) : Json := .string id.name

def decoder : Decoder CallableId := fun n j => (Decoder.string n j).map CallableId.mk

end CallableId

namespace FeatureSlot

def encode : FeatureSlot → Json
  | linked id => .object [("Linked", id.encode)]
  | proxy text => .object [("Proxy", .string text)]

def decoder : Decoder FeatureSlot := fun n j =>
  match Decoder.choice n j with
  | some (n, .holding "Linked" content) => (CallableId.decoder n content).map linked
  | some (n, .holding "Proxy" content) => (Decoder.string n content).map proxy
  | _ => none

end FeatureSlot

namespace Expr

def negationDecoder : Decoder Unit := fun n j => do
  let (_, choice) ← Decoder.choice n j
  if (← choice.plain?) = "Neg" then some () else none

def plainNode? (span : Span) (name : String) : Option Expr :=
  if name = "Null" then some (.null span)
  else if name = "Break" then some (.breakLoop span)
  else none

def nodeWith (part : Decoder Expr) (span : Span) (name : String) : Decoder Expr := fun n j =>
  match name with
  | "IntLit" => (Decoder.int64 n j).map (.intLit span)
  | "FloatLit" => (Decoder.binary64 n j).map (.floatLit span)
  | "BoolLit" => (Decoder.bool n j).map (.boolLit span)
  | "StringLit" => (Decoder.string n j).map (.stringLit span)
  | "Var" => (Decoder.string n j).map (.var span)
  | "Binary" =>
    match Decoder.record ["left", "op", "right"] n j with
    | some (n, [left, op, right]) => do
      return .binary span (← left.required part n) (← op.required BinaryOp.decoder n)
        (← right.required part n)
    | _ => none
  | "Unary" =>
    match Decoder.record ["op", "expr"] n j with
    | some (n, [op, operand]) => do
      let _ ← op.required negationDecoder n
      return .negation span (← operand.required part n)
    | _ => none
  | "Cast" =>
    match Decoder.record ["expr", "target"] n j with
    | some (n, [operand, target]) => do
      return .cast span (← operand.required part n)
        (← target.required (Spanned.decoder TypeName.decoder) n)
    | _ => none
  | "FeatureCall" =>
    match Decoder.record ["receiver", "feature", "args"] n j with
    | some (n, [receiver, feature, args]) => do
      return .call span (← receiver.withDefault none part.option n)
        (← feature.required FeatureSlot.decoder n) (← args.withDefault [] part.list n)
    | _ => none
  | "Block" => (part.list n j).map (.block span)
  | "If" =>
    match Decoder.record ["cond", "then_branch", "else_branch"] n j with
    | some (n, [condition, thenBranch, elseBranch]) => do
      return .conditional span (← condition.required part n) (← thenBranch.required part n)
        (← elseBranch.nullable part n)
    | _ => none
  | "While" =>
    match Decoder.record ["cond", "body"] n j with
    | some (n, [condition, body]) => do
      return .whileLoop span (← condition.required part n) (← body.required part n)
    | _ => none
  | "DoWhile" =>
    match Decoder.record ["body", "cond"] n j with
    | some (n, [body, condition]) => do
      return .doWhileLoop span (← body.required part n) (← condition.required part n)
    | _ => none
  | "Return" => (part.option n j).map (.returnValue span)
  | "Throw" => (part n j).map (.throwValue span)
  | "TryCatch" =>
    match Decoder.record ["body", "catches", "finally"] n j with
    | some (n, [body, handlers, finalizer]) => do
      return .tryCatch span (← body.required part n) (← handlers.required part.list n)
        (← finalizer.nullable part n)
    | _ => none
  | "Synchronized" =>
    match Decoder.record ["lock", "body"] n j with
    | some (n, [lock, body]) => do
      return .synchronized span (← lock.required part n) (← body.required part n)
    | _ => none
  | "Opaque" => (Decoder.string n j).map (.unmodelled span)
  | _ => none

def nodeDecoder (part : Decoder Expr) (span : Span) : Decoder Expr := fun n j =>
  match Decoder.choice n j with
  | some (_, .bare name) => plainNode? span name
  | some (n, .holding name content) =>
    match content, plainNode? span name with
    | .null, some e => some e
    | content, _ => nodeWith part span name n content
  | none => none

def decoderTo : Nat → Decoder Expr
  | 0 => fun _ _ => none
  | k + 1 => fun n j =>
    match Decoder.record ["node", "span"] n j with
    | some (n, [node, span]) => do
      let span ← span.withDefault .zero Span.decoder n
      node.required (nodeDecoder (decoderTo k) span) n
    | _ => none

/-- An expression. Each level of expressions takes at least one level of nesting. -/
def decoder : Decoder Expr := fun n j => decoderTo n n j

mutual

def encode (e : Expr) : Json :=
  let node (name : String) (content : Json) : Json := .object [(name, content)]
  let content : Json :=
    match e with
    | intLit _ value => node "IntLit" (.int value.toInt)
    | floatLit _ value => node "FloatLit" (.float value)
    | boolLit _ value => node "BoolLit" (.bool value)
    | stringLit _ value => node "StringLit" (.string value)
    | null _ => .string "Null"
    | var _ name => node "Var" (.string name)
    | binary _ left op right => node "Binary" (.object
        [("left", left.encode), ("op", op.encode), ("right", right.encode)])
    | negation _ operand => node "Unary" (.object
        [("op", .string "Neg"), ("expr", operand.encode)])
    | cast _ operand target => node "Cast" (.object
        [("expr", operand.encode), ("target", target.encode TypeName.encode)])
    | call _ none feature args => node "FeatureCall" (.object
        [("receiver", .null), ("feature", feature.encode), ("args", .array (encodeAll args))])
    | call _ (some receiver) feature args => node "FeatureCall" (.object
        [("receiver", receiver.encode), ("feature", feature.encode),
          ("args", .array (encodeAll args))])
    | block _ statements => node "Block" (.array (encodeAll statements))
    | conditional _ condition thenBranch none => node "If" (.object
        [("cond", condition.encode), ("then_branch", thenBranch.encode), ("else_branch", .null)])
    | conditional _ condition thenBranch (some elseBranch) => node "If" (.object
        [("cond", condition.encode), ("then_branch", thenBranch.encode),
          ("else_branch", elseBranch.encode)])
    | whileLoop _ condition body => node "While" (.object
        [("cond", condition.encode), ("body", body.encode)])
    | doWhileLoop _ body condition => node "DoWhile" (.object
        [("body", body.encode), ("cond", condition.encode)])
    | breakLoop _ => .string "Break"
    | returnValue _ none => node "Return" .null
    | returnValue _ (some value) => node "Return" value.encode
    | throwValue _ value => node "Throw" value.encode
    | tryCatch _ body handlers none => node "TryCatch" (.object
        [("body", body.encode), ("catches", .array (encodeAll handlers)), ("finally", .null)])
    | tryCatch _ body handlers (some finalizer) => node "TryCatch" (.object
        [("body", body.encode), ("catches", .array (encodeAll handlers)),
          ("finally", finalizer.encode)])
    | synchronized _ lock body => node "Synchronized" (.object
        [("lock", lock.encode), ("body", body.encode)])
    | unmodelled _ description => node "Opaque" (.string description)
  .object [("node", content), ("span", e.span.encode)]
termination_by structural e

def encodeAll : List Expr → List Json
  | [] => []
  | e :: es => e.encode :: encodeAll es
termination_by structural es => es

end

end Expr

end OperatorLowering

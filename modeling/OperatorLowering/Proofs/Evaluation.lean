import OperatorLowering.Scope

/-!
Evaluation of lowered expressions. A value is known by its width or class; what it carries is left
to a `Machine`, which stands for the number libraries of the target language. Every other operation
than handing a value on fails on null, since it calls a method on it or unboxes it.
-/

namespace OperatorLowering

inductive Fault where
  | nullDereference
  /-- An operation was applied to values it does not take. -/
  | mismatch
  /-- An exception of the number libraries, such as a division by zero. -/
  | exception
  deriving Repr, DecidableEq, Inhabited

inductive Value (α : Type) where
  | null
  | primitive (width : Primitive) (content : α)
  | object (type : NumericType) (content : α)
  | text (content : String)
  -- A value that is neither a number nor a text.
  | other
  deriving Repr, DecidableEq, Inhabited

/-- What the number libraries compute; `none` stands for an exception. -/
structure Machine (α : Type) where
  integer : Int64 → α
  floating : Binary64 → α
  literal : String → α
  text : α → String
  convert : Step → α → Option α
  negate : α → α
  operate : Shape → α → α → Option α

namespace Primitive

def widest (p q : Primitive) : Primitive := if p.wider q then p else q

end Primitive

namespace NumericType

/-- Does the factory method of the class take a primitive value of this width? -/
def factoryTakes (t : NumericType) (width : Primitive) : Bool :=
  match t with
  | boxed p => !width.wider p
  | bigInteger => !width.wider .long
  | bigDecimal => true
  | primitive _ | atomic _ | number => false

end NumericType

namespace Value

variable {α : Type}

def isNull : Value α → Bool
  | null => true
  | _ => false

/-- Is this a value of the type? Primitive values may be narrower than their static type. -/
def Fits : Value α → TypeName → Prop
  | null, type => type.isReference = true
  | primitive width _, .numeric (.primitive p) => width.wider p = false
  | object t _, .numeric u => t.isReference = true ∧ (t = u ∨ u = .number)
  | object _ _, .object | text _, .string | text _, .object => True
  | other, .object | other, .boolean | other, .void | other, .named _ => True
  | _, _ => False

def ofResult (result : Option α) (value : α → Value α) : Except Fault (Value α) :=
  match result with
  | some content => .ok (value content)
  | none => .error .exception

end Value

variable {α : Type}

def Step.run (m : Machine α) (step : Step) (value : Value α) : Except Fault (Value α) :=
  match step, value with
  | _, .null => .error .nullDereference
  | .value p, .object _ a => Value.ofResult (m.convert step a) (.primitive p)
  | .narrow p, .primitive _ a => Value.ofResult (m.convert step a) (.primitive p)
  | .valueOf t, .primitive width a =>
    if t.factoryTakes width then Value.ofResult (m.convert step a) (.object t) else .error .mismatch
  | .newInstance (.atomic c), .primitive width a =>
    if width.wider c.width then .error .mismatch
    else Value.ofResult (m.convert step a) (.object (.atomic c))
  | .newInstance .bigDecimal, .object .bigInteger a =>
    Value.ofResult (m.convert step a) (.object .bigDecimal)
  | .toBigInteger, .object .bigDecimal a => Value.ofResult (m.convert step a) (.object .bigInteger)
  | .objectToString, .object _ a => .ok (.text (m.text a))
  | .staticToString p, .primitive width a =>
    if width.wider p then .error .mismatch else .ok (.text (m.text a))
  | _, _ => .error .mismatch

def Chain.run (m : Machine α) : Chain → Value α → Except Fault (Value α)
  | [], value => .ok value
  | step :: chain, value => step.run m value >>= Chain.run m chain

def Shape.run (m : Machine α) (shape : Shape) (left : Value α) (right : Option (Value α))
    : Except Fault (Value α) :=
  match shape, left, right with
  | .conversion, value, none => .ok value
  | .negate, .null, _ => .error .nullDereference
  | .negate, .primitive p a, none => .ok (.primitive (p.widest .int) (m.negate a))
  | .nothing, _, _ => .error .mismatch
  | _, .null, some _ | _, _, some .null => .error .nullDereference
  | .arithmetic _, .primitive p a, some (.primitive q b) =>
    Value.ofResult (m.operate shape a b) (.primitive ((p.widest q).widest .int))
  | .power, .primitive _ a, some (.primitive _ b) =>
    Value.ofResult (m.operate shape a b) (.primitive .double)
  | .bigMethod op t, .object u a, some (.object v b) =>
    if u = t ∧ v = t ∧ (op.bigMethod? t).isSome then
      Value.ofResult (m.operate shape a b) (.object t)
    else
      .error .mismatch
  | _, _, _ => .error .mismatch

namespace Lowering

/-- The value of `defaultValue`; a zero takes the width of the result. -/
def defaultResult (m : Machine α) (l : Lowering) : Value α :=
  if l.defaultValue = "null" then .null
  else
    match l.result with
    | .numeric (.primitive p) => .primitive p (m.literal l.defaultValue)
    | _ => .primitive .int (m.literal l.defaultValue)

def guardHolds (left : Value α) (right : Option (Value α)) : Side → Bool
  | .left => left.isNull
  | .right => right.any Value.isNull

/-- The value of a lowered expression for values of its operands. -/
def run (m : Machine α) (l : Lowering) (left : Value α) (right : Option (Value α))
    : Except Fault (Value α) :=
  if l.guards.any (guardHolds left right) then
    .ok (l.defaultResult m)
  else
    match l.right, right with
    | some chain, some value => do
      let a ← Chain.run m l.left left
      let b ← Chain.run m chain value
      l.shape.run m a (some b)
    | none, none => do
      let a ← Chain.run m l.left left
      l.shape.run m a none
    | _, _ => .error .mismatch

end Lowering

namespace Scope

def lowering? (s : Scope) : Expr → Option Lowering
  | .binary _ left op right =>
    match s.operandType? left, s.operandType? right with
    | some left, some right => (Lowering.resolve (.binary op) left (some right)).toOption
    | _, _ => none
  | .negation _ operand =>
    (s.operandType? operand).bind fun o => (Lowering.resolve .negate o none).toOption
  | .cast _ operand target =>
    (s.operandType? operand).bind fun o => (Lowering.resolve (.cast target.node) o none).toOption
  | _ => none

/-- Is the expression made of literals, variables, declared callables and operators to write? -/
def Lowers (s : Scope) : Expr → Prop
  | .intLit .. | .floatLit .. | .var .. => True
  | .call _ _ feature _ => (feature.linked?.bind fun id => s.features.lookup id).isSome = true
  | e@(.binary _ left _ right) =>
    s.Lowers left ∧ s.Lowers right ∧ ∃ l, s.lowering? e = some l ∧ l.shape ≠ .nothing
  | e@(.negation _ operand) | e@(.cast _ operand _) =>
    s.Lowers operand ∧ ∃ l, s.lowering? e = some l ∧ l.shape ≠ .nothing
  | _ => False
termination_by structural e => e

end Scope

namespace Expr

def isInput : Expr → Bool
  | var .. | call .. => true
  | _ => false

end Expr

/-- Values of the variables and calls in an expression, each of its declared type. -/
structure Assignment (s : Scope) (α : Type) where
  value : Expr → Value α
  fits : ∀ e type, e.isInput = true → s.typeOf? e = some type → (value e).Fits type
  nonNull : ∀ e, e.isInput = true → s.isNonNull e = true → value e ≠ .null

/-- The value of an expression, every operator evaluated by its lowering. -/
def Expr.evaluate {s : Scope} (m : Machine α) (ρ : Assignment s α)
    : Expr → Except Fault (Value α)
  | .intLit _ value => .ok (.primitive .int (m.integer value))
  | .floatLit _ value => .ok (.primitive .double (m.floating value))
  | e@(.var ..) | e@(.call ..) => .ok (ρ.value e)
  | e@(.binary _ left _ right) => do
    let a ← left.evaluate m ρ
    let b ← right.evaluate m ρ
    match s.lowering? e with
    | some l => l.run m a (some b)
    | none => .error .mismatch
  | e@(.negation _ operand) | e@(.cast _ operand _) => do
    let a ← operand.evaluate m ρ
    match s.lowering? e with
    | some l => l.run m a none
    | none => .error .mismatch
  | _ => .error .mismatch
termination_by structural e => e

def Expr.evaluated : Expr → List Expr
  | e@(.binary _ left _ right) => e :: (left.evaluated ++ right.evaluated)
  | e@(.negation _ operand) | e@(.cast _ operand _) => e :: operand.evaluated
  | e => [e]
termination_by structural e => e

end OperatorLowering

import OperatorLowering.Query
import OperatorLowering.Token.Lexer

/-!
Reading a query from its tokens.

```text
query   := operand binop operand | '-' operand | operand 'as' name
operand := [name ':'] name ['!' | '?']
```

The whole query is read before any type name is looked up. An operand ends as soon as the next token
is `as`, a binary operator or the end of the query.

What is expected where is taken to be as follows. Each place has its list of the tokens that can
come next; the markers of an operand are on it until the operand has ended, which it has even if the
token that ends it is then refused.
-/

namespace OperatorLowering

def BinaryOp.ofToken? : Token → Option BinaryOp
  | .plus => some .add
  | .minus => some .sub
  | .star => some .mul
  | .slash => some .div
  | .percent => some .mod
  | .starStar => some .pow
  | _ => none

namespace Query

inductive Marker where
  | nonNull
  | nullable
  deriving Repr, DecidableEq, Inhabited

structure OperandForm where
  name : Option String
  typeName : Spanned String
  marker : Option Marker
  span : Span
  deriving Repr, DecidableEq, Inhabited

inductive OperatorForm where
  | binary (op : BinaryOp)
  | negate
  | cast (target : String)
  deriving Repr, DecidableEq, Inhabited

structure Form where
  operator : OperatorForm
  left : OperandForm
  right : Option OperandForm
  span : Span
  deriving Repr, DecidableEq, Inhabited

inductive Place where
  | first
  | final
  deriving Repr, DecidableEq, Inhabited

namespace TokenClass

/-- What ends a first operand, apart from the cast keyword. -/
def binaryOps : List TokenClass :=
  [.symbol .plus, .symbol .minus, .symbol .starStar, .symbol .star, .symbol .slash,
    .symbol .percent]

def markers : List TokenClass := [.symbol .bang, .symbol .question]

/-- After a complete first operand. -/
def operators : List TokenClass := .symbol .asKeyword :: binaryOps

def afterName : Place → List TokenClass
  | .first => [.symbol .asKeyword, .symbol .colon] ++ markers ++ binaryOps
  | .final => .symbol .colon :: markers

def afterType : Place → List TokenClass
  | .first => .symbol .asKeyword :: markers ++ binaryOps
  | .final => markers

end TokenClass

def endsOperand (t : Token) : Bool := t == .asKeyword || (BinaryOp.ofToken? t).isSome

/--
The end of an operand, from the marker on. `expected` lists what could go on here.
-/
def readMarker (name : Option String) (typeName : Spanned String) (start : Nat)
    (expected : List TokenClass)
    : List (Spanned Token) → Except GrammarError (OperandForm × List (Spanned Token))
  | ⟨.bang, s⟩ :: rest => .ok (⟨name, typeName, some .nonNull, ⟨start, s.stop⟩⟩, rest)
  | ⟨.question, s⟩ :: rest => .ok (⟨name, typeName, some .nullable, ⟨start, s.stop⟩⟩, rest)
  | t :: rest =>
    if endsOperand t.node then
      .ok (⟨name, typeName, none, ⟨start, typeName.span.stop⟩⟩, t :: rest)
    else
      .error (.unexpected t expected)
  | [] => .ok (⟨name, typeName, none, ⟨start, typeName.span.stop⟩⟩, [])

def readOperand (place : Place) (last : Nat)
    : List (Spanned Token) → Except GrammarError (OperandForm × List (Spanned Token))
  | ⟨.ident name, s⟩ :: ⟨.colon, _⟩ :: ⟨.ident type, t⟩ :: rest =>
    readMarker (some name) ⟨type, t⟩ s.start (TokenClass.afterType place) rest
  | ⟨.ident _, _⟩ :: ⟨.colon, _⟩ :: t :: _ => .error (.unexpected t [.name])
  | [⟨.ident _, _⟩, ⟨.colon, c⟩] => .error (.unfinished c.stop [.name])
  | ⟨.ident type, t⟩ :: rest => readMarker none ⟨type, t⟩ t.start (TokenClass.afterName place) rest
  | t :: _ => .error (.unexpected t [.name])
  | [] => .error (.unfinished last [.name])

def readEnd (form : Form) : List (Spanned Token) → Except GrammarError Form
  | [] => .ok form
  | t :: _ => .error (.unexpected t [])

def readOperator (left : OperandForm) : List (Spanned Token) → Except GrammarError Form
  | ⟨.asKeyword, _⟩ :: ⟨.ident target, t⟩ :: rest =>
    readEnd ⟨.cast target, left, none, ⟨left.span.start, t.stop⟩⟩ rest
  | ⟨.asKeyword, _⟩ :: t :: _ => .error (.unexpected t [.name])
  | [⟨.asKeyword, s⟩] => .error (.unfinished s.stop [.name])
  | t :: rest =>
    match BinaryOp.ofToken? t.node with
    | some op =>
      match readOperand .final t.span.stop rest with
      | .ok (right, rest) =>
        readEnd ⟨.binary op, left, some right, ⟨left.span.start, right.span.stop⟩⟩ rest
      | .error e => .error e
    | none => .error (.unexpected t TokenClass.operators)
  | [] => .error (.unfinished left.span.stop TokenClass.operators)

def Form.ofTokens : List (Spanned Token) → Except GrammarError Form
  | ⟨.minus, s⟩ :: rest =>
    match readOperand .final s.stop rest with
    | .ok (operand, rest) => readEnd ⟨.negate, operand, none, ⟨s.start, operand.span.stop⟩⟩ rest
    | .error e => .error e
  | ⟨.ident name, s⟩ :: rest =>
    match readOperand .first 0 (⟨.ident name, s⟩ :: rest) with
    | .ok (left, rest) => readOperator left rest
    | .error e => .error e
  | t :: _ => .error (.unexpected t [.name, .symbol .minus])
  | [] => .error (.unfinished 0 [.name, .symbol .minus])

/--
Looks up the type of an operand. A reference type is nullable unless marked otherwise, a primitive
type cannot be marked nullable.
-/
def OperandForm.resolve (form : OperandForm) (defaultName : String) : Except Error Operand :=
  match NumericType.ofName? form.typeName.node with
  | none => .error (.unknownType form.typeName)
  | some type =>
    let operand nullable : Operand := ⟨form.name.getD defaultName, type, nullable, form.span⟩
    match form.marker with
    | some .nonNull => .ok (operand false)
    | some .nullable =>
      if type.isReference then .ok (operand true)
      else .error (.nullablePrimitive type ⟨form.typeName.span.start, form.span.stop⟩)
    | none => .ok (operand type.isReference)

def OperatorForm.resolve : OperatorForm → Operator
  | .binary op => .binary op
  | .negate => .negate
  | .cast target => .cast (.ofName target)

/-- Looks up the types of a query, those of the left operand first. -/
def Form.resolve (form : Form) : Except Error Query :=
  match form.left.resolve "left" with
  | .error e => .error e
  | .ok left =>
    match form.right with
    | none => .ok ⟨form.operator.resolve, left, none, form.span⟩
    | some right =>
      match right.resolve "right" with
      | .error e => .error e
      | .ok right => .ok ⟨form.operator.resolve, left, some right, form.span⟩

def ofTokens (tokens : List (Spanned Token)) : Except Error Query :=
  match Form.ofTokens tokens with
  | .error e => .error (.grammar e)
  | .ok form => form.resolve

end Query

end OperatorLowering

import OperatorLowering.TypeName

/-!
Operators of the expression language and the symbols that stand for them.
-/

namespace OperatorLowering

inductive BinaryOp where
  | add | sub | mul | div | mod | pow
  deriving Repr, DecidableEq, Inhabited

namespace BinaryOp

def all : List BinaryOp := [add, sub, mul, div, mod, pow]

def text : BinaryOp → String
  | add => "+"
  | sub => "-"
  | mul => "*"
  | div => "/"
  | mod => "%"
  | pow => "**"

def name : BinaryOp → String
  | add => "Add"
  | sub => "Sub"
  | mul => "Mul"
  | div => "Div"
  | mod => "Mod"
  | pow => "Pow"

def ofName? (name : String) : Option BinaryOp := all.find? fun op => op.name == name

def isCommutative : BinaryOp → Bool
  | add | mul => true
  | _ => false

end BinaryOp

/-- The symbol of an operator, without the type a cast goes to. -/
inductive OperatorSymbol where
  | binary (op : BinaryOp)
  | negation
  | cast
  deriving Repr, DecidableEq, Inhabited

namespace OperatorSymbol

def all : List OperatorSymbol := BinaryOp.all.map binary ++ [negation, cast]

def binary? : OperatorSymbol → Option BinaryOp
  | binary op => some op
  | _ => none

def text : OperatorSymbol → String
  | binary op => op.text
  | negation => "unary -"
  | cast => "as"

def name : OperatorSymbol → String
  | binary .add => "Plus"
  | binary .sub => "Minus"
  | binary .mul => "Multiply"
  | binary .div => "Divide"
  | binary .mod => "Modulo"
  | binary .pow => "Power"
  | negation => "UnaryMinus"
  | cast => "Cast"

def ofText? (word : String) : Option OperatorSymbol :=
  match BinaryOp.all.find? fun op => op.text == word with
  | some op => some (.binary op)
  | none =>
    if word == "neg" || word == "unary-" then some .negation
    else if word == "as" || word == "cast" then some .cast
    else none

end OperatorSymbol

inductive Operator where
  | binary (op : BinaryOp)
  | negate
  | cast (target : TypeName)
  deriving Repr, DecidableEq, Inhabited

namespace Operator

def symbol : Operator → OperatorSymbol
  | binary op => .binary op
  | negate => .negation
  | cast _ => .cast

def arity : Operator → Nat
  | binary _ => 2
  | negate | cast _ => 1

def text : Operator → String
  | binary op => op.text
  | negate => "-"
  | cast target => s!"as {target.text}"

end Operator

end OperatorLowering

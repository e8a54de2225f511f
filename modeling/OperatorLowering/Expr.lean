import OperatorLowering.Numeric.Binary
import OperatorLowering.Operator
import OperatorLowering.Span

/-!
Typed expression trees. Statements are expressions: the value of a block is that of its last
statement.
-/

namespace OperatorLowering

structure CallableId where
  name : String
  deriving Repr, DecidableEq, Inhabited

namespace CallableId

def member (id : CallableId) : String := Text.lastSegment id.name

end CallableId

inductive FeatureSlot where
  | linked (id : CallableId)
  /-- A reference that was never resolved, as written. -/
  | proxy (text : String)
  deriving Repr, DecidableEq, Inhabited

namespace FeatureSlot

def linked? : FeatureSlot → Option CallableId
  | linked id => some id
  | proxy _ => none

end FeatureSlot

inductive Expr where
  | intLit (span : Span) (value : Int64)
  | floatLit (span : Span) (value : Binary64)
  | boolLit (span : Span) (value : Bool)
  | stringLit (span : Span) (value : String)
  | null (span : Span)
  | var (span : Span) (name : String)
  | binary (span : Span) (left : Expr) (op : BinaryOp) (right : Expr)
  | negation (span : Span) (operand : Expr)
  | cast (span : Span) (operand : Expr) (target : Spanned TypeName)
  | call (span : Span) (receiver : Option Expr) (feature : FeatureSlot) (args : List Expr)
  | block (span : Span) (statements : List Expr)
  | conditional (span : Span) (condition thenBranch : Expr) (elseBranch : Option Expr)
  | whileLoop (span : Span) (condition body : Expr)
  | doWhileLoop (span : Span) (body condition : Expr)
  | breakLoop (span : Span)
  | returnValue (span : Span) (value : Option Expr)
  | throwValue (span : Span) (value : Expr)
  | tryCatch (span : Span) (body : Expr) (handlers : List Expr) (finalizer : Option Expr)
  | synchronized (span : Span) (lock body : Expr)
  /-- A construct of which only a description is known. -/
  | unmodelled (span : Span) (description : String)
  deriving Repr, Inhabited

structure FeatureCall where
  receiver : Option Expr
  feature : FeatureSlot
  args : List Expr
  deriving Repr, Inhabited

namespace Expr

def span : Expr → Span
  | intLit s _ | floatLit s _ | boolLit s _ | stringLit s _ | null s | var s _ | binary s _ _ _
  | negation s _ | cast s _ _ | call s _ _ _ | block s _ | conditional s _ _ _ | whileLoop s _ _
  | doWhileLoop s _ _ | breakLoop s | returnValue s _ | throwValue s _ | tryCatch s _ _ _
  | synchronized s _ _ | unmodelled s _ => s

def isTrueLiteral : Expr → Bool
  | boolLit _ value => value
  | _ => false

def isNumberLiteral : Expr → Bool
  | intLit .. | floatLit .. => true
  | _ => false

/-- The direct parts of an expression, in the order in which they are evaluated. -/
def children : Expr → List Expr
  | intLit .. | floatLit .. | boolLit .. | stringLit .. | null _ | var .. | breakLoop _
  | unmodelled .. => []
  | binary _ left _ right => [left, right]
  | negation _ operand | cast _ operand _ | throwValue _ operand => [operand]
  | call _ receiver _ args => receiver.toList ++ args
  | block _ statements => statements
  | conditional _ condition thenBranch elseBranch =>
    condition :: thenBranch :: elseBranch.toList
  | whileLoop _ condition body => [condition, body]
  | doWhileLoop _ body condition => [body, condition]
  | returnValue _ value => value.toList
  | tryCatch _ body handlers finalizer => body :: handlers ++ finalizer.toList
  | synchronized _ lock body => [lock, body]

mutual

/-- The expression and all its parts at any depth, each one before its own parts. -/
def nodes (e : Expr) : List Expr :=
  e :: match e with
    | intLit .. | floatLit .. | boolLit .. | stringLit .. | null _ | var .. | breakLoop _
    | unmodelled .. | returnValue _ none => []
    | binary _ left _ right => left.nodes ++ right.nodes
    | negation _ operand | cast _ operand _ | throwValue _ operand => operand.nodes
    | call _ none _ args => nodesOfAll args
    | call _ (some receiver) _ args => receiver.nodes ++ nodesOfAll args
    | block _ statements => nodesOfAll statements
    | conditional _ condition thenBranch none => condition.nodes ++ thenBranch.nodes
    | conditional _ condition thenBranch (some elseBranch) =>
      condition.nodes ++ (thenBranch.nodes ++ elseBranch.nodes)
    | whileLoop _ condition body => condition.nodes ++ body.nodes
    | doWhileLoop _ body condition => body.nodes ++ condition.nodes
    | returnValue _ (some value) => value.nodes
    | tryCatch _ body handlers none => body.nodes ++ nodesOfAll handlers
    | tryCatch _ body handlers (some finalizer) =>
      body.nodes ++ (nodesOfAll handlers ++ finalizer.nodes)
    | synchronized _ lock body => lock.nodes ++ body.nodes
termination_by structural e

def nodesOfAll : List Expr → List Expr
  | [] => []
  | e :: es => e.nodes ++ nodesOfAll es
termination_by structural es => es

end

theorem nodesOfAll_eq_flatMap (es : List Expr) : nodesOfAll es = es.flatMap nodes := by
  induction es with
  | nil => rfl
  | cons e es ih => simp [nodesOfAll, ih]

theorem nodes_eq_cons (e : Expr) : e.nodes = e :: e.children.flatMap nodes := by
  cases e with
  | call _ receiver => cases receiver <;> simp [nodes, children, nodesOfAll_eq_flatMap]
  | conditional _ _ _ elseBranch => cases elseBranch <;> simp [nodes, children]
  | returnValue _ value => cases value <;> simp [nodes, children]
  | tryCatch _ _ _ finalizer =>
    cases finalizer <;> simp [nodes, children, nodesOfAll_eq_flatMap]
  | _ => simp [nodes, children, nodesOfAll_eq_flatMap]

end Expr

end OperatorLowering

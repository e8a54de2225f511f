import OperatorLowering.Expr

/-!
Compilation units: the behaviors and actions of one agent type.
-/

namespace OperatorLowering

structure Param where
  name : Spanned String
  type : Spanned TypeName
  nonNull : Bool
  deriving Repr, DecidableEq, Inhabited

structure FeatureDecl where
  id : CallableId
  resultType : TypeName
  deriving Repr, DecidableEq, Inhabited

structure Behavior where
  event : Spanned TypeName
  guard : Option Expr
  body : Expr
  span : Span
  deriving Repr, Inhabited

structure Action where
  name : Spanned String
  params : List Param
  resultType : Option (Spanned TypeName)
  body : Expr
  span : Span
  deriving Repr, Inhabited

inductive Item where
  | behavior (b : Behavior)
  | action (a : Action)
  deriving Repr, Inhabited

structure Program where
  items : List Item
  features : List FeatureDecl
  deriving Repr, Inhabited

namespace Item

def body : Item → Expr
  | behavior b => b.body
  | action a => a.body

/-- The first words of an item: `on Initialize` or `def fct`. -/
def title : Item → String
  | behavior b => s!"on {b.event.node.text}"
  | action a => s!"def {a.name.node}"

def returnsValue : Item → Bool
  | behavior _ => false
  | action a => a.resultType.any (·.node != .void)

def parts : Item → List Expr
  | behavior b => b.guard.toList ++ [b.body]
  | action a => [a.body]

end Item

end OperatorLowering

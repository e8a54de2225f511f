import OperatorLowering.Lowering.Resolve
import OperatorLowering.Program
import OperatorLowering.Resolution

/-!
Static types of expressions, from the declared types of variables and callables.
-/

namespace OperatorLowering

/-- Declared types. Of two declarations of a name the first one in the list counts. -/
structure Scope where
  variableTypes : List (String × TypeName)
  /-- Variables that were once declared never to be null. -/
  nonNull : List String
  features : List (CallableId × TypeName)
  deriving Repr, DecidableEq, Inhabited

namespace Scope

def empty : Scope := ⟨[], [], []⟩

def declare (s : Scope) (name : String) (type : TypeName) : Scope :=
  { s with variableTypes := (name, type) :: s.variableTypes }

def declareNonNull (s : Scope) (name : String) (type : TypeName) : Scope :=
  { s with variableTypes := (name, type) :: s.variableTypes, nonNull := name :: s.nonNull }

def declareParam (s : Scope) (p : Param) : Scope :=
  if p.nonNull then s.declareNonNull p.name.node p.type.node else s.declare p.name.node p.type.node

def declareParams (s : Scope) (params : List Param) : Scope := params.foldl declareParam s

def declareFeature (s : Scope) (id : CallableId) (type : TypeName) : Scope :=
  { s with features := (id, type) :: s.features }

def ofProgram (program : Program) : Scope :=
  program.features.foldl (fun s decl => s.declareFeature decl.id decl.resultType) empty

def ofItem (program : Program) : Item → Scope
  | .action a => (ofProgram program).declareParams a.params
  | .behavior b => (ofProgram program).declareNonNull "occurrence" b.event.node

/-- Literals, and variables declared so, are known never to be null. -/
def isNonNull (s : Scope) : Expr → Bool
  | .intLit .. | .floatLit .. => true
  | .var _ name => s.nonNull.contains name
  | _ => false

def operandOf (s : Scope) (e : Expr) (type : Option TypeName) : Option OperandType :=
  match type with
  | some (.numeric t) => some (if s.isNonNull e then .nonNull t else .ofType t)
  | _ => none

def resultType? (operator : Operator) (left : Option OperandType)
    (right : Option (Option OperandType)) : Option TypeName :=
  match left, right with
  | some left, none => (Lowering.resolve operator left none).toOption.map Lowering.result
  | some left, some (some right) =>
    (Lowering.resolve operator left (some right)).toOption.map Lowering.result
  | _, _ => none

mutual

def typeOf? (s : Scope) : Expr → Option TypeName
  | .intLit .. => some (.numeric (.primitive .int))
  | .floatLit .. => some (.numeric (.primitive .double))
  | .boolLit .. => some .boolean
  | .stringLit .. => some .string
  | .var _ name => s.variableTypes.lookup name
  | .binary _ left op right =>
    resultType? (.binary op) (s.operandOf left (s.typeOf? left))
      (some (s.operandOf right (s.typeOf? right)))
  | .negation _ operand => resultType? .negate (s.operandOf operand (s.typeOf? operand)) none
  | .cast _ _ target => some target.node
  | .call _ _ feature _ => feature.linked?.bind fun id => s.features.lookup id
  | .block _ statements => s.typeOfLast? statements
  | .synchronized _ _ body => s.typeOf? body
  | _ => none
termination_by structural e => e

/-- The static type of a block: that of its last statement, `void` if it has none. -/
def typeOfLast? (s : Scope) : List Expr → Option TypeName
  | [] => some .void
  | [e] => s.typeOf? e
  | _ :: e :: es => s.typeOfLast? (e :: es)
termination_by structural es => es

end

def operandType? (s : Scope) (e : Expr) : Option OperandType := s.operandOf e (s.typeOf? e)

end Scope

/-- A scope and the number of questions about static types it was asked, as a 64-bit word. -/
structure Resolver where
  scope : Scope
  resolutions : UInt64
  deriving Repr, DecidableEq, Inhabited

namespace Resolver

def ofScope (scope : Scope) : Resolver := ⟨scope, 0⟩

def count (r : Resolver) : Resolver := { r with resolutions := r.resolutions + 1 }

def resolveType (r : Resolver) (e : Expr) : Option TypeName × Resolver :=
  (r.scope.typeOf? e, r.count)

instance : TypeResolution Resolver where
  resolveType := resolveType
  isNonNull r e := (r.scope.isNonNull e, r)

end Resolver

end OperatorLowering

import OperatorLowering.Numeric.NumericType
import OperatorLowering.Text.Name

/-!
Static types of expressions, known by name.
-/

namespace OperatorLowering

inductive TypeName where
  | numeric (t : NumericType)
  | boolean
  | string
  | object
  | void
  /-- Any other reference type, by its simple or qualified name. -/
  | named (name : String)
  deriving Repr, DecidableEq, Inhabited

namespace TypeName

def ofName (name : String) : TypeName :=
  match NumericType.ofName? name with
  | some t => .numeric t
  | none =>
    if name == "boolean" then .boolean
    else if name == "String" || name == "java.lang.String" then .string
    else if name == "Object" || name == "java.lang.Object" then .object
    else if name == "void" then .void
    else .named name

def numeric? : TypeName → Option NumericType
  | numeric t => some t
  | _ => none

def isReference : TypeName → Bool
  | numeric t => t.isReference
  | boolean | void => false
  | string | object | named _ => true

def text : TypeName → String
  | numeric t => t.name
  | boolean => "boolean"
  | string => "String"
  | object => "Object"
  | void => "void"
  | named name => name

def simpleName : TypeName → String
  | named name => Text.lastSegment name
  | t => t.text

end TypeName

end OperatorLowering

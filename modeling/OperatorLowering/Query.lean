import OperatorLowering.Numeric.Suggestion
import OperatorLowering.Operator
import OperatorLowering.Span
import OperatorLowering.Token

/-!
Operator queries: an operator over typed operands, and what can be wrong with one.
-/

namespace OperatorLowering

structure Query.Operand where
  /-- The source text that stands for the operand in a lowered expression. -/
  name : String
  type : NumericType
  nullable : Bool
  span : Span
  deriving Repr, DecidableEq, Inhabited

structure Query where
  operator : Operator
  left : Query.Operand
  right : Option Query.Operand
  span : Span
  deriving Repr, DecidableEq, Inhabited

namespace Query

inductive TokenClass where
  | name
  | symbol (t : Token)
  deriving Repr, DecidableEq, Inhabited

namespace TokenClass

def text : TokenClass → String
  | name => "Ident"
  | symbol t => s!"\"{t.text}\""

end TokenClass

/--
Why a list of tokens is not a query. A parser of the grammar is taken to fail in no other way: every
token there is belongs to the grammar, a token after a complete query is one where nothing was
expected, and putting together the parts of a query never fails.
-/
inductive GrammarError where
  /-- No query starts with the tokens up to this one. -/
  | unexpected (token : Spanned Token) (expected : List TokenClass)
  /-- The tokens, of which the last one ends at `offset`, are only the beginning of a query. -/
  | unfinished (offset : Nat) (expected : List TokenClass)
  deriving Repr, DecidableEq, Inhabited

inductive Error where
  | grammar (e : GrammarError)
  | unknownType (name : Spanned String)
  /-- The span runs from the type name to the marker. -/
  | nullablePrimitive (type : NumericType) (span : Span)
  deriving Repr, DecidableEq, Inhabited

namespace GrammarError

def expectation (expected : List TokenClass) : String :=
  if expected.isEmpty then "" else
    ", expected one of " ++ ", ".intercalate (expected.map TokenClass.text)

def message : GrammarError → String
  | unexpected token expected => s!"unexpected '{token.node.text}'{expectation expected}"
  | unfinished _ expected => s!"unexpected end of query{expectation expected}"

def span : GrammarError → Span
  | unexpected token _ => token.span
  | unfinished offset _ => ⟨offset, offset⟩

end GrammarError

namespace Error

def message : Error → String
  | grammar e => e.message
  | unknownType name =>
    s!"unknown numeric type '{name.node}'" ++
      NumericType.suggestionHint (NumericType.suggest? name.node)
  | nullablePrimitive type _ => s!"primitive type '{type.name}' cannot be nullable"

def span : Error → Span
  | grammar e => e.span
  | unknownType name => name.span
  | nullablePrimitive _ span => span

end Error

end Query

end OperatorLowering

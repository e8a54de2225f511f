import OperatorLowering.Lowering.Resolve
import OperatorLowering.Query.Parser

/-!
Errors that end a unit of work: one query, one expression, one file.
-/

namespace OperatorLowering

inductive Error where
  | lexer (message : String) (span : Span)
  | parser (message : String) (span : Span)
  | unsupportedOperator (message : String)
  | config (message : String)
  | io (message : String)
  | json (message : String)
  deriving Repr, DecidableEq, Inhabited

namespace Error

def message : Error → String
  | lexer message _ | parser message _ | unsupportedOperator message | config message
  | io message | json message => message

def span? : Error → Option Span
  | lexer _ span | parser _ span => some span
  | _ => none

def spanText (span : Span) : String :=
  s!"Span \x7b start: {span.start}, end: {span.stop} \x7d"

def text : Error → String
  | lexer message span => s!"Lexer error at {spanText span}: {message}"
  | parser message span => s!"Parser error at {spanText span}: {message}"
  | unsupportedOperator message => s!"Unsupported operator: {message}"
  | config message => s!"Configuration error: {message}"
  | io message => s!"IO error: {message}"
  | json message => s!"JSON error: {message}"

/-- Only an unsupported operator has an issue code to be reported under. -/
def diagnostic? : Error → Option Diagnostic
  | unsupportedOperator message => some (.ofCode .unsupportedOperator message)
  | _ => none

def ofLexer (e : UnexpectedCharacter) : Error := .lexer e.message e.span

def ofQuery (e : Query.Error) : Error := .parser e.message e.span

def ofOperator (e : OperatorError) : Error := .unsupportedOperator e.message

end Error

namespace Query

def ofText (text : String) : Except OperatorLowering.Error Query :=
  match Token.tokenize text with
  | .error e => .error (.ofLexer e)
  | .ok tokens =>
    match ofTokens tokens with
    | .error e => .error (.ofQuery e)
    | .ok query => .ok query

end Query

end OperatorLowering

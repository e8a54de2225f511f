import OperatorLowering.Text.Quoted

/-!
The tokens of an operator query.
-/

namespace OperatorLowering

inductive Token where
  | asKeyword
  | ident (name : String)
  | colon
  /-- Marks an operand that is never null. -/
  | bang
  /-- Marks an operand that may be null. -/
  | question
  | plus
  | minus
  | starStar
  | star
  | slash
  | percent
  deriving Repr, DecidableEq, Inhabited

namespace Token

def text : Token → String
  | asKeyword => "as"
  | ident name => name
  | colon => ":"
  | bang => "!"
  | question => "?"
  | plus => "+"
  | minus => "-"
  | starStar => "**"
  | star => "*"
  | slash => "/"
  | percent => "%"

def label : Token → String
  | asKeyword => "As"
  | ident name => s!"Ident({Text.quoted name})"
  | colon => "Colon"
  | bang => "Bang"
  | question => "Question"
  | plus => "Plus"
  | minus => "Minus"
  | starStar => "StarStar"
  | star => "Star"
  | slash => "Slash"
  | percent => "Percent"

end Token

end OperatorLowering

import OperatorLowering.Span
import OperatorLowering.Token

/-!
Cutting a query into tokens. Every step takes the longest match: a name takes further dotted
segments as long as they start like a name, `**` wins over `*` and `//` over `/`. White space and
comments, which run to the end of the line, are dropped.
-/

namespace OperatorLowering

namespace Text

def byteLength : List Char → Nat
  | [] => 0
  | c :: cs => c.utf8Size + byteLength cs

end Text

structure UnexpectedCharacter where
  char : Char
  span : Span
  deriving Repr, DecidableEq, Inhabited

namespace UnexpectedCharacter

def message (e : UnexpectedCharacter) : String :=
  s!"unexpected character: {Text.quoted e.char.toString}"

end UnexpectedCharacter

namespace Token

def isNameStart (c : Char) : Bool := c.isAlpha || c == '_' || c == '$'

def isNamePart (c : Char) : Bool := isNameStart c || c.isDigit

def isSpace (c : Char) : Bool := c == ' ' || c == '\t' || c == '\n' || c == '\r'

def splitName : List Char → List Char × List Char
  | [] => ([], [])
  | '.' :: c :: cs =>
    if isNameStart c then
      let (name, rest) := splitName cs
      ('.' :: c :: name, rest)
    else
      ([], '.' :: c :: cs)
  | c :: cs =>
    if isNamePart c then
      let (name, rest) := splitName cs
      (c :: name, rest)
    else
      ([], c :: cs)

def ofName (name : String) : Token := if name == "as" then asKeyword else ident name

inductive Piece where
  | skipped
  | token (t : Token)
  deriving Repr, DecidableEq, Inhabited

/--
The piece that a text starting with `c` and going on with `cs` begins with, the characters of `cs`
that belong to it, and the characters after it.
-/
def scan (c : Char) (cs : List Char) : Option (Piece × List Char × List Char) :=
  if isSpace c then
    some (.skipped, [], cs)
  else if isNameStart c then
    let (name, rest) := splitName cs
    some (.token (ofName (String.ofList (c :: name))), name, rest)
  else
    match c, cs with
    | '/', '/' :: cs =>
      some (.skipped, '/' :: cs.takeWhile (· != '\n'), cs.dropWhile (· != '\n'))
    | '*', '*' :: cs => some (.token .starStar, ['*'], cs)
    | ':', cs => some (.token .colon, [], cs)
    | '!', cs => some (.token .bang, [], cs)
    | '?', cs => some (.token .question, [], cs)
    | '+', cs => some (.token .plus, [], cs)
    | '-', cs => some (.token .minus, [], cs)
    | '*', cs => some (.token .star, [], cs)
    | '/', cs => some (.token .slash, [], cs)
    | '%', cs => some (.token .percent, [], cs)
    | _, _ => none

theorem splitName_append (cs : List Char) : (splitName cs).1 ++ (splitName cs).2 = cs := by
  fun_induction splitName cs <;> simp_all

theorem scan_append {c : Char} {cs lexeme rest : List Char} {piece : Piece}
    (h : scan c cs = some (piece, lexeme, rest)) : lexeme ++ rest = cs := by
  unfold scan at h
  split at h
  . simp_all
  . split at h
    . simp only [Option.some.injEq, Prod.mk.injEq] at h
      rw [← h.2.1, ← h.2.2]
      exact splitName_append cs
    . split at h <;> simp only [Option.some.injEq, Prod.mk.injEq, reduceCtorEq] at h <;>
        simp [← h.2.1, ← h.2.2, List.takeWhile_append_dropWhile]

theorem length_le_of_scan {c : Char} {cs lexeme rest : List Char} {piece : Piece}
    (h : scan c cs = some (piece, lexeme, rest)) : rest.length ≤ cs.length := by
  rw [← scan_append h, List.length_append]
  omega

/-- The tokens of a text whose first character stands at byte `offset`. -/
def lex (offset : Nat) (cs : List Char) : Except UnexpectedCharacter (List (Spanned Token)) :=
  match cs with
  | [] => .ok []
  | c :: cs =>
    match h : scan c cs with
    | none => .error ⟨c, ⟨offset, offset + c.utf8Size⟩⟩
    | some (piece, lexeme, rest) =>
      have := length_le_of_scan h
      let stop := offset + c.utf8Size + Text.byteLength lexeme
      match piece with
      | .skipped => lex stop rest
      | .token t =>
        match lex stop rest with
        | .ok tokens => .ok (⟨t, ⟨offset, stop⟩⟩ :: tokens)
        | .error e => .error e
termination_by cs.length
decreasing_by all_goals exact Nat.lt_succ_of_le this

def tokenize (query : String) : Except UnexpectedCharacter (List (Spanned Token)) :=
  lex 0 query.toList

end Token

end OperatorLowering

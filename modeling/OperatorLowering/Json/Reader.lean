import OperatorLowering.Json.Number

/-!
Reading JSON texts. A text is cut into lexemes first; values are then put together on a stack of the
containers that are still open, so nesting is not limited here.
-/

namespace OperatorLowering.Json

inductive Lexeme where
  | openObject | closeObject | openArray | closeArray | colon | comma
  /-- A text, unless it holds half a surrogate pair. -/
  | text (s : Option String)
  | value (j : Json)
  deriving Repr, Inhabited

def isSpace (c : Char) : Bool := c == ' ' || c == '\t' || c == '\n' || c == '\r'

def hexDigit? (c : Char) : Option Nat :=
  if c.isDigit then some (c.toNat - '0'.toNat)
  else if 'a' ≤ c && c ≤ 'f' then some (c.toNat - 'a'.toNat + 10)
  else if 'A' ≤ c && c ≤ 'F' then some (c.toNat - 'A'.toNat + 10)
  else none

def hexValue? (value : Nat) : List Char → Option Nat
  | [] => some value
  | c :: cs =>
    match hexDigit? c with
    | some d => hexValue? (16 * value + d) cs
    | none => none

def shortEscape? : Char → Option Char
  | '"' => some '"'
  | '\\' => some '\\'
  | '/' => some '/'
  | 'b' => some '\x08'
  | 'f' => some '\x0c'
  | 'n' => some '\n'
  | 'r' => some '\r'
  | 't' => some '\t'
  | _ => none

/-- The code points of a text up to its closing quote, surrogates still apart, last one first. -/
def scanText (done : List Nat) : List Char → Option (List Nat × List Char)
  | [] => none
  | '"' :: cs => some (done, cs)
  | '\\' :: 'u' :: a :: b :: c :: d :: cs =>
    match hexValue? 0 [a, b, c, d] with
    | some n => scanText (n :: done) cs
    | none => none
  | '\\' :: c :: cs =>
    match shortEscape? c with
    | some c => scanText (c.toNat :: done) cs
    | none => none
  | c :: cs => if c.toNat < 0x20 then none else scanText (c.toNat :: done) cs

def isHighSurrogate (n : Nat) : Bool := 0xd800 ≤ n && n < 0xdc00

def isLowSurrogate (n : Nat) : Bool := 0xdc00 ≤ n && n < 0xe000

/-- Joins surrogate pairs. The code points come in reverse, and leave in order. -/
def joinSurrogates (done : List Char) : List Nat → Option (List Char)
  | [] => some done
  | [n] => if isHighSurrogate n || isLowSurrogate n then none else some (Char.ofNat n :: done)
  | n :: m :: ns =>
    if isLowSurrogate n then
      if isHighSurrogate m then
        joinSurrogates (Char.ofNat (0x10000 + 0x400 * (m - 0xd800) + (n - 0xdc00)) :: done) ns
      else none
    else if isHighSurrogate n then none
    else joinSurrogates (Char.ofNat n :: done) (m :: ns)

def scan (c : Char) (cs : List Char) : Option (Lexeme × List Char) :=
  match c, cs with
  | '\x7b', cs => some (.openObject, cs)
  | '\x7d', cs => some (.closeObject, cs)
  | '[', cs => some (.openArray, cs)
  | ']', cs => some (.closeArray, cs)
  | ':', cs => some (.colon, cs)
  | ',', cs => some (.comma, cs)
  | '"', cs => (scanText [] cs).map fun (points, rest) =>
    (.text ((joinSurrogates [] points).map String.ofList), rest)
  | 't', 'r' :: 'u' :: 'e' :: cs => some (.value (.bool true), cs)
  | 'f', 'a' :: 'l' :: 's' :: 'e' :: cs => some (.value (.bool false), cs)
  | 'n', 'u' :: 'l' :: 'l' :: cs => some (.value .null, cs)
  | c, cs => (NumberLiteral.scan (c :: cs)).map fun (literal, rest) => (.value literal.value, rest)

/-- The lexemes of a text, after those already found, which come last one first. -/
def scanAll (done : List Lexeme) (cs : List Char) : Option (List Lexeme) :=
  match cs.dropWhile isSpace with
  | [] => some done.reverse
  | c :: rest =>
    match scan c rest with
    | none => none
    | some (lexeme, after) =>
      -- every lexeme takes at least one character
      if after.length < cs.length then scanAll (lexeme :: done) after else none
termination_by cs.length

inductive Frame where
  | array (items : List Json)
  | object (members : List (Option String × Json)) (key : Option String)
  deriving Repr, Inhabited

inductive Mode where
  | value
  | valueOrEnd
  | key
  | keyOrEnd
  | colon
  | commaOrEnd
  deriving Repr, DecidableEq, Inhabited

def objectOf (members : List (Option String × Json)) : Json :=
  match members.reverse.mapM fun (key, j) => key.map fun key => (key, j) with
  | some members => .object members
  | none => .unusable

def ofText? : Option String → Json
  | some s => .string s
  | none => .unusable

def push? (j : Json) : List Frame → Option (List Frame)
  | [] => none
  | .array items :: stack => some (.array (j :: items) :: stack)
  | .object members key :: stack => some (.object ((key, j) :: members) key :: stack)

def build (mode : Mode) (stack : List Frame) : List Lexeme → Option Json
  | [] => none
  | lexeme :: rest =>
    let finish (j : Json) (stack : List Frame) : Option Json :=
      match push? j stack with
      | some stack => build .commaOrEnd stack rest
      | none => if rest.isEmpty then some j else none
    match mode, lexeme, stack with
    | .value, .openArray, stack | .valueOrEnd, .openArray, stack =>
      build .valueOrEnd (.array [] :: stack) rest
    | .value, .openObject, stack | .valueOrEnd, .openObject, stack =>
      build .keyOrEnd (.object [] none :: stack) rest
    | .value, .text s, stack | .valueOrEnd, .text s, stack => finish (ofText? s) stack
    | .value, .value j, stack | .valueOrEnd, .value j, stack => finish j stack
    | .valueOrEnd, .closeArray, .array items :: stack
    | .commaOrEnd, .closeArray, .array items :: stack => finish (.array items.reverse) stack
    | .keyOrEnd, .closeObject, .object members _ :: stack
    | .commaOrEnd, .closeObject, .object members _ :: stack => finish (objectOf members) stack
    | .key, .text s, .object members _ :: stack | .keyOrEnd, .text s, .object members _ :: stack =>
      build .colon (.object members s :: stack) rest
    | .colon, .colon, stack => build .value stack rest
    | .commaOrEnd, .comma, .array items :: stack => build .value (.array items :: stack) rest
    | .commaOrEnd, .comma, .object members key :: stack =>
      build .key (.object members key :: stack) rest
    | _, _, _ => none

def parse (text : String) : Option Json :=
  match scanAll [] text.toList with
  | some lexemes => build .value [] lexemes
  | none => none

end OperatorLowering.Json

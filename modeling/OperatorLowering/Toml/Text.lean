import OperatorLowering.Text.Reader

/-!
Blanks, comments, keys and quoted texts of TOML.
-/

namespace OperatorLowering.Toml

open Text (Reader)
open Text.Reader

def isBlank (c : Char) : Bool := c == ' ' || c == '\t'

def isPlain (c : Char) : Bool := c == '\t' || (' ' ≤ c && c != '\x7f')

def blanks : Reader Unit := do
  let _ ← run isBlank

/-- The end of a line. A carriage return counts only before a line feed. -/
def newline : Reader Unit := word ['\n'] <|> word ['\r', '\n']

def comment : Reader Unit := do
  let _ ← char '#'
  let _ ← run isPlain

def lineEnd : Reader Unit := do
  blanks
  let _ ← optional comment
  newline <|> atEnd

def filler : Reader Unit := do
  let _ ← many ((do let _ ← run1 isBlank) <|> newline <|> comment)

def isHexDigit (c : Char) : Bool :=
  c.isDigit || ('a' ≤ c && c ≤ 'f') || ('A' ≤ c && c ≤ 'F')

def digitsValue (base : Nat) (digits : List Char) : Nat :=
  digits.foldl (fun value c => base * value + digit c) 0
where
  digit (c : Char) : Nat :=
    if c.isDigit then c.toNat - '0'.toNat
    else if 'a' ≤ c then c.toNat - 'a'.toNat + 10
    else c.toNat - 'A'.toNat + 10

def codePoint (n : Nat) : Reader (List Char) := fun cs =>
  match exactly isHexDigit n cs with
  | some (digits, rest) =>
    let value := digitsValue 16 digits
    if value.isValidChar then some ([Char.ofNat value], rest) else none
  | none => none

def escaped : Reader (List Char) := do
  let _ ← char '\\'
  let c ← satisfy fun _ => true
  match c with
  | 'b' => return ['\x08']
  | 't' => return ['\t']
  | 'n' => return ['\n']
  | 'f' => return ['\x0c']
  | 'r' => return ['\r']
  | '"' => return ['"']
  | '\\' => return ['\\']
  | 'u' => codePoint 4
  | 'U' => codePoint 8
  | _ => failure

def basicText : Reader String := do
  let _ ← char '"'
  let parts ← many (run1 (fun c => isPlain c && c != '"' && c != '\\') <|> escaped)
  let _ ← char '"'
  return String.ofList parts.flatten

def literalText : Reader String := do
  let _ ← char '\''
  let content ← run fun c => isPlain c && c != '\''
  let _ ← char '\''
  return String.ofList content

/-- A backslash at the end of a line drops the line end and all blanks after it. -/
def escapedNewline : Reader (List Char) := do
  let _ ← char '\\'
  blanks
  newline
  let _ ← many ((do let _ ← run1 isBlank) <|> newline)
  return []

def fewQuotes (quote : Char) : Reader (List Char) :=
  guarded (run1 (· == quote)) fun quotes => quotes.length ≤ 2

/-- The triple quotes at the end of a text; up to two more before them belong to the text. -/
def closingQuotes (quote : Char) : Reader (List Char) := fun cs =>
  let count := min 5 (cs.takeWhile (· == quote)).length
  if 3 ≤ count then some (List.replicate (count - 3) quote, cs.drop count) else none

/-- A text in triple quotes, given its parts. A line end right after the opening is dropped. -/
def tripleQuoted (quote : Char) (part : Reader (List Char)) : Reader String := do
  word [quote, quote, quote]
  let _ ← optional newline
  let parts ← many (part <|> fewQuotes quote)
  let last ← closingQuotes quote
  return String.ofList (parts.flatten ++ last)

def lineFeed : Reader (List Char) := do
  newline
  return ['\n']

def longBasicText : Reader String :=
  tripleQuoted '"' (run1 (fun c => isPlain c && c != '"' && c != '\\') <|> lineFeed <|>
    escapedNewline <|> escaped)

def longLiteralText : Reader String :=
  tripleQuoted '\'' (run1 (fun c => isPlain c && c != '\'') <|> lineFeed)

def text : Reader String := longBasicText <|> longLiteralText <|> shortText
where
  /-- Three quotes are never the start of an empty text. -/
  shortText : Reader String := fun cs =>
    match cs with
    | '"' :: '"' :: '"' :: _ => none
    | '\'' :: '\'' :: '\'' :: _ => none
    | cs => (basicText <|> literalText) cs

def keyPart : Reader String := do
  blanks
  let part ← basicText <|> literalText <|> bareKey
  blanks
  return part
where
  bareKey : Reader String := do
    let name ← run1 fun c => c.isAlphanum || c == '_' || c == '-'
    return String.ofList name

def keyLimit : Nat := 80

/-- The parts of a dotted key: those it leads through, and the last one. -/
abbrev Key := List String × String

def key : Reader Key := do
  let first ← keyPart
  let more ← many (do let _ ← char '.'; keyPart)
  if more.length + 1 < keyLimit then
    let parts := first :: more
    return (parts.dropLast, parts.getLastD first)
  else failure

end OperatorLowering.Toml

import OperatorLowering.Toml.Text

/-!
Numbers, truth values, dates and times of TOML. Only their form and range are of interest.
-/

namespace OperatorLowering.Toml

open Text (Reader)
open Text.Reader

/-- Digits of a class; an underscore stands between two of them. -/
def digitGroup (isDigit : Char → Bool) : Reader (List Char) := do
  let first ← satisfy isDigit
  let more ← many (satisfy isDigit <|> (do let _ ← char '_'; satisfy isDigit))
  return first :: more

def isCanonical (digits : List Char) : Bool := digits.length == 1 || digits.head? != some '0'

def sign : Reader Bool := do
  match ← optional (char '+' <|> char '-') with
  | some c => return c == '-'
  | none => return false

def decimalDigits : Reader (List Char) := guarded (digitGroup Char.isDigit) isCanonical

def decimalInteger : Reader Unit := do
  let negative ← sign
  let digits ← decimalDigits
  let value := digitsValue 10 digits
  if value < Nat.pow 2 63 || (negative && value = Nat.pow 2 63) then return () else failure

def basedInteger (mark : Char) (base : Nat) (isDigit : Char → Bool) : Reader Unit := do
  word ['0', mark]
  let digits ← digitGroup isDigit
  if digitsValue base digits < Nat.pow 2 63 then return () else failure

def integer : Reader Unit :=
  basedInteger 'x' 16 isHexDigit <|> basedInteger 'o' 8 (fun c => '0' ≤ c && c ≤ '7') <|>
    basedInteger 'b' 2 (fun c => c == '0' || c == '1') <|> decimalInteger

/-- The least number that is rounded to infinity, `2 ^ 1024 - 2 ^ 970`. -/
def overflowBound : Nat := Nat.pow 2 1024 - Nat.pow 2 970

def overflows (digits : List Char) (exponent : Int) : Bool :=
  let significant := digits.dropWhile (· == '0')
  let magnitude : Int := significant.length + exponent
  if significant.isEmpty then false
  else if magnitude < 300 then false
  else if 320 < magnitude then true
  else
    let value := digitsValue 10 significant
    if 0 ≤ exponent then overflowBound ≤ value * Nat.pow 10 exponent.toNat
    else overflowBound * Nat.pow 10 (-exponent).toNat ≤ value

def fraction : Reader (List Char) := do
  let _ ← char '.'
  digitGroup Char.isDigit

def exponent : Reader Int := do
  let _ ← char 'e' <|> char 'E'
  let negative ← sign
  let value := digitsValue 10 (← digitGroup Char.isDigit)
  return if negative then -value else value

/-- A number with a fraction or an exponent. Only positive ones may be too great. -/
def decimalFloat : Reader Unit := do
  let negative ← sign
  let whole ← decimalDigits
  let part ← optional fraction
  let scale ← optional exponent
  if part.isNone && scale.isNone then failure
  let places := (part.getD []).length
  if !negative && overflows (whole ++ part.getD []) (scale.getD 0 - places) then failure

def specialFloat : Reader Unit := do
  let _ ← sign
  word ['i', 'n', 'f'] <|> word ['n', 'a', 'n']

def field (width least greatest : Nat) : Reader Nat := fun cs =>
  match exactly Char.isDigit width cs with
  | some (digits, rest) =>
    let value := digitsValue 10 digits
    if least ≤ value && value ≤ greatest then some (value, rest) else none
  | none => none

def isLeapYear (year : Nat) : Bool := year % 4 == 0 && (year % 100 != 0 || year % 400 == 0)

def daysOf (year month : Nat) : Nat :=
  if month == 2 then if isLeapYear year then 29 else 28
  else if month == 4 || month == 6 || month == 9 || month == 11 then 30
  else 31

def date : Reader Unit := do
  let year ← field 4 0 9999
  let _ ← char '-'
  let month ← field 2 1 12
  let _ ← char '-'
  let day ← field 2 1 31
  if day ≤ daysOf year month then return () else failure

/-- A time of day; a minute may have a leap second. -/
def time : Reader Unit := do
  let _ ← field 2 0 23
  let _ ← char ':'
  let _ ← field 2 0 59
  let _ ← char ':'
  let _ ← field 2 0 60
  let _ ← optional (do let _ ← char '.'; run1 Char.isDigit)

def zone : Reader Unit := (do let _ ← char 'Z' <|> char 'z') <|> do
  let _ ← char '+' <|> char '-'
  let _ ← field 2 0 23
  let _ ← char ':'
  let _ ← field 2 0 59

def moment : Reader Unit := dated <|> time
where
  dated : Reader Unit := do
    date
    let _ ← optional (do let _ ← char 'T' <|> char 't' <|> char ' '; time; optional zone)

def scalar : Reader Unit :=
  moment <|> decimalFloat <|> specialFloat <|> integer <|> word ['t', 'r', 'u', 'e'] <|>
    word ['f', 'a', 'l', 's', 'e']

end OperatorLowering.Toml

import OperatorLowering.Json
import OperatorLowering.Numeric.Shortest

/-!
Writing JSON texts, on one line or indented by two blanks a level.
-/

namespace OperatorLowering.Json

def hexPair (n : Nat) : List Char := [Nat.digitChar (n / 16), Nat.digitChar (n % 16)]

def escapeChar (c : Char) : List Char :=
  match c with
  | '"' => ['\\', '"']
  | '\\' => ['\\', '\\']
  | '\x08' => ['\\', 'b']
  | '\x0c' => ['\\', 'f']
  | '\n' => ['\\', 'n']
  | '\r' => ['\\', 'r']
  | '\t' => ['\\', 't']
  | c => if c.toNat < 0x20 then ['\\', 'u', '0', '0'] ++ hexPair c.toNat else [c]

def renderText (s : String) : String :=
  String.ofList ('"' :: s.toList.flatMap escapeChar ++ ['"'])

/--
A positive decimal: positional if the point falls among the first sixteen digits or among four zeros
before them, and with an exponent otherwise.
-/
def renderDecimal (d : Decimal) : String :=
  let digits := Nat.toDigits 10 d.digits
  let point : Int := digits.length + d.exponent
  let zeros (n : Nat) : List Char := List.replicate n '0'
  if 0 ≤ d.exponent && point ≤ 16 then
    String.ofList (digits ++ zeros d.exponent.toNat ++ ['.', '0'])
  else if 0 < point && point ≤ 16 then
    String.ofList (digits.take point.toNat ++ ['.'] ++ digits.drop point.toNat)
  else if -5 < point && point ≤ 0 then
    String.ofList (['0', '.'] ++ zeros (-point).toNat ++ digits)
  else
    let fraction := if digits.length = 1 then [] else '.' :: digits.drop 1
    String.ofList (digits.take 1 ++ fraction ++ ['e']) ++ toString (point - 1)

/-- A number of double precision; what is no number is written as null. -/
def renderFloat (x : Binary64) : String :=
  match x.value with
  | .nan | .infinite _ => "null"
  | .finite negative significand exponent =>
    let magnitude :=
      if significand = 0 then "0.0"
      else
        renderDecimal (BinaryFormat.double.shortest (x.bits.toNat % BinaryFormat.double.signBit)
          (significand * Nat.pow 2 exponent.toNat) (Nat.pow 2 (-exponent).toNat))
    if negative then "-" ++ magnitude else magnitude

def renderNumber : Num → String
  | .integer i => toString i
  | .float x => renderFloat x

mutual

def render : Json → String
  | null | unusable => "null"
  | bool b => if b then "true" else "false"
  | number n => renderNumber n
  | string s => renderText s
  | array items => "[" ++ ",".intercalate (renderAll items) ++ "]"
  | object members => "\x7b" ++ ",".intercalate (renderMembers members) ++ "\x7d"
termination_by structural j => j

def renderAll : List Json → List String
  | [] => []
  | j :: js => j.render :: renderAll js
termination_by structural js => js

def renderMembers : List (String × Json) → List String
  | [] => []
  | (key, j) :: members => (renderText key ++ ":" ++ j.render) :: renderMembers members
termination_by structural members => members

end

def newLine (level : Nat) : String := "\n" ++ "".pushn ' ' (2 * level)

def layOut (opening closing : String) (level : Nat) (parts : List String) : String :=
  if parts.isEmpty then opening ++ closing
  else
    opening ++ newLine (level + 1) ++ ("," ++ newLine (level + 1)).intercalate parts ++
      newLine level ++ closing

mutual

def renderIndented (level : Nat) : Json → String
  | null | unusable => "null"
  | bool b => if b then "true" else "false"
  | number n => renderNumber n
  | string s => renderText s
  | array items => layOut "[" "]" level (renderAllIndented (level + 1) items)
  | object members => layOut "\x7b" "\x7d" level (renderMembersIndented (level + 1) members)
termination_by structural j => j

def renderAllIndented (level : Nat) : List Json → List String
  | [] => []
  | j :: js => j.renderIndented level :: renderAllIndented level js
termination_by structural js => js

def renderMembersIndented (level : Nat) : List (String × Json) → List String
  | [] => []
  | (key, j) :: members =>
    (renderText key ++ ": " ++ j.renderIndented level) :: renderMembersIndented level members
termination_by structural members => members

end

end OperatorLowering.Json

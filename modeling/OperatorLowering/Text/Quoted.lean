import OperatorLowering.Text.Escaped

/-!
Text in double quotes, as it appears inside messages. Quotes and backslashes are preceded by a
backslash, the four common control characters have short names, every other character that does not
show is named by its code point.
-/

namespace OperatorLowering.Text

def codePointName (c : Char) : List Char :=
  ['\\', 'u', '\x7b'] ++ Nat.toDigits 16 c.toNat ++ ['\x7d']

def quoteChar (c : Char) : List Char :=
  match c with
  | '"' => ['\\', '"']
  | '\\' => ['\\', '\\']
  | '\x00' => ['\\', '0']
  | '\t' => ['\\', 't']
  | '\n' => ['\\', 'n']
  | '\r' => ['\\', 'r']
  | c => if isEscaped c then codePointName c else [c]

def quoted (s : String) : String :=
  String.ofList ('"' :: s.toList.flatMap quoteChar ++ ['"'])

end OperatorLowering.Text

import OperatorLowering.Toml.Scalar
import OperatorLowering.Toml.Table

/-!
Reading TOML documents.
-/

namespace OperatorLowering.Toml

open Text (Reader)
open Text.Reader

def separated {α : Type} (item : Reader α) : Reader (List α) := do
  match ← optional item with
  | none => return []
  | some first =>
    let more ← many (do let _ ← char ','; item)
    return first :: more

def array (value : Reader Value) : Reader Value := do
  let _ ← char '['
  let items ← separated (do filler; let v ← value; filler; return v)
  if !items.isEmpty then
    let _ ← optional (char ',')
  filler
  let _ ← char ']'
  return .array items

def pair (value : Reader Value) : Reader (Key × Value) := do
  let k ← key
  let _ ← char '='
  blanks
  return (k, ← value)

def inlineTable (value : Reader Value) : Reader Value := do
  let _ ← char '\x7b'
  let pairs ← separated (do let p ← pair value; blanks; return p)
  blanks
  let _ ← char '\x7d'
  match pairs.foldlM (fun entries (k, v) => Entries.insert k v .header entries) [] with
  | some entries => return .table (toValues entries)
  | none => failure

def value : Nat → Reader Value
  | 0 => simple
  | n + 1 => simple <|> array (value n) <|> inlineTable (value n)
where
  simple : Reader Value := (do return .string (← text)) <|> (do scalar; return .scalar)

def nestingLimit : Nat := 79

inductive Line where
  | blank
  /-- Opens a table: `[key]`. -/
  | table (key : Key)
  /-- Opens the next table of an array: `[[key]]`. -/
  | nextTable (key : Key)
  | pair (key : Key) (v : Value)
  deriving Repr, Inhabited

namespace Line

def nextHeader : Reader Line := do
  word ['[', '[']
  let k ← Toml.key
  word [']', ']']
  return .nextTable k

def header : Reader Line := do
  let _ ← char '['
  let k ← Toml.key
  let _ ← char ']'
  return .table k

def assignment : Reader Line := do
  let (k, v) ← Toml.pair (value nestingLimit)
  return .pair k v

def reader : Reader Line := do
  blanks
  let line ← nextHeader <|> header <|> assignment <|> pure .blank
  lineEnd
  return line

end Line

/-- A document that is being read: all its tables, and the path of the one that pairs go into. -/
structure Document where
  entries : Entries
  current : List String
  deriving Repr, Inhabited

namespace Document

def empty : Document := ⟨[], []⟩

def add (d : Document) : Line → Option Document
  | .blank => some d
  | .table k => (Entries.openTable k d.entries).map fun entries => ⟨entries, k.1 ++ [k.2]⟩
  | .nextTable k => (Entries.openNext k d.entries).map fun entries => ⟨entries, k.1 ++ [k.2]⟩
  | .pair k v => (Entries.alter .implied (Entries.insert k v) d.current .header d.entries).map
    fun entries => ⟨entries, d.current⟩

end Document

/-- The table of a TOML text. A byte order mark at the start is passed over. -/
def parse (source : String) : Option (List (String × Value)) :=
  let lines := whole (do
    let _ ← optional (char '\ufeff')
    many Line.reader) source
  match lines with
  | some lines => (lines.foldlM Document.add .empty).map fun d => toValues d.entries
  | none => none

end OperatorLowering.Toml

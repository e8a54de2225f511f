import OperatorLowering.Json

/-!
Reading structured data from JSON values.

A decoder gets the number of arrays and objects that may still be nested. Parts of a value that no
decoder looks at are not counted.
-/

namespace OperatorLowering

/-- Reads a value within an allowance of nested arrays and objects. -/
abbrev Decoder (α : Type) := Nat → Json → Option α

inductive Json.Field where
  | given (j : Json)
  | noKey
  | noItem
  deriving Repr, Inhabited

inductive Json.Choice where
  | bare (name : String)
  | holding (name : String) (content : Json)
  deriving Repr, Inhabited

namespace Decoder

def string : Decoder String
  | _, .string s => some s
  | _, _ => none

def bool : Decoder Bool
  | _, .bool b => some b
  | _, _ => none

def word : Decoder Nat
  | _, .number (.integer i) => if 0 ≤ i && i < UInt64.size then some i.toNat else none
  | _, _ => none

def int64 : Decoder Int64
  | _, .number (.integer i) =>
    if Int64.minValue.toInt ≤ i && i ≤ Int64.maxValue.toInt then some (.ofInt i) else none
  | _, _ => none

def binary64 : Decoder Binary64
  | _, .number x => if x.toBinary64.isFinite then some x.toBinary64 else none
  | _, _ => none

def option {α : Type} (d : Decoder α) : Decoder (Option α)
  | _, .null => some none
  | n, j => (d n j).map some

def list {α : Type} (d : Decoder α) : Decoder (List α)
  | n + 1, .array items => items.mapM (d n)
  | _, _ => none

def valuesOf (key : String) (members : List (String × Json)) : List Json :=
  (members.filter fun member => member.1 == key).map (·.2)

/-- The value of a key; a key that occurs twice is refused. -/
def field? (members : List (String × Json)) (key : String) : Option Json.Field :=
  match valuesOf key members with
  | [] => some .noKey
  | [j] => some (.given j)
  | _ => none

/--
The fields of a record, in the order of `keys`. A record is an object, in which other keys are
passed over, or the array of its fields.
-/
def record (keys : List String) : Decoder (Nat × List Json.Field)
  | n + 1, .object members => (keys.mapM (field? members)).map fun fields => (n, fields)
  | n + 1, .array items =>
    if items.length ≤ keys.length then
      some (n, items.map .given ++ List.replicate (keys.length - items.length) .noItem)
    else none
  | _, _ => none

def choice : Decoder (Nat × Json.Choice)
  | n, .string name => some (n, .bare name)
  | n + 1, .object [(name, content)] => some (n, .holding name content)
  | _, _ => none

end Decoder

namespace Json

namespace Field

def required {α : Type} (d : Decoder α) (n : Nat) : Field → Option α
  | given j => d n j
  | noKey | noItem => none

def withDefault {α : Type} (default : α) (d : Decoder α) (n : Nat) : Field → Option α
  | given j => d n j
  | noKey | noItem => some default

/-- A field that may be null, and whose key may be left out. -/
def nullable {α : Type} (d : Decoder α) (n : Nat) : Field → Option (Option α)
  | given j => d.option n j
  | noKey => some none
  | noItem => none

end Field

namespace Choice

/-- The name of an alternative that holds nothing, written alone or with null. -/
def plain? : Choice → Option String
  | bare name => some name
  | holding name .null => some name
  | _ => none

end Choice

end Json

end OperatorLowering

import OperatorLowering.Numeric.Binary

/-!
JSON values.
-/

namespace OperatorLowering

inductive Json.Num where
  /-- An integer between `-2 ^ 63` and `2 ^ 64 - 1`, written without fraction and exponent. -/
  | integer (i : Int)
  | float (x : Binary64)
  deriving Repr, DecidableEq, Inhabited

/--
A JSON value. Members of an object keep their order, and a key may occur more than once.
-/
inductive Json where
  | null
  | bool (b : Bool)
  | number (n : Json.Num)
  | string (s : String)
  | array (items : List Json)
  | object (members : List (String × Json))
  /--
  A value that is written correctly but stands for nothing: a number out of range, a text with half
  a surrogate pair, or an object with such a key.
  -/
  | unusable
  deriving Repr, Inhabited

namespace Json

def Num.toBinary64 : Num → Binary64
  | integer i => .ofValue (.ofInt i)
  | float x => x

def int (i : Int) : Json := .number (.integer i)

def nat (n : Nat) : Json := .number (.integer n)

/-- What is no finite number is written as null. -/
def float (x : Binary64) : Json := if x.isFinite then .number (.float x) else .null

def ofOption {α : Type} (encode : α → Json) : Option α → Json
  | some a => encode a
  | none => .null

mutual

def depth : Json → Nat
  | array items => depthOfAll items + 1
  | object members => depthOfMembers members + 1
  | null | bool _ | number _ | string _ | unusable => 0
termination_by structural j => j

def depthOfAll : List Json → Nat
  | [] => 0
  | j :: js => max j.depth (depthOfAll js)
termination_by structural js => js

def depthOfMembers : List (String × Json) → Nat
  | [] => 0
  | (_, j) :: members => max j.depth (depthOfMembers members)
termination_by structural members => members

end

end Json

end OperatorLowering

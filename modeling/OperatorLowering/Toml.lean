/-!
TOML values.
-/

namespace OperatorLowering.Toml

/-- A TOML value. Keys of a table are distinct. -/
inductive Value where
  | string (s : String)
  /-- A number, a truth value, a date or a time; which one makes no difference here. -/
  | scalar
  | array (items : List Value)
  | table (entries : List (String × Value))
  deriving Repr, Inhabited

end OperatorLowering.Toml

/-!
Dotted names such as `java.util.UUID`.
-/

namespace OperatorLowering.Text

/-- The part of a dotted name after its last dot; the whole name if it has none. -/
def lastSegment (name : String) : String :=
  String.ofList (name.toList.reverse.takeWhile (· != '.')).reverse

end OperatorLowering.Text

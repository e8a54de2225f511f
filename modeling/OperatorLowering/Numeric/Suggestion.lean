import OperatorLowering.Numeric.NumericType
import OperatorLowering.Text.EditDistance
import OperatorLowering.Text.Name

/-!
Suggestions for misspelt numeric type names.
-/

namespace OperatorLowering.NumericType

/--
The numeric type name closest to the last segment of `name`. The segment may be wrong in a third of
its bytes, and always in one character.
-/
def suggest? (name : String) : Option String :=
  let segment := Text.lastSegment name
  Text.closest segment (all.map NumericType.name) (max 1 (segment.utf8ByteSize / 3))

def suggestionHint : Option String → String
  | some name => s!"\n  hint: did you mean `{name}`?"
  | none => ""

end OperatorLowering.NumericType

import FrameIngest.Decimal.Text
import FrameIngest.Json.Fault
import FrameIngest.Text.Quoted

namespace FrameIngest.Json

def Found.describe : Found → String
  | .null => "null"
  | .boolean value => s!"boolean `{value}`"
  | .integer value => s!"integer `{String.ofList (Decimal.whole value)}`"
  | .float bits => s!"floating point `{String.ofList (Decimal.float bits)}`"
  | .string text => s!"string {Text.quoted text}"
  | .sequence => "sequence"
  | .mapping => "map"

/-- Names one after the other: two of them joined by "or", more as a list. -/
def alternatives (names : List String) : String :=
  match names with
  | [one] => s!"`{one}`"
  | [one, other] => s!"`{one}` or `{other}`"
  | names => "one of " ++ ", ".intercalate (names.map fun name => s!"`{name}`")

def Mismatch.message : Mismatch → String
  | .invalidType found expected => s!"invalid type: {found.describe}, expected {expected}"
  | .invalidValue found expected => s!"invalid value: {found.describe}, expected {expected}"
  | .invalidLength length expected => s!"invalid length {length}, expected {expected}"
  | .missingField name => s!"missing field `{name}`"
  | .duplicateField name => s!"duplicate field `{name}`"
  | .unknownVariant name variants =>
    s!"unknown variant `{name}`, expected {alternatives variants}"

/-- The wording of an error. Faults of the text itself are not told apart beyond their kind. -/
def Error.message : Error → String
  | .malformed => "malformed text"
  | .truncated => "text ends too early"
  | .mismatch cause => cause.message

end FrameIngest.Json

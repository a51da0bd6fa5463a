namespace FrameIngest.Json

/-- Where a text stops being JSON. -/
inductive Fault
  /-- A character that may not stand where it does. -/
  | malformed
  /-- The text ends before the value does. -/
  | truncated
  deriving DecidableEq

/-- The fault of a text that goes on with `rest` where something else is needed. -/
def Fault.before : List Char → Fault
  | [] => .truncated
  | _ :: _ => .malformed

/-- What a text holds in a place where something else is expected. -/
inductive Found
  | null
  | boolean (value : Bool)
  | integer (value : Int)
  | float (bits : UInt64)
  | string (text : String)
  | sequence
  | mapping
  deriving DecidableEq

/-- How the content of a text can differ from what is read from it. -/
inductive Mismatch
  | invalidType (found : Found) (expected : String)
  | invalidValue (found : Found) (expected : String)
  | invalidLength (length : Nat) (expected : String)
  | missingField (name : String)
  | duplicateField (name : String)
  | unknownVariant (name : String) (variants : List String)
  deriving DecidableEq

inductive Error
  | malformed
  | truncated
  | mismatch (cause : Mismatch)
  deriving DecidableEq

def Fault.toError : Fault → Error
  | .malformed => .malformed
  | .truncated => .truncated

end FrameIngest.Json

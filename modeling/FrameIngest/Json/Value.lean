import FrameIngest.Json.Number

namespace FrameIngest.Json

inductive Value
  | null
  | bool (value : Bool)
  | number (value : Number)
  | string (text : String)
  | array (items : List Value)
  | object (members : List (String × Value))
  deriving Inhabited

namespace Value

def nat (value : Nat) : Value :=
  .number (.integer value)

def int (value : Int) : Value :=
  .number (.integer value)

/-- The value of a key; of several ones the last. -/
def member? (key : String) : Value → Option Value
  | .object members => (members.reverse.find? (·.1 == key)).map (·.2)
  | _ => none

def int? : Value → Option Int
  | .number (.integer value) => some value
  | _ => none

def bool? : Value → Option Bool
  | .bool value => some value
  | _ => none

def string? : Value → Option String
  | .string text => some text
  | _ => none

/-- Puts a member in its place among members whose keys ascend; it replaces a member of the same
key. -/
def insertMember (key : String) (value : Value) : List (String × Value) → List (String × Value)
  | [] => [(key, value)]
  | (other, old) :: rest =>
    if key < other then (key, value) :: (other, old) :: rest
    else if key = other then (key, value) :: rest
    else (other, old) :: insertMember key value rest

mutual

/-- The value with the members of all its objects in canonical form. -/
def canonical : Value → Value
  | .array items => .array (canonicalItems items)
  | .object members => .object (canonicalMembers members [])
  | .null => .null
  | .bool value => .bool value
  | .number value => .number value
  | .string text => .string text

def canonicalItems : List Value → List Value
  | [] => []
  | item :: items => canonical item :: canonicalItems items

/-- Puts members one by one in their places among those that came before. -/
def canonicalMembers : List (String × Value) → List (String × Value) → List (String × Value)
  | [], placed => placed
  | (key, value) :: members, placed =>
    canonicalMembers members (insertMember key (canonical value) placed)

end

mutual

/-- Whether two values are the same, member for member in the order of their texts. -/
def same : Value → Value → Bool
  | .null, .null => true
  | .bool a, .bool b => a == b
  | .number a, .number b => a == b
  | .string a, .string b => a == b
  | .array a, .array b => sameItems a b
  | .object a, .object b => sameMembers a b
  | _, _ => false

def sameItems : List Value → List Value → Bool
  | [], [] => true
  | a :: as, b :: bs => same a b && sameItems as bs
  | _, _ => false

def sameMembers : List (String × Value) → List (String × Value) → Bool
  | [], [] => true
  | (k, a) :: as, (l, b) :: bs => k == l && same a b && sameMembers as bs
  | _, _ => false

end

instance : BEq Value := ⟨same⟩

end Value

end FrameIngest.Json

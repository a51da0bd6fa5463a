import FrameIngest.Json.Node
import FrameIngest.Json.Value

namespace FrameIngest.Json

/-- The state in which a reader meets a part of the text. -/
structure Reading where
  /-- How many more brackets may be open at a time. -/
  depth : Nat
  /-- Whether this part of the text has been read before, and found to be free of faults. A list
  that is too long is then a matter of its length, and no fault of the text. -/
  again : Bool

/-- A text may have 127 brackets open at a time. -/
def Reading.start : Reading :=
  ⟨127, false⟩

/-- Opens a bracket. -/
def Reading.enter (reading : Reading) : Except Error Reading :=
  match reading.depth with
  | 0 => .error .malformed
  | depth + 1 => .ok { reading with depth }

def liftFault (result : Except Fault α) : Except Error α :=
  result.mapError Fault.toError

/-- A count of things, the noun in the singular or plural as needed. -/
def counted (count : Nat) (noun : String) : String :=
  if count = 1 then s!"1 {noun}" else s!"{count} {noun}s"

mutual

/-- Accepts a value that nothing is read from. Only its form matters: neither the range of its
numbers nor the pairs of its surrogates nor its depth. -/
def Node.ignore : Node → Except Error Unit
  | .word _ => .ok ()
  | .number _ => .ok ()
  | .string literal => liftFault literal.skip
  | .array items => items.ignore
  | .object members => members.ignore
  | .brokenWord fault => .error fault.toError
  | .brokenNumber _ => .error .malformed
  | .missing fault => .error fault.toError

def Items.ignore : Items → Except Error Unit
  | .close => .ok ()
  | .item value rest => do value.ignore; rest.ignore
  | .broken fault => .error fault.toError
  | .dangling fault => .error fault.toError

def Members.ignore : Members → Except Error Unit
  | .close => .ok ()
  | .member key value rest => do liftFault key.skip; value.ignore; rest.ignore
  | .bareKey key fault => do liftFault key.skip; .error fault.toError
  | .broken fault => .error fault.toError
  | .dangling fault => .error fault.toError

end

mutual

/-- Reads any value, the members of its objects in the order of the text. -/
def Node.value (reading : Reading) : Node → Except Error Value
  | .word .null => .ok .null
  | .word .true => .ok (.bool true)
  | .word .false => .ok (.bool false)
  | .number numeral => .number <$> liftFault numeral.value
  | .string literal => .string <$> liftFault literal.text
  | .array items => do .array <$> items.values (← reading.enter)
  | .object members => do .object <$> members.values (← reading.enter)
  | .brokenWord fault => .error fault.toError
  | .brokenNumber fault => .error fault.toError
  | .missing fault => .error fault.toError

def Items.values (reading : Reading) : Items → Except Error (List Value)
  | .close => .ok []
  | .item value rest => do
    let value ← value.value reading
    let values ← rest.values reading
    return value :: values
  | .broken fault => .error fault.toError
  | .dangling fault => .error fault.toError

def Members.values (reading : Reading) : Members → Except Error (List (String × Value))
  | .close => .ok []
  | .member key value rest => do
    let key ← liftFault key.text
    let value ← value.value reading
    let values ← rest.values reading
    return (key, value) :: values
  | .bareKey key fault => do
    let _ ← liftFault key.text
    .error fault.toError
  | .broken fault => .error fault.toError
  | .dangling fault => .error fault.toError

end

/-- What a number is, for a message. -/
def Number.found : Number → Found
  | .integer value => .integer value
  | .float bits => .float bits

/-- What stands in the text in place of something else. Of an array or object only the opening
bracket counts. -/
def Node.found : Node → Except Error Found
  | .word .null => .ok .null
  | .word .true => .ok (.boolean true)
  | .word .false => .ok (.boolean false)
  | .number numeral => Number.found <$> liftFault numeral.value
  | .string literal => .string <$> liftFault literal.text
  | .array _ => .ok .sequence
  | .object _ => .ok .mapping
  | .brokenWord fault => .error fault.toError
  | .brokenNumber fault => .error fault.toError
  | .missing fault => .error fault.toError

/-- The error that something else than `expected` stands in the text. -/
def Node.refuse (expected : String) (node : Node) : Except Error α := do
  .error (.mismatch (.invalidType (← node.found) expected))

/-- What is read from a part of a text. -/
abbrev Reader (α : Type) := Reading → Node → Except Error α

namespace Reader

/-- Reads a whole number between two bounds. -/
def integer (least greatest : Int) (expected : String) : Reader Int := fun _ node =>
  match node with
  | .number numeral => do
    match ← liftFault numeral.value with
    | .integer value =>
      if least ≤ value ∧ value ≤ greatest then .ok value
      else .error (.mismatch (.invalidValue (.integer value) expected))
    | .float bits => .error (.mismatch (.invalidType (.float bits) expected))
  | node => node.refuse expected

/-- Reads a natural number below a bound. -/
def natural (bound : Nat) (expected : String) : Reader Nat := fun reading node =>
  Int.toNat <$> integer 0 (bound - 1) expected reading node

/-- Reads a natural number of 32 bits. -/
def short : Reader UInt32 := fun reading node =>
  Nat.toUInt32 <$> natural UInt32.size "u32" reading node

/-- Reads a natural number of 64 bits. -/
def word : Reader UInt64 := fun reading node =>
  Nat.toUInt64 <$> natural UInt64.size "u64" reading node

/-- Reads a number of things. -/
def size : Reader UInt64 := fun reading node =>
  Nat.toUInt64 <$> natural UInt64.size "usize" reading node

/-- Reads a whole number of 64 bits. -/
def long : Reader Int64 := fun reading node =>
  Int64.ofInt <$> integer Int64.minValue.toInt Int64.maxValue.toInt "i64" reading node

def boolean : Reader Bool := fun _ node =>
  match node with
  | .word .true => .ok true
  | .word .false => .ok false
  | node => node.refuse "a boolean"

/-- Reads a string; `expected` names its role in messages. -/
def stringAs (expected : String) : Reader String := fun _ node =>
  match node with
  | .string literal => liftFault literal.text
  | node => node.refuse expected

def string : Reader String := stringAs "a string"

/-- Reads a value that may be null. -/
def optional (reader : Reader α) : Reader (Option α) := fun reading node =>
  match node with
  | .word .null => .ok none
  | node => some <$> reader reading node

/-- Reads any value into canonical form. -/
def any : Reader Value := fun reading node =>
  Value.canonical <$> node.value reading

end Reader

/-- The number of items. -/
def Items.length : Items → Nat
  | .item _ rest => rest.length + 1
  | _ => 0

/-- The error of items beyond those that are read. -/
def Items.surplus (reading : Reading) (taken : Nat) (items : Items) : Except Error Unit :=
  match items with
  | .close => .ok ()
  | .broken fault => .error fault.toError
  | .dangling _ => .error .malformed
  | .item _ rest =>
    if reading.again then
      .error (.mismatch (.invalidLength (taken + 1 + rest.length)
        (counted taken "element" ++ " in sequence")))
    else .error .malformed

namespace Reader

/-- Reads the items of an array one by one. -/
def itemsWith (reader : Reader α) (reading : Reading) : Items → Except Error (List α)
  | .close => .ok []
  | .item value rest => do
    let value ← reader reading value
    let values ← itemsWith reader reading rest
    return value :: values
  | .broken fault => .error fault.toError
  | .dangling fault => .error fault.toError

def list (reader : Reader α) : Reader (List α) := fun reading node =>
  match node with
  | .array items => do itemsWith reader (← reading.enter) items
  | node => node.refuse "a sequence"

end Reader

/-- The next item of an array that is read item by item, and those after it. -/
def Items.next? : Items → Except Error (Option (Node × Items))
  | .close => .ok none
  | .item value rest => .ok (some (value, rest))
  | .broken fault => .error fault.toError
  | .dangling fault => .error fault.toError

/-- Reads two items of one kind. -/
def Reader.pair (reader : Reader α) : Reader (α × α) := fun reading node =>
  match node with
  | .array items => do
    let reading ← reading.enter
    match ← items.next? with
    | none => .error (.mismatch (.invalidLength 0 "a tuple of size 2"))
    | some (first, items) =>
      let first ← reader reading first
      match ← items.next? with
      | none => .error (.mismatch (.invalidLength 1 "a tuple of size 2"))
      | some (second, items) =>
        let second ← reader reading second
        items.surplus reading 2
        return (first, second)
  | node => node.refuse "a tuple of size 2"

/-- Finds a variant by its name. -/
def variantNamed (variants : List (String × α)) (name : String) : Except Error α :=
  match variants.find? (·.1 == name) with
  | some variant => .ok variant.2
  | none => .error (.mismatch (.unknownVariant name (variants.map (·.1))))

/-- Reads one of several names: as a string, or as the only key of an object, with null. -/
def Reader.variant (variants : List (String × α)) : Reader α := fun reading node =>
  match node with
  | .string literal => do variantNamed variants (← liftFault literal.text)
  | .object members => do
    let _ ← reading.enter
    match members with
    | .member key value rest =>
      let variant ← variantNamed variants (← liftFault key.text)
      match value with
      | .word .null => .ok ()
      | value => value.refuse "unit"
      match rest with
      | .close => return variant
      | .broken fault => .error fault.toError
      | _ => .error .malformed
    | .bareKey key fault =>
      let _ ← variantNamed variants (← liftFault key.text)
      .error fault.toError
    | .broken fault => .error fault.toError
    | _ => .error .malformed
  | .missing fault => .error fault.toError
  | _ => .error .malformed

/-- Reads a whole text that holds one value. -/
def Document.decode (reader : Reader α) (document : Document) : Except Error α := do
  let value ← reader .start document.root
  match document.rest with
  | [] => return value
  | _ :: _ => .error .malformed

/-- Reads a value from a text. -/
def decode (reader : Reader α) (text : String) : Except Error α :=
  (Document.ofChars text.toList).decode reader

end FrameIngest.Json

import FrameIngest.Json.Decode

namespace FrameIngest.Json

/-- A field of records whose drafts have type `σ`. -/
structure Slot (σ : Type) where
  name : String
  isFilled : σ → Bool
  fill : Reading → Node → σ → Except Error σ

/-- A field that is read by `reader` and kept in one part of the draft. -/
def Slot.ofReader (name : String) (reader : Reader α) (get : σ → Option α)
    (set : σ → Option α → σ) : Slot σ where
  name
  isFilled draft := (get draft).isSome
  fill reading node draft := do return set draft (some (← reader reading node))

/-- The fields of a record in the order of their declaration, and how to complete a draft. -/
structure Shape (σ α : Type) where
  /-- What messages call the record. -/
  title : String
  slots : List (Slot σ)
  blank : σ
  /-- The record, or the name of the first field that may not be missing and is. -/
  complete : σ → Except String α

/-- The part of a draft that a record must have. -/
def require (name : String) (part : Option α) : Except String α :=
  match part with
  | some value => .ok value
  | none => .error name

namespace Shape

/-- What messages call the record when it is written as an array. -/
def arrayTitle (shape : Shape σ α) : String :=
  shape.title ++ " with " ++ counted shape.slots.length "element"

/-- Fills slots in order with the items of an array, as far as they go. -/
def fillInOrder (reading : Reading) : List (Slot σ) → Items → σ → Except Error (σ × Items)
  | [], items, draft => .ok (draft, items)
  | slot :: slots, items, draft => do
    match ← items.next? with
    | none => return (draft, items)
    | some (value, rest) =>
      let draft ← slot.fill reading value draft
      fillInOrder reading slots rest draft

/-- The slot that a key belongs to; it must not be filled yet. -/
def slotFor (slots : List (Slot σ)) (key : String) (draft : σ) :
    Except Error (Option (Slot σ)) :=
  match slots.find? (·.name == key) with
  | none => .ok none
  | some slot =>
    if slot.isFilled draft then .error (.mismatch (.duplicateField slot.name))
    else .ok (some slot)

/-- Fills slots with the members of an object, as they come. -/
def fillByName (slots : List (Slot σ)) (reading : Reading) :
    Members → σ → Except Error σ
  | .close, draft => .ok draft
  | .member key value rest, draft => do
    let key ← liftFault key.text
    match ← slotFor slots key draft with
    | none =>
      value.ignore
      fillByName slots reading rest draft
    | some slot =>
      let draft ← slot.fill reading value draft
      fillByName slots reading rest draft
  | .bareKey key fault, draft => do
    let key ← liftFault key.text
    let _ ← slotFor slots key draft
    .error fault.toError
  | .broken fault, _ => .error fault.toError
  | .dangling fault, _ => .error fault.toError

/-- Reads a record from the items of an array. -/
def ofItems (shape : Shape σ α) (reading : Reading) (items : Items) : Except Error α := do
  let (draft, rest) ← fillInOrder reading shape.slots items shape.blank
  match shape.complete draft with
  | .ok record =>
    rest.surplus reading shape.slots.length
    return record
  | .error name =>
    .error (.mismatch (.invalidLength (shape.slots.findIdx (·.name == name)) shape.arrayTitle))

/-- Reads a record from the members of an object. -/
def ofMembers (shape : Shape σ α) (reading : Reading) (members : Members) : Except Error α := do
  let draft ← fillByName shape.slots reading members shape.blank
  match shape.complete draft with
  | .ok record => return record
  | .error name => .error (.mismatch (.missingField name))

def reader (shape : Shape σ α) : Reader α := fun reading node =>
  match node with
  | .array items => do shape.ofItems (← reading.enter) items
  | .object members => do shape.ofMembers (← reading.enter) members
  | node => node.refuse shape.title

end Shape

/-- Reads the name of a variant. -/
def Reader.tag (variants : List (String × α)) : Reader α := fun reading node => do
  variantNamed variants (← Reader.stringAs "variant identifier" reading node)

/-- A variant named by a member of an object or by the first item of an array, with the other
members or items, which are free of faults. -/
inductive Tagged (α : Type)
  | inMembers (variant : α) (members : Members)
  | inItems (variant : α) (items : Items)

namespace Tagged

/-- Takes the member `name` out of the members of an object, and checks the other ones. -/
def takeTag (name : String) (variants : List (String × α)) (reading : Reading) :
    Members → Option α → Except Error (Option α × Members)
  | .close, found => .ok (found, .close)
  | .member key value rest, found => do
    let text ← liftFault key.text
    if text = name then
      if found.isSome then .error (.mismatch (.duplicateField name))
      else
        let variant ← Reader.tag variants reading value
        takeTag name variants reading rest (some variant)
    else
      let _ ← value.value reading
      let (found, rest) ← takeTag name variants reading rest found
      return (found, .member key value rest)
  | .bareKey key fault, found => do
    let text ← liftFault key.text
    if text = name ∧ found.isSome then .error (.mismatch (.duplicateField name))
    else .error fault.toError
  | .broken fault, _ => .error fault.toError
  | .dangling fault, _ => .error fault.toError

/-- Reads the tag of a value and checks the rest of it. -/
def reader (name title : String) (variants : List (String × α)) : Reader (Reading × Tagged α) :=
  fun reading node =>
    match node with
    | .object members => do
      let reading ← reading.enter
      match ← takeTag name variants reading members none with
      | (some variant, members) =>
        return ({ reading with again := true }, inMembers variant members)
      | (none, _) => .error (.mismatch (.missingField name))
    | .array items => do
      let reading ← reading.enter
      match ← items.next? with
      | none => .error (.mismatch (.missingField name))
      | some (first, rest) =>
        let variant ← Reader.tag variants reading first
        let _ ← rest.values reading
        return ({ reading with again := true }, inItems variant rest)
    | node => node.refuse title

/-- The variant that the tag names. -/
def variant : Tagged α → α
  | inMembers variant _ => variant
  | inItems variant _ => variant

/-- Reads the fields of a variant from what stands beside the tag. -/
def record (shape : Shape σ β) (reading : Reading) : Tagged α → Except Error β
  | inMembers _ members => shape.ofMembers reading members
  | inItems _ items => shape.ofItems reading items

end Tagged

end FrameIngest.Json

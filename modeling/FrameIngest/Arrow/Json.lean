import FrameIngest.Arrow.Type
import FrameIngest.Json.Value

namespace FrameIngest

open Json

/-- Finds what has a given name. -/
def named? (all : List α) (name : α → String) : Value → Option α
  | .string text => all.find? (name · == text)
  | _ => none

/-- A type with parameters. -/
def variantValue (name : String) (value : Value) : Value :=
  .object [(name, value)]

/-- Text metadata of a field. -/
def metadataValue (metadata : List (String × String)) : Value :=
  .object (metadata.map fun entry => (entry.1, .string entry.2))

mutual

def ArrowType.toJson : ArrowType → Value
  | .scalar type => .string type.name
  | .timestamp unit zone =>
    variantValue "Timestamp" (.array [.string unit.name, (zone.map Value.string).getD .null])
  | .time32 unit => variantValue "Time32" (.string unit.name)
  | .time64 unit => variantValue "Time64" (.string unit.name)
  | .duration unit => variantValue "Duration" (.string unit.name)
  | .interval unit => variantValue "Interval" (.string unit.name)
  | .fixedSizeBinary width => variantValue "FixedSizeBinary" (.int width)
  | .decimal128 digits scale => variantValue "Decimal128" (.array [.nat digits, .int scale])
  | .decimal256 digits scale => variantValue "Decimal256" (.array [.nat digits, .int scale])
  | .list kind item => variantValue kind.name item.toJson
  | .fixedSizeList item size => variantValue "FixedSizeList" (.array [item.toJson, .int size])
  | .struct fields => variantValue "Struct" (.array (fieldsToJson fields))
  | .union fields mode =>
    variantValue "Union" (.array [.array (variantsToJson fields), .string mode.name])
  | .dictionary key value => variantValue "Dictionary" (.array [key.toJson, value.toJson])
  | .map entries sorted => variantValue "Map" (.array [entries.toJson, .bool sorted])
  | .runEndEncoded ends values =>
    variantValue "RunEndEncoded" (.array [ends.toJson, values.toJson])

def ArrowField.toJson : ArrowField → Value
  | .mk name type nullable dictionaryId dictionaryIsOrdered metadata =>
    .object [("name", .string name), ("data_type", type.toJson), ("nullable", .bool nullable),
      ("dict_id", .int dictionaryId), ("dict_is_ordered", .bool dictionaryIsOrdered),
      ("metadata", metadataValue metadata)]

def fieldsToJson : List ArrowField → List Value
  | [] => []
  | field :: fields => field.toJson :: fieldsToJson fields

def variantsToJson : List (Int × ArrowField) → List Value
  | [] => []
  | (id, field) :: fields => .array [.int id, field.toJson] :: variantsToJson fields

end

/-- The types whose only parameter is a field, a unit or a width. -/
def ArrowType.ofParameter? (name : String) (value : Value) : Option ArrowType :=
  match name with
  | "Time32" => .time32 <$> named? TimeUnit.all TimeUnit.name value
  | "Time64" => .time64 <$> named? TimeUnit.all TimeUnit.name value
  | "Duration" => .duration <$> named? TimeUnit.all TimeUnit.name value
  | "Interval" => .interval <$> named? IntervalUnit.all IntervalUnit.name value
  | "FixedSizeBinary" => .fixedSizeBinary <$> value.int?
  | _ => none

/-- The types whose parameters are neither types nor fields. -/
def ArrowType.ofParameters? (name : String) (first second : Value) : Option ArrowType :=
  match name with
  | "Timestamp" => do
    let unit ← named? TimeUnit.all TimeUnit.name first
    match second with
    | .null => some (.timestamp unit none)
    | zone => return .timestamp unit (some (← zone.string?))
  | "Decimal128" => return .decimal128 (← first.int?).toNat (← second.int?)
  | "Decimal256" => return .decimal256 (← first.int?).toNat (← second.int?)
  | _ => none

def metadata? : List (String × Value) → Option (List (String × String)) :=
  List.mapM fun entry => return (entry.1, ← entry.2.string?)

mutual

def ArrowType.ofJson? : Value → Option ArrowType
  | .string name => .scalar <$> ArrowScalar.all.find? (·.name == name)
  | .object [(name, .array [first, second])] =>
    match name with
    | "FixedSizeList" => return .fixedSizeList (← ArrowField.ofJson? first) (← second.int?)
    | "Dictionary" => return .dictionary (← ArrowType.ofJson? first) (← ArrowType.ofJson? second)
    | "Map" => return .map (← ArrowField.ofJson? first) (← second.bool?)
    | "RunEndEncoded" =>
      return .runEndEncoded (← ArrowField.ofJson? first) (← ArrowField.ofJson? second)
    | "Union" =>
      match first with
      | .array fields =>
        return .union (← variantsOfJson? fields) (← named? UnionMode.all UnionMode.name second)
      | _ => none
    | "Struct" => return .struct [← ArrowField.ofJson? first, ← ArrowField.ofJson? second]
    | name => ArrowType.ofParameters? name first second
  | .object [(name, .array fields)] =>
    if name = "Struct" then .struct <$> fieldsOfJson? fields else none
  | .object [(name, value)] =>
    match ArrowListKind.all.find? (·.name == name) with
    | some kind => .list kind <$> ArrowField.ofJson? value
    | none => ArrowType.ofParameter? name value
  | _ => none

def ArrowField.ofJson? : Value → Option ArrowField
  | .object members => do
    let type ← typeMember? members
    let field := Value.object members
    return .mk (← field.member? "name" >>= Value.string?) type
      (← field.member? "nullable" >>= Value.bool?)
      ((field.member? "dict_id" >>= Value.int?).getD 0)
      ((field.member? "dict_is_ordered" >>= Value.bool?).getD false)
      (← match field.member? "metadata" with
        | some (.object entries) => metadata? entries
        | _ => some [])
  | _ => none

/-- The type among the members of a field. -/
def typeMember? : List (String × Value) → Option ArrowType
  | [] => none
  | (key, value) :: members =>
    if key = "data_type" then ArrowType.ofJson? value else typeMember? members

def fieldsOfJson? : List Value → Option (List ArrowField)
  | [] => some []
  | field :: fields => return (← ArrowField.ofJson? field) :: (← fieldsOfJson? fields)

def variantsOfJson? : List Value → Option (List (Int × ArrowField))
  | [] => some []
  | .array [id, field] :: fields =>
    return (← id.int?, ← ArrowField.ofJson? field) :: (← variantsOfJson? fields)
  | _ => none

end

end FrameIngest

import FrameIngest.DataType
import FrameIngest.Text.Quoted

namespace FrameIngest

inductive TimeUnit
  | second | millisecond | microsecond | nanosecond
  deriving DecidableEq

inductive IntervalUnit
  | yearMonth | dayTime | monthDayNano
  deriving DecidableEq

inductive UnionMode
  | sparse | dense
  deriving DecidableEq

namespace TimeUnit

def all : List TimeUnit := [second, millisecond, microsecond, nanosecond]

def name : TimeUnit → String
  | second => "Second"
  | millisecond => "Millisecond"
  | microsecond => "Microsecond"
  | nanosecond => "Nanosecond"

end TimeUnit

namespace IntervalUnit

def all : List IntervalUnit := [yearMonth, dayTime, monthDayNano]

def name : IntervalUnit → String
  | yearMonth => "YearMonth"
  | dayTime => "DayTime"
  | monthDayNano => "MonthDayNano"

end IntervalUnit

namespace UnionMode

def all : List UnionMode := [sparse, dense]

def name : UnionMode → String
  | sparse => "Sparse"
  | dense => "Dense"

end UnionMode

/-- The Arrow types that have neither parameters nor parts. -/
inductive ArrowScalar
  | null | boolean
  | int8 | int16 | int32 | int64
  | uint8 | uint16 | uint32 | uint64
  | float16 | float32 | float64
  | date32 | date64
  | binary | largeBinary | binaryView
  | utf8 | largeUtf8 | utf8View
  deriving DecidableEq

namespace ArrowScalar

def all : List ArrowScalar :=
  [null, boolean, int8, int16, int32, int64, uint8, uint16, uint32, uint64, float16, float32,
    float64, date32, date64, binary, largeBinary, binaryView, utf8, largeUtf8, utf8View]

def name : ArrowScalar → String
  | null => "Null"
  | boolean => "Boolean"
  | int8 => "Int8"
  | int16 => "Int16"
  | int32 => "Int32"
  | int64 => "Int64"
  | uint8 => "UInt8"
  | uint16 => "UInt16"
  | uint32 => "UInt32"
  | uint64 => "UInt64"
  | float16 => "Float16"
  | float32 => "Float32"
  | float64 => "Float64"
  | date32 => "Date32"
  | date64 => "Date64"
  | binary => "Binary"
  | largeBinary => "LargeBinary"
  | binaryView => "BinaryView"
  | utf8 => "Utf8"
  | largeUtf8 => "LargeUtf8"
  | utf8View => "Utf8View"

end ArrowScalar

/-- The Arrow types that hold one field repeatedly. -/
inductive ArrowListKind
  | list | listView | largeList | largeListView
  deriving DecidableEq

namespace ArrowListKind

def all : List ArrowListKind := [list, listView, largeList, largeListView]

def name : ArrowListKind → String
  | list => "List"
  | listView => "ListView"
  | largeList => "LargeList"
  | largeListView => "LargeListView"

end ArrowListKind

mutual

inductive ArrowType
  | scalar (type : ArrowScalar)
  | timestamp (unit : TimeUnit) (zone : Option String)
  | time32 (unit : TimeUnit)
  | time64 (unit : TimeUnit)
  | duration (unit : TimeUnit)
  | interval (unit : IntervalUnit)
  | fixedSizeBinary (width : Int)
  | decimal128 (digits : Nat) (scale : Int)
  | decimal256 (digits : Nat) (scale : Int)
  | list (kind : ArrowListKind) (item : ArrowField)
  | fixedSizeList (item : ArrowField) (size : Int)
  | struct (fields : List ArrowField)
  | union (fields : List (Int × ArrowField)) (mode : UnionMode)
  | dictionary (key : ArrowType) (value : ArrowType)
  | map (entries : ArrowField) (sorted : Bool)
  | runEndEncoded (ends : ArrowField) (values : ArrowField)

/-- A named part of an Arrow type or schema. -/
inductive ArrowField
  | mk (name : String) (type : ArrowType) (nullable : Bool) (dictionaryId : Int)
      (dictionaryIsOrdered : Bool) (metadata : List (String × String))

end

mutual

/-- The text in which messages show an Arrow type. -/
def ArrowType.describe : ArrowType → String
  | .scalar type => type.name
  | .timestamp unit none => s!"Timestamp({unit.name}, None)"
  | .timestamp unit (some zone) => s!"Timestamp({unit.name}, Some({Text.quoted zone}))"
  | .time32 unit => s!"Time32({unit.name})"
  | .time64 unit => s!"Time64({unit.name})"
  | .duration unit => s!"Duration({unit.name})"
  | .interval unit => s!"Interval({unit.name})"
  | .fixedSizeBinary width => s!"FixedSizeBinary({width})"
  | .decimal128 digits scale => s!"Decimal128({digits}, {scale})"
  | .decimal256 digits scale => s!"Decimal256({digits}, {scale})"
  | .list kind item => s!"{kind.name}({item.describe})"
  | .fixedSizeList item size => s!"FixedSizeList({item.describe}, {size})"
  | .struct fields => "Struct([" ++ ", ".intercalate (describeFields fields) ++ "])"
  | .union fields mode =>
    "Union([" ++ ", ".intercalate (describeVariants fields) ++ s!"], {mode.name})"
  | .dictionary key value => s!"Dictionary({key.describe}, {value.describe})"
  | .map entries sorted => s!"Map({entries.describe}, {sorted})"
  | .runEndEncoded ends values => s!"RunEndEncoded({ends.describe}, {values.describe})"

def ArrowField.describe : ArrowField → String
  | .mk name type nullable dictionaryId dictionaryIsOrdered metadata =>
    "Field \x7b name: " ++ Text.quoted name ++ ", data_type: " ++ type.describe ++
      s!", nullable: {nullable}, dict_id: {dictionaryId}" ++
      s!", dict_is_ordered: {dictionaryIsOrdered}, metadata: " ++ "\x7b" ++
      ", ".intercalate (metadata.map fun entry => Text.quoted entry.1 ++ ": " ++
        Text.quoted entry.2) ++ "\x7d \x7d"

def describeFields : List ArrowField → List String
  | [] => []
  | field :: fields => field.describe :: describeFields fields

def describeVariants : List (Int × ArrowField) → List String
  | [] => []
  | (id, field) :: fields => s!"({id}, {field.describe})" :: describeVariants fields

end

namespace DataType

/-- The column type for an Arrow type. Strings without an encoding of their own are kept as bytes,
and a time counts only in nanoseconds, whatever its zone. -/
def ofArrow? : ArrowType → Option DataType
  | .scalar .int8 => some int8
  | .scalar .int16 => some int16
  | .scalar .int32 => some int32
  | .scalar .int64 => some int64
  | .scalar .uint8 => some uint8
  | .scalar .uint16 => some uint16
  | .scalar .uint32 => some uint32
  | .scalar .uint64 => some uint64
  | .scalar .float32 => some float32
  | .scalar .float64 => some float64
  | .scalar .boolean => some bool8
  | .timestamp .nanosecond _ => some nanosecondsUtc64
  | .scalar .utf8 | .scalar .largeUtf8 => some utf8Dynamic64
  | .scalar .binary | .scalar .largeBinary => some asciiDynamic64
  | .fixedSizeBinary _ => some asciiFixed64
  | .scalar .null => some empty
  | _ => none

/-- The Arrow type for a column type. The width of fixed-width strings, if it is known, is kept in
32 bits with sign; without it they count as bytes of any length. -/
def toArrow (type : DataType) (width : Option Nat) : ArrowType :=
  match type with
  | int8 => .scalar .int8
  | int16 => .scalar .int16
  | int32 => .scalar .int32
  | int64 => .scalar .int64
  | uint8 => .scalar .uint8
  | uint16 => .scalar .uint16
  | uint32 => .scalar .uint32
  | uint64 => .scalar .uint64
  | float32 => .scalar .float32
  | float64 => .scalar .float64
  | bool8 => .scalar .boolean
  | nanosecondsUtc64 => .timestamp .nanosecond (some "UTC")
  | asciiDynamic64 => .scalar .binary
  | utf8Dynamic64 => .scalar .utf8
  | asciiFixed64 | utf8Fixed64 =>
    match width with
    | some width => .fixedSizeBinary (Int.bmod width UInt32.size)
    | none => .scalar .binary
  | empty => .scalar .null

theorem ofArrow?_toArrow {type : DataType} (width : Option Nat)
    (notFixed : type.isFixedString = false) : ofArrow? (type.toArrow width) = some type := by
  cases type with
  | asciiFixed64 | utf8Fixed64 => exact absurd notFixed (by decide)
  | _ => rfl

end DataType

end FrameIngest

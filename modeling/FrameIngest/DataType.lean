namespace FrameIngest

/-- The element types that plain data is made of. -/
inductive Element
  | u8 | u16 | u32 | u64 | i8 | i16 | i32 | i64 | f32 | f64
  deriving DecidableEq, Inhabited

namespace Element

/-- Every element type, unsigned before signed before floating point. -/
def all : List Element := [u8, u16, u32, u64, i8, i16, i32, i64, f32, f64]

def width : Element → Nat
  | u8 | i8 => 1
  | u16 | i16 => 2
  | u32 | i32 | f32 => 4
  | u64 | i64 | f64 => 8

def name : Element → String
  | u8 => "u8"
  | u16 => "u16"
  | u32 => "u32"
  | u64 => "u64"
  | i8 => "i8"
  | i16 => "i16"
  | i32 => "i32"
  | i64 => "i64"
  | f32 => "f32"
  | f64 => "f64"

def ofName? (name : String) : Option Element :=
  all.find? (·.name == name)

def isFloat : Element → Bool
  | f32 | f64 => true
  | _ => false

def isSigned : Element → Bool
  | i8 | i16 | i32 | i64 => true
  | _ => false

/-- Whether a bit pattern counts as absent in a sparse column: the NaNs of a floating point type,
which have all exponent bits and some fraction bit set, and nothing else. -/
def isMissing (element : Element) (bits : Nat) : Bool :=
  match element with
  | f32 => 0x7f800000 < bits % 0x80000000
  | f64 => 0x7ff0000000000000 < bits % 0x8000000000000000
  | _ => false

theorem width_pos (element : Element) : 0 < element.width := by
  cases element <;> decide

theorem isMissing_eq_false {element : Element} (bits : Nat) (exact : element.isFloat = false) :
    element.isMissing bits = false := by
  cases element <;> simp_all [isFloat, isMissing]

end Element

/-- A type of plain data, of which any bytes of its width make a value, wherever they lie. -/
structure PlainType where
  name : String
  width : Nat
  width_pos : 0 < width
  deriving DecidableEq

def Element.plain (element : Element) : PlainType :=
  ⟨element.name, element.width, element.width_pos⟩

instance : Coe Element PlainType := ⟨Element.plain⟩

@[simp] theorem Element.width_plain (element : Element) : element.plain.width = element.width :=
  rfl

inductive DataType
  | uint8 | uint16 | uint32 | uint64
  | int8 | int16 | int32 | int64
  | float32 | float64
  | bool8
  | nanosecondsUtc64
  | asciiFixed64 | asciiDynamic64
  | utf8Fixed64 | utf8Dynamic64
  | empty
  deriving DecidableEq, Inhabited

/-- What code for columns of numbers is written for: their type and their elements. -/
structure StaticTag where
  type : DataType
  element : Element
  deriving DecidableEq

/-- Truth values are bytes, written by the code for numbers. -/
def StaticTag.bool8 : StaticTag := ⟨.bool8, .u8⟩

/-- How the rows of a column are stored. -/
inductive Layout
  /-- One element of a number type per row, written by the code for a tag. -/
  | numeric (tag : StaticTag)
  /-- One byte per row, zero or one. -/
  | bool
  /-- Records of one width, which the source decides. -/
  | fixedString
  /-- Positions of pooled strings. -/
  | dynamicString
  /-- Rows without storage. -/
  | empty
  deriving DecidableEq

/-- Width in bytes of the position of a pooled string. -/
def stringOffsetWidth : Nat := 8

namespace DataType

/-- Every type, in the order of the wire codes. -/
def all : List DataType :=
  [uint8, uint16, uint32, uint64, int8, int16, int32, int64, float32, float64, bool8,
    nanosecondsUtc64, asciiFixed64, asciiDynamic64, utf8Fixed64, utf8Dynamic64, empty]

def name : DataType → String
  | uint8 => "UInt8"
  | uint16 => "UInt16"
  | uint32 => "UInt32"
  | uint64 => "UInt64"
  | int8 => "Int8"
  | int16 => "Int16"
  | int32 => "Int32"
  | int64 => "Int64"
  | float32 => "Float32"
  | float64 => "Float64"
  | bool8 => "Bool8"
  | nanosecondsUtc64 => "NanosecondsUtc64"
  | asciiFixed64 => "AsciiFixed64"
  | asciiDynamic64 => "AsciiDynamic64"
  | utf8Fixed64 => "Utf8Fixed64"
  | utf8Dynamic64 => "Utf8Dynamic64"
  | empty => "Empty"

def ofName? (name : String) : Option DataType :=
  all.find? (·.name == name)

/-- The wire code, from 1 to 17. -/
def code : DataType → Nat
  | uint8 => 1
  | uint16 => 2
  | uint32 => 3
  | uint64 => 4
  | int8 => 5
  | int16 => 6
  | int32 => 7
  | int64 => 8
  | float32 => 9
  | float64 => 10
  | bool8 => 11
  | nanosecondsUtc64 => 12
  | asciiFixed64 => 13
  | asciiDynamic64 => 14
  | utf8Fixed64 => 15
  | utf8Dynamic64 => 16
  | empty => 17

def ofCode? (code : Nat) : Option DataType :=
  all.find? (·.code == code)

def layout : DataType → Layout
  | uint8 => .numeric ⟨.uint8, .u8⟩
  | uint16 => .numeric ⟨.uint16, .u16⟩
  | uint32 => .numeric ⟨.uint32, .u32⟩
  | uint64 => .numeric ⟨.uint64, .u64⟩
  | int8 => .numeric ⟨.int8, .i8⟩
  | int16 => .numeric ⟨.int16, .i16⟩
  | int32 => .numeric ⟨.int32, .i32⟩
  | int64 => .numeric ⟨.int64, .i64⟩
  | float32 => .numeric ⟨.float32, .f32⟩
  | float64 => .numeric ⟨.float64, .f64⟩
  | nanosecondsUtc64 => .numeric ⟨.nanosecondsUtc64, .i64⟩
  | bool8 => .bool
  | asciiFixed64 | utf8Fixed64 => .fixedString
  | asciiDynamic64 | utf8Dynamic64 => .dynamicString
  | empty => .empty

/-- Width of a row in bytes, unless it depends on the data. -/
def fixedWidth? (type : DataType) : Option Nat :=
  match type.layout with
  | .numeric tag => some tag.element.width
  | .bool => some 1
  | .fixedString => none
  | .dynamicString => some stringOffsetWidth
  | .empty => some 0

def isNumeric (type : DataType) : Bool :=
  match type.layout with
  | .numeric _ => true
  | _ => false

def isFloat (type : DataType) : Bool :=
  match type.layout with
  | .numeric tag => tag.element.isFloat
  | _ => false

def isBool (type : DataType) : Bool :=
  type.layout = .bool

def isFixedString (type : DataType) : Bool :=
  type.layout = .fixedString

def isDynamicString (type : DataType) : Bool :=
  type.layout = .dynamicString

/-- Strings of either kind. -/
def isSequence (type : DataType) : Bool :=
  type.isFixedString || type.isDynamicString

/-- Whether strings are held to UTF-8 rather than to ASCII. -/
def isUtf8 : DataType → Bool
  | utf8Fixed64 | utf8Dynamic64 => true
  | _ => false

def isEmpty (type : DataType) : Bool :=
  type.layout = .empty

/-- Numbers are sent to the code that is written for their type. -/
theorem type_of_layout_numeric {type : DataType} {tag : StaticTag}
    (numbers : type.layout = .numeric tag) : tag.type = type := by
  cases type <;> cases numbers <;> rfl

theorem type_of_layout_bool {type : DataType} (bool : type.layout = .bool) :
    StaticTag.bool8.type = type := by
  cases type <;> cases bool
  rfl

theorem ofCode?_code (type : DataType) : ofCode? type.code = some type := by
  cases type <;> decide

theorem code_eq_of_ofCode? {code : Nat} {type : DataType} (found : ofCode? code = some type) :
    type.code = code := by
  simpa using List.find?_some found

theorem ofName?_name (type : DataType) : ofName? type.name = some type := by
  cases type <;> decide +kernel

end DataType

namespace Element

/-- The type of plain data of this element type, unless it is tagged otherwise. -/
def dataType : Element → DataType
  | u8 => .uint8
  | u16 => .uint16
  | u32 => .uint32
  | u64 => .uint64
  | i8 => .int8
  | i16 => .int16
  | i32 => .int32
  | i64 => .int64
  | f32 => .float32
  | f64 => .float64

theorem layout_dataType (element : Element) :
    element.dataType.layout = .numeric ⟨element.dataType, element⟩ := by
  cases element <;> rfl

end Element

end FrameIngest

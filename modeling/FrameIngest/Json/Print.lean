import FrameIngest.Decimal.Text
import FrameIngest.Json.Value

namespace FrameIngest.Json

/-- How a character is written between quotes. -/
def escapeChar (c : Char) : List Char :=
  if c = '"' then ['\\', '"']
  else if c = '\\' then ['\\', '\\']
  else if c = '\x08' then ['\\', 'b']
  else if c = '\x0c' then ['\\', 'f']
  else if c = '\n' then ['\\', 'n']
  else if c = '\r' then ['\\', 'r']
  else if c = '\t' then ['\\', 't']
  else if c.toNat < 0x20 then
    '\\' :: 'u' :: Decimal.padLeft 4 '0' (Decimal.hexadecimal c.toNat)
  else [c]

def printString (text : String) : List Char :=
  '"' :: (text.toList.flatMap escapeChar ++ ['"'])

def Number.print : Number → List Char
  | .integer value => Decimal.whole value
  | .float bits => Decimal.float bits

namespace Value

mutual

def chars : Value → List Char
  | .null => ['n', 'u', 'l', 'l']
  | .bool true => ['t', 'r', 'u', 'e']
  | .bool false => ['f', 'a', 'l', 's', 'e']
  | .number value => value.print
  | .string text => printString text
  | .array [] => ['[', ']']
  | .array (item :: items) => '[' :: (chars item ++ charsOfItems items)
  | .object [] => ['\x7b', '\x7d']
  | .object ((key, value) :: members) =>
    '\x7b' :: (printString key ++ ':' :: (chars value ++ charsOfMembers members))

/-- The items after the first one, each after a comma, and the closing bracket. -/
def charsOfItems : List Value → List Char
  | [] => [']']
  | item :: items => ',' :: (chars item ++ charsOfItems items)

/-- The members after the first one, each after a comma, and the closing brace. -/
def charsOfMembers : List (String × Value) → List Char
  | [] => ['\x7d']
  | (key, value) :: members =>
    ',' :: (printString key ++ ':' :: (chars value ++ charsOfMembers members))

end

def print (value : Value) : String :=
  String.ofList value.chars

end Value

end FrameIngest.Json

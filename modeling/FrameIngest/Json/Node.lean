import FrameIngest.Json.Literal
import FrameIngest.Json.Number

namespace FrameIngest.Json

inductive Word
  | null | true | false
  deriving DecidableEq

mutual

/-- A value as it is written. -/
inductive Node
  | word (word : Word)
  | number (numeral : Numeral)
  | string (literal : Literal)
  | array (items : Items)
  | object (members : Members)
  /-- The first letter of a word, and not the rest of it. -/
  | brokenWord (fault : Fault)
  /-- A sign or digit that begins no number. -/
  | brokenNumber (fault : Fault)
  /-- No value begins here. -/
  | missing (fault : Fault)

/-- What follows the opening bracket of an array or one of its items. -/
inductive Items
  | close
  | item (value : Node) (rest : Items)
  /-- Neither an item nor the closing bracket. -/
  | broken (fault : Fault)
  /-- A comma without an item. -/
  | dangling (fault : Fault)

/-- What follows the opening brace of an object or one of its members. -/
inductive Members
  | close
  | member (key : Literal) (value : Node) (rest : Members)
  /-- A key without a colon. -/
  | bareKey (key : Literal) (fault : Fault)
  /-- Neither a member, which begins with a string, nor the closing brace. -/
  | broken (fault : Fault)
  /-- A comma without a member. -/
  | dangling (fault : Fault)

end

/-- The blanks that may stand between the parts of a text. -/
def isBlank (c : Char) : Bool :=
  c = ' ' ∨ c = '\t' ∨ c = '\n' ∨ c = '\r'

def skipBlanks (text : List Char) : List Char :=
  text.dropWhile isBlank

def digitValue (c : Char) : Nat :=
  c.toNat - '0'.toNat

/-- The digits at the start of a text, and the rest. -/
def readDigits (text : List Char) : List Nat × List Char :=
  ((text.takeWhile Char.isDigit).map digitValue, text.dropWhile Char.isDigit)

namespace Node

/-- Reads the letters of a word after its first one. -/
def readWord (word : Word) : List Char → List Char → Node × List Char
  | [], text => (.word word, text)
  | _ :: _, [] => (.brokenWord .truncated, [])
  | letter :: letters, c :: text =>
    if c = letter then readWord word letters text else (.brokenWord .malformed, [])

/-- Reads an exponent, if there is one: a letter, a sign that may be left out, and digits. -/
def readExponent (negative : Bool) (whole : List Nat) (fraction : Option (List Nat)) :
    List Char → Node × List Char
  | 'e' :: text | 'E' :: text =>
    let (down, text) := match text with
      | '-' :: rest => (true, rest)
      | '+' :: rest => (false, rest)
      | rest => (false, rest)
    match readDigits text with
    | ([], rest) => (.brokenNumber (.before rest), [])
    | (digits, rest) => (.number ⟨negative, whole, fraction, some (down, digits)⟩, rest)
  | text => (.number ⟨negative, whole, fraction, none⟩, text)

/-- Reads a fraction, if there is one: a point and digits. -/
def readFraction (negative : Bool) (whole : List Nat) : List Char → Node × List Char
  | '.' :: text =>
    match readDigits text with
    | ([], rest) => (.brokenNumber (.before rest), [])
    | (digits, rest) => readExponent negative whole (some digits) rest
  | text => readExponent negative whole none text

/-- Reads a number after its sign. A leading zero stands alone. -/
def readNumber (negative : Bool) (text : List Char) : Node × List Char :=
  match readDigits text with
  | ([], rest) => (.brokenNumber (.before rest), [])
  | (0 :: _ :: _, _) => (.brokenNumber .malformed, [])
  | (digits, rest) => readFraction negative digits rest

mutual

/-- Reads a value, with at most `fuel` brackets, items and members on the way to its innermost
part. -/
def read : Nat → List Char → Node × List Char
  | 0, _ => (.missing .truncated, [])
  | fuel + 1, text =>
    match skipBlanks text with
    | [] => (.missing .truncated, [])
    | 'n' :: rest => readWord .null ['u', 'l', 'l'] rest
    | 't' :: rest => readWord .true ['r', 'u', 'e'] rest
    | 'f' :: rest => readWord .false ['a', 'l', 's', 'e'] rest
    | '"' :: rest => let (literal, rest) := Literal.read rest; (.string literal, rest)
    | '[' :: rest => let (items, rest) := readItems fuel rest; (.array items, rest)
    | '{' :: rest => let (members, rest) := readMembers fuel rest; (.object members, rest)
    | '-' :: rest => readNumber true rest
    | c :: rest => if c.isDigit then readNumber false (c :: rest) else (.missing .malformed, [])

/-- Reads the items of an array after its opening bracket. -/
def readItems : Nat → List Char → Items × List Char
  | 0, _ => (.broken .truncated, [])
  | fuel + 1, text =>
    match skipBlanks text with
    | [] => (.broken .truncated, [])
    | ']' :: rest => (.close, rest)
    | rest => readItem fuel rest

/-- Reads an item of an array and all that follow it. -/
def readItem : Nat → List Char → Items × List Char
  | 0, _ => (.broken .truncated, [])
  | fuel + 1, text =>
    let (value, rest) := read fuel text
    let (items, rest) := readMoreItems fuel rest
    (.item value items, rest)

/-- Reads what follows an item of an array. -/
def readMoreItems : Nat → List Char → Items × List Char
  | 0, _ => (.broken .truncated, [])
  | fuel + 1, text =>
    match skipBlanks text with
    | [] => (.broken .truncated, [])
    | ']' :: rest => (.close, rest)
    | ',' :: rest =>
      match skipBlanks rest with
      | [] => (.dangling .truncated, [])
      | ']' :: _ => (.dangling .malformed, [])
      | rest => readItem fuel rest
    | _ => (.broken .malformed, [])

/-- Reads the members of an object after its opening brace. -/
def readMembers : Nat → List Char → Members × List Char
  | 0, _ => (.broken .truncated, [])
  | fuel + 1, text =>
    match skipBlanks text with
    | [] => (.broken .truncated, [])
    | '}' :: rest => (.close, rest)
    | rest => readMember fuel rest

/-- Reads a member of an object and all that follow it. -/
def readMember : Nat → List Char → Members × List Char
  | 0, _ => (.broken .truncated, [])
  | fuel + 1, text =>
    match text with
    | '"' :: rest =>
      let (key, rest) := Literal.read rest
      match skipBlanks rest with
      | ':' :: rest =>
        let (value, rest) := read fuel rest
        let (members, rest) := readMoreMembers fuel rest
        (.member key value members, rest)
      | rest => (.bareKey key (.before rest), [])
    | _ => (.broken .malformed, [])

/-- Reads what follows a member of an object. -/
def readMoreMembers : Nat → List Char → Members × List Char
  | 0, _ => (.broken .truncated, [])
  | fuel + 1, text =>
    match skipBlanks text with
    | [] => (.broken .truncated, [])
    | '}' :: rest => (.close, rest)
    | ',' :: rest =>
      match skipBlanks rest with
      | [] => (.dangling .truncated, [])
      | '}' :: _ => (.dangling .malformed, [])
      | rest => readMember fuel rest
    | _ => (.broken .malformed, [])

end

end Node

/-- A text with the value it begins with. -/
structure Document where
  root : Node
  /-- What follows the value, blanks left out. -/
  rest : List Char

/-- The tree of a text. Every bracket, item and member takes a character of it, and at most three
steps. -/
def Document.ofChars (text : List Char) : Document :=
  let (root, rest) := Node.read (3 * text.length + 1) text
  ⟨root, skipBlanks rest⟩

end FrameIngest.Json

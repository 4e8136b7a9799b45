import NewsWire.Json.Cursor
import NewsWire.Text.Numeral
import NewsWire.Text.Unassigned

/-!
# Schemas

A schema says what a JSON value must look like. The same schema judges a value that is already there
and guides the reading of a text, where the first disagreement is reported with its place; so what
is asked of a value is written down once.

A record may be given as an object, whose unknown members are ignored, or as an array of its fields
in order. `Presence` says where a field may be left out. No feed promises arrays, but every record
is taken in both forms, so what is answered as an array is read by the places of its items.

What disagrees is kept as data and turned into words at the end, since the words of a complaint
reach a log and a caller, while the readers only decide.
-/

/-! ## Quoted text in messages

A text quoted in a message is put between quotation marks. The quotation mark, the backslash and the
usual control characters are written with a backslash; a character without a visible form of its
own is written by its code point in braces. Such are marks that extend the character before them,
characters that cannot be seen, and code points without a character: what is quoted came from a
feed, and a reader of the message must see what it was. -/

namespace NewsWire.Text

def hexText (n : Nat) : List Char := Nat.toDigits 16 n

/-- Characters that cannot be seen: control and format characters, blanks other than the space, and
private characters. -/
def unseen : Ranges :=
  [(0x0, 0x1F), (0x7F, 0xA0), (0xAD, 0xAD), (0x600, 0x605), (0x61C, 0x61C), (0x6DD, 0x6DD),
   (0x70F, 0x70F), (0x890, 0x891), (0x8E2, 0x8E2), (0x1680, 0x1680), (0x180E, 0x180E),
   (0x2000, 0x200F), (0x2028, 0x202F), (0x205F, 0x206F), (0x3000, 0x3000), (0xE000, 0xF8FF),
   (0xFEFF, 0xFEFF), (0xFFF9, 0xFFFB), (0x110BD, 0x110BD), (0x110CD, 0x110CD),
   (0x13430, 0x1343F), (0x1BCA0, 0x1BCA3), (0x1D173, 0x1D17A), (0xE0001, 0xE0001),
   (0xE0020, 0xE007F), (0xF0000, 0xFFFFD), (0x100000, 0x10FFFD)]

/-- The character has a visible form of its own, or is the space. -/
def isVisible (c : Char) : Bool :=
  !(unseen.contains c.toNat || isExtendingMark c || isUnassigned c)

/-- How a character of a quoted text is written. -/
def quotedChar (c : Char) : List Char :=
  if c = '\x22' then ['\\', '\x22']
  else if c = '\\' then ['\\', '\\']
  else if c = '\t' then ['\\', 't']
  else if c = '\n' then ['\\', 'n']
  else if c = '\r' then ['\\', 'r']
  else if c = '\x00' then ['\\', '0']
  else if isVisible c then [c]
  else '\\' :: 'u' :: '\x7b' :: (hexText c.toNat ++ ['\x7d'])

def quoted (s : String) : String :=
  String.ofList ('\x22' :: (s.toList.flatMap quotedChar ++ ['\x22']))

end NewsWire.Text

namespace NewsWire.Json

/-! ## Disagreements -/

/-- What was found in place of something else. -/
inductive Found where
  | null
  | bool (value : Bool)
  | number (value : Number)
  | string (value : String)
  | array
  | object
  deriving DecidableEq, Repr

/-- How a value appears in a complaint. -/
def Value.found : Value → Found
  | .null => .null
  | .bool b => .bool b
  | .number n => .number n
  | .string s => .string s
  | .array _ => .array
  | .object _ => .object

def Found.describe : Found → String
  | .null => "null"
  | .bool b => "boolean `" ++ (if b then "true" else "false") ++ "`"
  | .number (.int i) => "integer `" ++ String.ofList (intText i) ++ "`"
  | .number (.float x) => "floating point `" ++ String.ofList (floatText floatForm x) ++ "`"
  | .string s => "string " ++ Text.quoted s
  | .array => "sequence"
  | .object => "map"

/-- Why a value is not what was asked for. -/
inductive Mismatch where
  | wrongType (found : Found) (expected : String)
  | wrongValue (found : Found) (expected : String)
  | wrongLength (length : Nat) (expected : String)
  | missingField (name : String)
  | duplicateField (name : String)
  | noAlternative (choice : String)
  deriving DecidableEq, Repr

def Mismatch.message : Mismatch → String
  | .wrongType found expected => "invalid type: " ++ found.describe ++ ", expected " ++ expected
  | .wrongValue found expected => "invalid value: " ++ found.describe ++ ", expected " ++ expected
  | .wrongLength n expected =>
    "invalid length " ++ String.ofList (Nat.toDigits 10 n) ++ ", expected " ++ expected
  | .missingField name => "missing field `" ++ name ++ "`"
  | .duplicateField name => "duplicate field `" ++ name ++ "`"
  | .noAlternative choice => "data did not match any variant of untagged enum " ++ choice

/-! ## Schemas -/

/-- Where a field of a record may be left out. -/
inductive Presence where
  /-- The field must be there. -/
  | required
  /-- An object may leave the field out, an array may not. -/
  | inArray
  /-- The field may be left out of an object, and of an array that ends before it. -/
  | optional
  deriving DecidableEq, Repr

/-- The whole numbers that a field admits, and their name in complaints. -/
structure IntRange where
  min : Int
  max : Int
  name : String
  deriving DecidableEq, Repr

/-- Unsigned 32-bit words. -/
def IntRange.word32 : IntRange := ⟨0, Text.maxWord32, "u32"⟩

/-- Unsigned 64-bit words. -/
def IntRange.word64 : IntRange := ⟨0, Text.maxWord64, "u64"⟩

/-- Signed 64-bit integers. -/
def IntRange.int64 : IntRange := ⟨Text.minInt64, Text.maxInt64, "i64"⟩

/-- The whole number in a range that a number is. -/
def IntRange.check (r : IntRange) : Number → Except Mismatch Int
  | .int i =>
    if r.min ≤ i && i ≤ r.max then .ok i else .error (.wrongValue (.number (.int i)) r.name)
  | .float x => .error (.wrongType (.number (.float x)) r.name)

/-- What a JSON value must look like. -/
inductive Schema where
  | any
  | text
  | int (range : IntRange)
  | optional (of : Schema)
  | list (of : Schema)
  | record (name : String) (fields : List (String × Presence × Schema))
  deriving Repr

/-- The fields of a record: name, presence and schema, in order. -/
abbrev FieldTable := List (String × Presence × Schema)

def recordName (name : String) : String := "struct " ++ name

/-- A record of a name with its number of fields. -/
def recordOfLength (name : String) (n : Nat) : String :=
  recordName name ++ " with " ++ String.ofList (Nat.toDigits 10 n) ++
    if n = 1 then " element" else " elements"

/-- What a schema asks for, in complaints. -/
def Schema.expected : Schema → String
  | .any => "any value"
  | .text => "a string"
  | .int r => r.name
  | .optional s => s.expected
  | .list _ => "a sequence"
  | .record name _ => recordName name

end NewsWire.Json

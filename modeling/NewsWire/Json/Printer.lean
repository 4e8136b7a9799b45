import NewsWire.Json.Value
import NewsWire.Text.Numeral

/-!
# JSON texts of values

Two forms of the same value. The compact form has no blanks. The laid-out form puts every item of a
non-empty array and every member of a non-empty object on a line of its own, indented by two spaces
for each level, with one space after the colon.

In a string only the quotation mark, the backslash and the control characters below the space are
escaped; all other characters stand for themselves.

A value is a nested inductive type, so each form is three functions that recurse into one another:
one for values, one for the items of an array and one for the members of an object. The last item is
a case of its own, which puts the comma between two items and nowhere else.
-/

namespace NewsWire.Json

open NewsWire.Text (hexDigit)

/-- How a character of a string is written. -/
def escapeChar (c : Char) : List Char :=
  if c = '\x22' then ['\\', '\x22']
  else if c = '\\' then ['\\', '\\']
  else if c = '\x08' then ['\\', 'b']
  else if c = '\x0c' then ['\\', 'f']
  else if c = '\n' then ['\\', 'n']
  else if c = '\r' then ['\\', 'r']
  else if c = '\t' then ['\\', 't']
  else if c.toNat < 0x20 then
    ['\\', 'u', '0', '0', hexDigit (c.toNat / 16), hexDigit (c.toNat % 16)]
  else [c]

def quote (s : String) : List Char :=
  '\x22' :: (s.toList.flatMap escapeChar ++ ['\x22'])

/-- The text of a truth value. -/
def boolText (b : Bool) : List Char :=
  if b then ['t', 'r', 'u', 'e'] else ['f', 'a', 'l', 's', 'e']

/-! ## The compact form -/

mutual

def Value.compact : Value → List Char
  | .null => ['n', 'u', 'l', 'l']
  | .bool b => boolText b
  | .number n => n.text
  | .string s => quote s
  | .array items => '[' :: (compactItems items ++ [']'])
  | .object members => '\x7b' :: (compactMembers members ++ ['\x7d'])

/-- Items with commas between them. -/
def compactItems : List Value → List Char
  | [] => []
  | [v] => v.compact
  | v :: rest => v.compact ++ ',' :: compactItems rest

/-- Members with commas between them. -/
def compactMembers : List (String × Value) → List Char
  | [] => []
  | [(k, v)] => quote k ++ ':' :: v.compact
  | (k, v) :: rest => quote k ++ ':' :: (v.compact ++ ',' :: compactMembers rest)

end

/-! ## The laid-out form -/

def newline (level : Nat) : List Char :=
  '\n' :: List.replicate (2 * level) ' '

mutual

/-- The laid-out form of a value whose own line is at the given level. -/
def Value.layout (level : Nat) : Value → List Char
  | .null => ['n', 'u', 'l', 'l']
  | .bool b => boolText b
  | .number n => n.text
  | .string s => quote s
  | .array [] => ['[', ']']
  | .array items => '[' :: (layoutItems (level + 1) items ++ newline level ++ [']'])
  | .object [] => ['\x7b', '\x7d']
  | .object members =>
    '\x7b' :: (layoutMembers (level + 1) members ++ newline level ++ ['\x7d'])

/-- Items on lines of their own. -/
def layoutItems (level : Nat) : List Value → List Char
  | [] => []
  | [v] => newline level ++ v.layout level
  | v :: rest => newline level ++ v.layout level ++ ',' :: layoutItems level rest

/-- Members on lines of their own. -/
def layoutMembers (level : Nat) : List (String × Value) → List Char
  | [] => []
  | [(k, v)] => newline level ++ quote k ++ ':' :: ' ' :: v.layout level
  | (k, v) :: rest =>
    newline level ++ quote k ++ ':' :: ' ' :: (v.layout level ++ ',' :: layoutMembers level rest)

end

def Value.toCompact (v : Value) : String := String.ofList v.compact

def Value.toLayout (v : Value) : String := String.ofList (v.layout 0)

end NewsWire.Json

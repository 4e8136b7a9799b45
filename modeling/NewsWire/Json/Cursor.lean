import NewsWire.Json.Value

/-!
# Places in a JSON text

A cursor is a place in a text: what is still to be read, and the line and column of what has been
read. Lines count from one. Columns count the bytes of the UTF-8 form since the line began, so the
column of a place is the number of bytes before it on its line.

A complaint about what has been read is located at the cursor; a complaint about what stands next
is located one byte further, `peeked`. `Fault` lists what can be wrong with a text as JSON.

The place has no influence on what is read: the readers look at `rest` alone and only hand the place
on. So a proof about what is read may forget places altogether, and one about a complaint need not
follow the value.
-/

namespace NewsWire.Json

/-! ## Places -/

/-- A line, counted from one, and a column in bytes. -/
structure Position where
  line : Nat
  column : Nat
  deriving DecidableEq, Repr, Inhabited

/-- The beginning of a text. -/
def Position.start : Position := ⟨1, 0⟩

def Position.after (p : Position) (c : Char) : Position :=
  if c = '\n' then ⟨p.line + 1, 0⟩ else ⟨p.line, p.column + c.utf8Size⟩

/-- The place after so many bytes of a text, which may be inside a character. -/
def Position.afterBytes (p : Position) : Nat → List Char → Position
  | 0, _ => p
  | _, [] => p
  | n + 1, c :: cs =>
    if n + 1 < c.utf8Size then ⟨p.line, p.column + (n + 1)⟩
    else (p.after c).afterBytes (n + 1 - c.utf8Size) cs
  termination_by _ cs => cs.length

/-- The place after a whole text. -/
def Position.afterAll (p : Position) (cs : List Char) : Position :=
  cs.foldl Position.after p

/-- A place in a text and what is still to be read. -/
structure Cursor where
  position : Position
  rest : List Char
  deriving DecidableEq, Repr

/-- The beginning of a text. -/
def Cursor.start (text : List Char) : Cursor := ⟨.start, text⟩

/-- The place one byte further, or the end of the text. -/
def Cursor.peeked (c : Cursor) : Position :=
  match c.rest with
  | [] => c.position
  | x :: _ =>
    if x = '\n' then ⟨c.position.line + 1, 0⟩
    else ⟨c.position.line, c.position.column + 1⟩

def Cursor.next (c : Cursor) : Cursor :=
  match c.rest with
  | [] => c
  | x :: xs => ⟨c.position.after x, xs⟩

/-- Past so many characters of one byte each, none of them a line feed. -/
def Cursor.skip (c : Cursor) (n : Nat) : Cursor :=
  ⟨⟨c.position.line, c.position.column + n⟩, c.rest.drop n⟩

/-! ## Blanks -/

/-- The blanks of JSON. -/
def isSpace (c : Char) : Bool :=
  c == ' ' || c == '\n' || c == '\t' || c == '\r'

/-- Past the blanks that stand at a place. -/
def skipSpaceFrom (p : Position) : List Char → Cursor
  | [] => ⟨p, []⟩
  | c :: cs => if isSpace c then skipSpaceFrom (p.after c) cs else ⟨p, c :: cs⟩

def Cursor.skipSpace (c : Cursor) : Cursor := skipSpaceFrom c.position c.rest

/-! ## Faults -/

/-- What can be wrong with a text as JSON. -/
inductive Fault where
  | endInList
  | endInObject
  | endInString
  | endInValue
  | expectedColon
  | expectedListEnd
  | expectedObjectEnd
  | expectedWord
  | expectedValue
  | badEscape
  | badNumber
  | numberTooLarge
  | controlCharacter
  | keyNotString
  | loneSurrogate
  | trailingComma
  | trailingCharacters
  | unfinishedEscape
  | tooDeep
  deriving DecidableEq, Repr

def Fault.message : Fault → String
  | .endInList => "EOF while parsing a list"
  | .endInObject => "EOF while parsing an object"
  | .endInString => "EOF while parsing a string"
  | .endInValue => "EOF while parsing a value"
  | .expectedColon => "expected `:`"
  | .expectedListEnd => "expected `,` or `]`"
  | .expectedObjectEnd => "expected `,` or `\x7d`"
  | .expectedWord => "expected ident"
  | .expectedValue => "expected value"
  | .badEscape => "invalid escape"
  | .badNumber => "invalid number"
  | .numberTooLarge => "number out of range"
  | .controlCharacter => "control character (\\u0000-\\u001F) found while parsing a string"
  | .keyNotString => "key must be a string"
  | .loneSurrogate => "lone leading surrogate in hex escape"
  | .trailingComma => "trailing comma"
  | .trailingCharacters => "trailing characters"
  | .unfinishedEscape => "unexpected end of hex escape"
  | .tooDeep => "recursion limit exceeded"

end NewsWire.Json

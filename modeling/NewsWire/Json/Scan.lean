import NewsWire.Json.Schema

/-!
# Scanning the words, numbers and strings of a JSON text

A scanner takes a cursor to a value and the cursor after it, or to a complaint with its place. This
module scans what has no parts of its own: the three words, numbers and strings.

A number without point and exponent is whole when it fits a 64-bit word of its sign; minus zero and
everything larger is floating. A floating number is its first digits as a 64-bit word, converted and
then multiplied or divided by a power of ten; further digits only count for the exponent. So its
last bit may differ from the nearest number's, and a number beyond the largest finite one is a
fault.
-/

namespace NewsWire.Json

open NewsWire.Text (digit? hexDigit? maxWord64)

/-! ## Complaints -/

/-- What is wrong: with the text itself, or with the value it gives. -/
inductive Cause where
  | fault (fault : Fault)
  | mismatch (mismatch : Mismatch)
  deriving DecidableEq, Repr

/-- What is wrong, and where if it came from a text. -/
structure Complaint where
  cause : Cause
  position : Option Position
  deriving DecidableEq, Repr

def Complaint.message (c : Complaint) : String :=
  let text := match c.cause with
    | .fault f => f.message
    | .mismatch m => m.message
  match c.position with
  | none => text
  | some p =>
    text ++ " at line " ++ String.ofList (Nat.toDigits 10 p.line) ++
      " column " ++ String.ofList (Nat.toDigits 10 p.column)

/-- A scanner of values of a type. -/
abbrev Scan (α : Type) := Cursor → Except Complaint (α × Cursor)

/-- A fault at a place. -/
def Fault.located (f : Fault) (p : Position) : Complaint := ⟨.fault f, some p⟩

/-- A disagreement at a place. -/
def Mismatch.located (m : Mismatch) (p : Position) : Complaint := ⟨.mismatch m, some p⟩

/-! ## Words -/

/-- The remaining letters of a word whose first letter has been read. -/
def scanWord : List Char → Cursor → Except Complaint Cursor
  | [], c => .ok c
  | w :: ws, c =>
    match c.rest with
    | [] => .error (Fault.endInValue.located c.position)
    | x :: _ => if x = w then scanWord ws c.next else .error (Fault.expectedWord.located c.peeked)

/-! ## Numbers

The scanner goes through a number by its parts: digits, a point and digits, an exponent. Each part
hands its word and its scale to the next one, and `finishFloat` is the only place where a floating
number is made. So whether a text is a number depends on its characters and on the size of the
result, and never on how the arithmetic rounds. -/

/-- The digits that stand next. -/
def Cursor.digits (c : Cursor) : List Nat :=
  (c.rest.takeWhile Char.isDigit).map fun d ↦ d.toNat - '0'.toNat

def Cursor.atDigit (c : Cursor) : Bool :=
  match c.rest with
  | x :: _ => x.isDigit
  | [] => false

/-- One of the given characters stands next. -/
def Cursor.atAny (c : Cursor) (options : List Char) : Bool :=
  match c.rest with
  | x :: _ => options.contains x
  | [] => false

/-- Digits read into a word until it would overflow; the rest is returned. -/
def fillWord (acc : Nat) : List Nat → Nat × List Nat
  | [] => (acc, [])
  | d :: ds => if acc * 10 + d ≤ maxWord64 then fillWord (acc * 10 + d) ds else (acc, d :: ds)

/-- `10 ^ n` as a floating number. -/
def floatPow10 (n : Nat) : Float := Float.ofScientific 1 false n

/-- Division by `10 ^ n`, in steps of at most `10 ^ 308`. Three full steps take every word to zero,
so no more are made. -/
def divPow10 (x : Float) (n : Nat) : Float :=
  let steps := (n - 1) / 308
  Nat.repeat (· / floatPow10 308) (min steps 3) x / floatPow10 (n - 308 * steps)

/-- A word times a power of ten; `none` when it is too large. -/
def scaleWord (positive : Bool) (word : Nat) (exponent : Int) : Option Float :=
  let x := word.toUInt64.toFloat
  let magnitude : Option Float :=
    if exponent < 0 then some (divPow10 x exponent.natAbs)
    else if exponent ≤ 308 then
      let y := x * floatPow10 exponent.natAbs
      if y.isInf then none else some y
    else if x == 0 then some x
    else none
  magnitude.map fun y ↦ if positive then y else -y

/-- The floating number of a word and an exponent, at the place reached. -/
def finishFloat (positive : Bool) (word : Nat) (exponent : Int) : Scan Number := fun c ↦
  match scaleWord positive word exponent with
  | some x => .ok (.float x, c)
  | none => .error (Fault.numberTooLarge.located c.position)

def maxExponent : Nat := 0x7fffffff

/-- The exponent after its letter. -/
def scanExponent (positive : Bool) (word : Nat) (scale : Int) : Scan Number := fun c ↦
  let negative := c.atAny ['-']
  let c := if c.atAny ['+', '-'] then c.next else c
  match c.rest with
  | [] => .error (Fault.endInValue.located c.position)
  | _ :: _ =>
    if !c.atDigit then .error (Fault.badNumber.located c.peeked)
    else
      let ds := c.digits
      let value := ds.foldl (fun acc d ↦ acc * 10 + d) 0
      if value ≤ maxExponent then
        finishFloat positive word (if negative then scale - value else scale + value)
          (c.skip ds.length)
      else if word ≠ 0 && !negative then
        let shown := (ds.scanl (fun acc d ↦ acc * 10 + d) 0).takeWhile (· ≤ maxExponent)
        .error (Fault.numberTooLarge.located (c.skip shown.length).position)
      else .ok (.float (if positive then 0.0 else -0.0), c.skip ds.length)

/-- After the digits of a floating number: an exponent or the end. -/
def scanFloatTail (positive : Bool) (word : Nat) (scale : Int) : Scan Number := fun c ↦
  if c.atAny ['e', 'E'] then scanExponent positive word scale c.next
  else finishFloat positive word scale c

/-- The digits after a decimal point. -/
def scanFraction (positive : Bool) (word : Nat) (scale : Int) : Scan Number := fun c ↦
  let ds := c.digits
  if ds.isEmpty then
    .error ((if c.rest.isEmpty then Fault.endInValue else Fault.badNumber).located c.peeked)
  else
    let (word, unread) := fillWord word ds
    scanFloatTail positive word (scale - (ds.length - unread.length : Nat)) (c.skip ds.length)

/-- A whole number of one sign, or a floating one if it does not fit. -/
def wholeNumber (positive : Bool) (word : Nat) : Number :=
  if positive then .int word
  else if word = 0 || word > 0x8000000000000000 then .float (-word.toUInt64.toFloat)
  else .int (-word)

/-- A number after its sign. -/
def scanNumber (positive : Bool) : Scan Number := fun c ↦
  match c.rest with
  | [] => .error (Fault.endInValue.located c.position)
  | x :: _ =>
    if !x.isDigit then .error (Fault.badNumber.located c.peeked)
    else if x = '0' && c.next.atDigit then .error (Fault.badNumber.located c.next.peeked)
    else
      let ds := c.digits
      let (word, unread) := fillWord 0 ds
      let c := c.skip ds.length
      if c.atAny ['.'] then scanFraction positive word unread.length c.next
      else if c.atAny ['e', 'E'] || !unread.isEmpty then
        scanFloatTail positive word unread.length c
      else .ok (wholeNumber positive word, c)

/-! ## Strings

A character outside the first plane may be written as two escapes. The first of them waits in `high`
for the second; anything else in its place is a fault, since half a pair is no character. -/

/-- The character after a backslash stands for another one. -/
def simpleEscape? (c : Char) : Option Char :=
  if c = '\x22' || c = '\\' || c = '/' then some c
  else if c = 'b' then some '\x08'
  else if c = 'f' then some '\x0c'
  else if c = 'n' then some '\n'
  else if c = 'r' then some '\r'
  else if c = 't' then some '\t'
  else none

/-- The value of four hexadecimal digits. -/
def hexQuad? (a b c d : Char) : Option Nat :=
  match hexDigit? a, hexDigit? b, hexDigit? c, hexDigit? d with
  | some a, some b, some c, some d => some (((a * 16 + b) * 16 + c) * 16 + d)
  | _, _, _, _ => none

/-- What is wrong with an escape that lacks its four hexadecimal digits. -/
def badHexQuad (p : Position) (rest : List Char) : Complaint :=
  if ((rest.take 4).flatMap String.utf8EncodeChar).length < 4 then
    Fault.endInString.located (p.afterAll rest)
  else Fault.badEscape.located (p.afterBytes 4 rest)

/-- The character of a surrogate pair. -/
def pairedChar (high low : Nat) : Char :=
  Char.ofNat (0x10000 + (high - 0xD800) * 0x400 + (low - 0xDC00))

/-- A string after its opening quotation mark. `high` is a leading surrogate that waits for its
other half, `found` the characters so far, the last one first. -/
def scanString (high : Option Nat) (found : List Char) (p : Position) :
    List Char → Except Complaint (List Char × Cursor)
  | [] => .error (Fault.endInString.located p)
  | x :: xs =>
    if high.isSome && x ≠ '\\' then
      .error (Fault.unfinishedEscape.located (Cursor.peeked ⟨p, x :: xs⟩))
    else if x = '\x22' then .ok (found.reverse, ⟨p.after x, xs⟩)
    else if x = '\\' then
      let p := p.after x
      match xs with
      | [] => .error (Fault.endInString.located p)
      | e :: es =>
        if e = 'u' then
          let p := p.after e
          match es with
          | a :: b :: c :: d :: rest =>
            match hexQuad? a b c d with
            | none => .error (badHexQuad p es)
            | some n =>
              let p := (((p.after a).after b).after c).after d
              match high with
              | some h =>
                if n < 0xDC00 || n > 0xDFFF then .error (Fault.loneSurrogate.located p)
                else scanString none (pairedChar h n :: found) p rest
              | none =>
                if 0xDC00 ≤ n && n ≤ 0xDFFF then .error (Fault.loneSurrogate.located p)
                else if 0xD800 ≤ n && n ≤ 0xDBFF then scanString (some n) found p rest
                else scanString none (Char.ofNat n :: found) p rest
          | _ => .error (badHexQuad p es)
        else if high.isSome then
          .error (Fault.unfinishedEscape.located (Cursor.peeked ⟨p, e :: es⟩))
        else
          match simpleEscape? e with
          | some y => scanString none (y :: found) (p.after e) es
          | none => .error (Fault.badEscape.located (Cursor.peeked ⟨p, e :: es⟩))
    else if x.toNat < 0x20 then
      .error (Fault.controlCharacter.located (Cursor.peeked ⟨p, x :: xs⟩))
    else scanString none (x :: found) (p.after x) xs

def scanText : Scan String := fun c ↦
  match scanString none [] c.position c.rest with
  | .ok (s, c) => .ok (String.ofList s, c)
  | .error e => .error e

end NewsWire.Json

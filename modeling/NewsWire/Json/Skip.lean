import NewsWire.Json.Scan

/-!
# Passing over a value nobody asked for

The value of an unknown member is passed over and not read. Only its shape is checked: brackets
match, commas and colons are in place, numbers and strings are lexically sound. The size of a
number, the pairing of surrogates and the depth of nesting do not matter, since nothing is built.

The open brackets are kept in a list, innermost first. `Skipping` says what is expected next. Since
the depth is not bounded, passing over is a loop with a stack of its own and no recursion into
values; its steps are counted, and `skipValue` allows more of them than a text can need.
-/

namespace NewsWire.Json

/-- The two kinds of bracket. -/
inductive Bracket where
  | array
  | object
  deriving DecidableEq, Repr

def Bracket.close : Bracket → Char
  | .array => ']'
  | .object => '\x7d'

/-- A text that ends inside a bracket. -/
def Bracket.endFault : Bracket → Fault
  | .array => .endInList
  | .object => .endInObject

/-- Something other than a comma or the closing character. -/
def Bracket.separatorFault : Bracket → Fault
  | .array => .expectedListEnd
  | .object => .expectedObjectEnd

/-- What is expected next while passing over a value. -/
inductive Skipping where
  /-- A value. -/
  | value
  /-- The end of the innermost bracket or its first part. -/
  | opened
  /-- A comma or the end of the innermost bracket. -/
  | next

/-- Digits, at least one. -/
def skipDigits : Scan Unit := fun c ↦
  if c.atDigit then .ok ((), c.skip c.digits.length)
  else .error (Fault.badNumber.located c.peeked)

/-- An exponent after its letter, if there is one. -/
def skipExponent : Scan Unit := fun c ↦
  if c.atAny ['e', 'E'] then
    let c := c.next
    skipDigits (if c.atAny ['+', '-'] then c.next else c)
  else .ok ((), c)

/-- A number after its sign. -/
def skipNumber : Scan Unit := fun c ↦
  if !c.atDigit then .error (Fault.badNumber.located c.peeked)
  else if c.atAny ['0'] && c.next.atDigit then .error (Fault.badNumber.located c.next.peeked)
  else
    let c := c.skip c.digits.length
    if c.atAny ['.'] then
      match skipDigits c.next with
      | .ok ((), c) => skipExponent c
      | .error e => .error e
    else skipExponent c

/-- A string after its opening quotation mark. -/
def skipString (p : Position) : List Char → Except Complaint Cursor
  | [] => .error (Fault.endInString.located p)
  | x :: xs =>
    if x = '\x22' then .ok ⟨p.after x, xs⟩
    else if x = '\\' then
      let p := p.after x
      match xs with
      | [] => .error (Fault.endInString.located p)
      | e :: es =>
        if e = 'u' then
          let p := p.after e
          match es with
          | a :: b :: c :: d :: rest =>
            match hexQuad? a b c d with
            | none => .error (badHexQuad p es)
            | some _ => skipString ((((p.after a).after b).after c).after d) rest
          | _ => .error (badHexQuad p es)
        else
          match simpleEscape? e with
          | some _ => skipString (p.after e) es
          | none => .error (Fault.badEscape.located (Cursor.peeked ⟨p, e :: es⟩))
    else if x.toNat < 0x20 then .error (Fault.controlCharacter.located p)
    else skipString (p.after x) xs

/-- A key and its colon; the cursor is at the key, blanks passed. -/
def skipKey (c : Cursor) : Except Complaint Cursor :=
  match c.rest with
  | [] => .error (Fault.endInObject.located c.peeked)
  | x :: _ =>
    if x ≠ '\x22' then .error (Fault.keyNotString.located c.peeked)
    else
      let c := c.next
      match skipString c.position c.rest with
      | .error e => .error e
      | .ok c =>
        let c := c.skipSpace
        match c.rest with
        | [] => .error (Fault.endInObject.located c.peeked)
        | x :: _ =>
          if x = ':' then .ok c.next else .error (Fault.expectedColon.located c.peeked)

/-- A word, a number or a string; the cursor is at its first character. -/
def skipScalar (x : Char) (c : Cursor) : Except Complaint Cursor :=
  if x = 'n' then scanWord ['u', 'l', 'l'] c.next
  else if x = 't' then scanWord ['r', 'u', 'e'] c.next
  else if x = 'f' then scanWord ['a', 'l', 's', 'e'] c.next
  else if x = '-' then (skipNumber c.next).map Prod.snd
  else if x.isDigit then (skipNumber c).map Prod.snd
  else if x = '\x22' then skipString c.next.position c.next.rest
  else .error (Fault.expectedValue.located c.peeked)

/-- Pass over values until all brackets are closed. Every step but the last reads a character, so
as many steps as there are characters, and two more, suffice. -/
def skipSteps : Nat → Skipping → List Bracket → Cursor → Except Complaint Cursor
  | 0, _, _, c => .error (Fault.endInValue.located c.position)
  | n + 1, .value, open_, c =>
    let c := c.skipSpace
    match c.rest with
    | [] => .error (Fault.endInValue.located c.peeked)
    | x :: _ =>
      if x = '[' then skipSteps n .opened (.array :: open_) c.next
      else if x = '\x7b' then skipSteps n .opened (.object :: open_) c.next
      else
        match skipScalar x c with
        | .ok c => skipSteps n .next open_ c
        | .error e => .error e
  | _ + 1, .opened, [], c => .ok c
  | n + 1, .opened, b :: open_, c =>
    let c := c.skipSpace
    match c.rest with
    | [] => .error (b.endFault.located c.peeked)
    | x :: _ =>
      if x = b.close then skipSteps n .next open_ c.next
      else
        match b with
        | .array => skipSteps n .value (b :: open_) c
        | .object =>
          match skipKey c with
          | .ok c => skipSteps n .value (b :: open_) c
          | .error e => .error e
  | _ + 1, .next, [], c => .ok c
  | n + 1, .next, b :: open_, c =>
    let c := c.skipSpace
    match c.rest with
    | [] => .error (b.endFault.located c.peeked)
    | x :: _ =>
      if x = b.close then skipSteps n .next open_ c.next
      else if x = ',' then
        match b with
        | .array => skipSteps n .value (b :: open_) c.next
        | .object =>
          match skipKey c.next.skipSpace with
          | .ok c => skipSteps n .value (b :: open_) c
          | .error e => .error e
      else .error (b.separatorFault.located c.peeked)

def skipValue : Scan Unit := fun c ↦
  (skipSteps (c.rest.length + c.rest.length + 2) .value [] c).map fun c ↦ ((), c)

end NewsWire.Json

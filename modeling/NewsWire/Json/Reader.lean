import NewsWire.Json.Skip

/-!
# Reading JSON texts

`Schema.read` reads one value of a schema from a text. It reports the first thing that is wrong in
the order of the text, be it a fault of the text or a disagreement with the schema, at the place
where it shows. A disagreement about one value is located after a word, number or string and before
a bracket. A disagreement about a whole record is located after its closing bracket when that is
what stands next, else where reading stopped.

`parse` reads a whole text: one value, with nothing but blanks after it. Under the schema `any` it
is the ordinary JSON reader, which keeps members in order, lets the last of several equal keys win
in the place of the first, and refuses brackets nested deeper than 127.
-/

namespace NewsWire.Json

/-! ## What stands next -/

/-- The value that stands next, as far as a complaint shows it: words, numbers and strings are read,
brackets are not entered. -/
def scanFound : Scan Found := fun c ↦
  match c.rest with
  | [] => .error (Fault.expectedValue.located c.peeked)
  | x :: _ =>
    if x = 'n' then (scanWord ['u', 'l', 'l'] c.next).map fun c ↦ (.null, c)
    else if x = 't' then (scanWord ['r', 'u', 'e'] c.next).map fun c ↦ (.bool true, c)
    else if x = 'f' then (scanWord ['a', 'l', 's', 'e'] c.next).map fun c ↦ (.bool false, c)
    else if x = '-' then (scanNumber false c.next).map fun (n, c) ↦ (.number n, c)
    else if x.isDigit then (scanNumber true c).map fun (n, c) ↦ (.number n, c)
    else if x = '\x22' then (scanText c.next).map fun (s, c) ↦ (.string s, c)
    else if x = '[' then .ok (.array, c)
    else if x = '\x7b' then .ok (.object, c)
    else .error (Fault.expectedValue.located c.peeked)

/-- Complain that something else was expected. -/
def wrongTypeAt (expected : String) (c : Cursor) : Complaint :=
  match scanFound c with
  | .ok (found, c) => (Mismatch.wrongType found expected).located c.position
  | .error e => e

/-- The place where a complaint about a whole bracket is located. -/
def Cursor.closing (c : Cursor) (close : Char) : Position :=
  let c := c.skipSpace
  if c.atAny [close] then c.next.position else c.position

/-! ## Lists and members

Reading the items of an array alternates between asking whether there is another one and reading it.
The question is answered by `moreItems`, the items are read by a scanner that is passed in: so one
loop serves arrays of any values and arrays of a schema, and what is proved of the loop is proved
once for every item reader. -/

/-- Is there another item? The cursor is then at it, otherwise at the closing bracket. -/
def moreItems (first : Bool) : Scan Bool := fun c ↦
  let c := c.skipSpace
  match c.rest with
  | [] => .error (Fault.endInList.located c.peeked)
  | x :: _ =>
    if x = ']' then .ok (false, c)
    else if first then .ok (true, c)
    else if x = ',' then
      let c := c.next.skipSpace
      match c.rest with
      | [] => .error (Fault.endInValue.located c.peeked)
      | x :: _ =>
        if x = ']' then .error (Fault.trailingComma.located c.peeked) else .ok (true, c)
    else .error (Fault.expectedListEnd.located c.peeked)

/-- Is there another member? The cursor is then past the quotation mark that opens its key,
otherwise at the closing brace. -/
def moreMembers (first : Bool) : Scan Bool := fun c ↦
  let c := c.skipSpace
  match c.rest with
  | [] => .error (Fault.endInObject.located c.peeked)
  | x :: _ =>
    if x = '\x7d' then .ok (false, c)
    else if first then
      if x = '\x22' then .ok (true, c.next) else .error (Fault.keyNotString.located c.peeked)
    else if x = ',' then
      let c := c.next.skipSpace
      match c.rest with
      | [] => .error (Fault.endInValue.located c.peeked)
      | x :: _ =>
        if x = '\x22' then .ok (true, c.next)
        else if x = '\x7d' then .error (Fault.trailingComma.located c.peeked)
        else .error (Fault.keyNotString.located c.peeked)
    else .error (Fault.expectedObjectEnd.located c.peeked)

def scanColon (c : Cursor) : Except Complaint Cursor :=
  let c := c.skipSpace
  match c.rest with
  | [] => .error (Fault.endInObject.located c.peeked)
  | x :: _ => if x = ':' then .ok c.next else .error (Fault.expectedColon.located c.peeked)

/-- Items up to the closing bracket, which is passed. Every item takes a character, so the steps
may be counted by the characters. -/
def scanItems (item : Scan Value) : Nat → Bool → Scan (List Value)
  | 0, _ => fun c ↦ .error (Fault.endInList.located c.position)
  | n + 1, first => fun c ↦ do
    let (more, c) ← moreItems first c
    if more then
      let (v, c) ← item c
      let (vs, c) ← scanItems item n false c
      return (v :: vs, c)
    else return ([], c.next)

/-- Members up to the closing brace, which is passed. `member` reads the value of a key, given the
members found so far, and says what becomes of them. -/
def scanMembers (member : String → Members → Scan Members) :
    Nat → Bool → Members → Scan Members
  | 0, _, _ => fun c ↦ .error (Fault.endInObject.located c.position)
  | n + 1, first, found => fun c ↦ do
    let (more, c) ← moreMembers first c
    if more then
      let (key, c) ← scanText c
      let (found, c) ← member key found c
      scanMembers member n false found c
    else return (found, c.next)

/-! ## Any value

The depth of nesting is a parameter that goes down with every bracket, so the reader is structurally
recursive. The bound is part of what the reader does and not a device of its definition: a text with
deeper brackets is refused with a fault of its own. -/

/-- A member of an object: the value of a key that is already there is replaced. -/
def scanMember (item : Scan Value) (key : String) (found : Members) : Scan Members := fun c ↦ do
  let c ← scanColon c
  let (v, c) ← item c
  return (found.insert key v, c)

/-- A value whose items and members are read as given, or which must have no brackets. -/
def scanValue (inner : Option (Scan Value)) : Scan Value := fun c ↦
  let c := c.skipSpace
  match c.rest with
  | [] => .error (Fault.endInValue.located c.peeked)
  | _ :: _ => do
    let (found, c) ← scanFound c
    match found, inner with
    | .null, _ => return (.null, c)
    | .bool b, _ => return (.bool b, c)
    | .number n, _ => return (.number n, c)
    | .string s, _ => return (.string s, c)
    | .array, none => .error (Fault.tooDeep.located c.peeked)
    | .object, none => .error (Fault.tooDeep.located c.peeked)
    | .array, some item =>
      let (vs, c) ← scanItems item c.rest.length true c.next
      return (.array vs, c)
    | .object, some item =>
      let (members, c) ← scanMembers (scanMember item) c.rest.length true [] c.next
      return (.object members, c)

/-- A value with at most so many brackets nested in each other. -/
def scanAny : Nat → Scan Value
  | 0 => scanValue none
  | depth + 1 => scanValue (some (scanAny depth))

/-- How deeply brackets may be nested. -/
def maxDepth : Nat := 127

/-! ## Values of a schema

A record is read in one pass: a member whose key is in the table is read under the schema of its
field, and any other is passed over. So a complaint about a field comes before one about a later
member, and a field that is missing is found out only when the record is closed. -/

def scanTextValue : Scan Value := fun c ↦
  let c := c.skipSpace
  match c.rest with
  | [] => .error (Fault.endInValue.located c.peeked)
  | x :: _ =>
    if x = '\x22' then (scanText c.next).map fun (s, c) ↦ (.string s, c)
    else .error (wrongTypeAt Schema.text.expected c)

def scanInt (r : IntRange) : Scan Value := fun c ↦
  let c := c.skipSpace
  match c.rest with
  | [] => .error (Fault.endInValue.located c.peeked)
  | x :: _ =>
    if x = '-' || x.isDigit then do
      let (n, c) ← if x = '-' then scanNumber false c.next else scanNumber true c
      match r.check n with
      | .ok i => return (.ofInt i, c)
      | .error m => .error (m.located c.position)
    else .error (wrongTypeAt r.name c)

/-- The first required field of a table that was not found. -/
def missing? (fields : List (String × Presence)) (found : Members) : Option String :=
  (fields.find? fun f ↦ f.2 = .required && (found.lookup f.1).isNone).map Prod.fst

/-- The end of an array whose fields have all been read. -/
def scanListEnd (c : Cursor) : Except Complaint Cursor :=
  let c := c.skipSpace
  match c.rest with
  | [] => .error (Fault.endInList.located c.peeked)
  | x :: _ =>
    if x = ']' then .ok c.next
    else if x = ',' then
      let c := c.next.skipSpace
      .error ((if c.atAny [']'] then Fault.trailingComma else .trailingCharacters).located c.peeked)
    else .error (Fault.trailingCharacters.located c.peeked)

mutual

def Schema.read : Schema → Scan Value
  | .any => scanAny maxDepth
  | .text => scanTextValue
  | .int r => scanInt r
  | .optional s => fun c ↦
    let c := c.skipSpace
    if c.atAny ['n'] then (scanWord ['u', 'l', 'l'] c.next).map fun c ↦ (.null, c)
    else s.read c
  | .list s => fun c ↦
    let c := c.skipSpace
    match c.rest with
    | [] => .error (Fault.endInValue.located c.peeked)
    | x :: _ =>
      if x = '[' then do
        let (vs, c) ← scanItems s.read c.rest.length true c.next
        return (.array vs, c)
      else .error (wrongTypeAt (Schema.list s).expected c)
  | .record name fields => fun c ↦
    let c := c.skipSpace
    match c.rest with
    | [] => .error (Fault.endInValue.located c.peeked)
    | x :: _ =>
      if x = '[' then do
        let (vs, c) ← readFields (recordOfLength name fields.length) 0 fields c.next
        let c ← scanListEnd c
        return (.array vs, c)
      else if x = '\x7b' then do
        let (members, c) ← scanMembers (fun key found ↦ readMember fields key found)
          c.rest.length true [] c.next
        match missing? (fields.map fun f ↦ (f.1, f.2.1)) members with
        | some field => .error ((Mismatch.missingField field).located c.position)
        | none => return (.object members, c)
      else .error (wrongTypeAt (recordName name) c)

/-- The fields of a record given as an array, from the field of index `i` on. -/
def readFields (expected : String) (i : Nat) : FieldTable → Scan (List Value)
  | [] => fun c ↦ .ok ([], c)
  | (_, presence, s) :: fields => fun c ↦ do
    let (more, c) ← moreItems (i == 0) c
    if more then
      let (v, c) ← s.read c
      let (vs, c) ← readFields expected (i + 1) fields c
      return (v :: vs, c)
    else if presence = .optional then readFields expected (i + 1) fields c
    else .error ((Mismatch.wrongLength i expected).located (c.closing ']'))

/-- The value of a member of a record given as an object. -/
def readMember : FieldTable → String → Members → Scan Members
  | [], _, found => fun c ↦ do
    let c ← scanColon c
    let ((), c) ← skipValue c
    return (found, c)
  | (name, _, s) :: fields, key, found =>
    if name = key then fun c ↦
      if (found.lookup key).isSome then
        .error ((Mismatch.duplicateField key).located (c.closing '\x7d'))
      else do
        let c ← scanColon c
        let (v, c) ← s.read c
        return (found ++ [(key, v)], c)
    else readMember fields key found

end

/-- Read a whole text as one value of a schema. -/
def Schema.parse (s : Schema) (text : List Char) : Except Complaint Value := do
  let (v, c) ← s.read (.start text)
  let c := c.skipSpace
  match c.rest with
  | [] => .ok v
  | _ :: _ => .error (Fault.trailingCharacters.located c.peeked)

/-- Read a whole text as any value. -/
def parse (text : List Char) : Except Complaint Value := Schema.any.parse text

end NewsWire.Json

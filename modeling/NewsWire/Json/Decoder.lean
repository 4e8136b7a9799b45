import NewsWire.Json.Reader
import NewsWire.Text.Blank

/-!
# Typed decoders

A decoder turns a JSON value into a value of a Lean type, or says what disagrees. It carries the
schema of what it takes, so the same decoder reads texts: the schema reports the first disagreement
with its place, and what it lets through is decoded as a value.

The fields of a record are decoded together by `Fields`, an applicative functor. A field is found in
an object by its key, so the order of the members does not matter and unknown ones are ignored; what
does depend on the order is which of several disagreements is reported, namely the first in the
order of the members, and missing fields last. In an array a field is found by its place.

Decoders are put together from a few combinators and never written by hand. What is proved of them
is proved of the combinators, one lemma each, and every record of a feed is then an instance: that a
decoder does not depend on the order of members, that it undoes an encoder, what it makes of null.
-/

namespace NewsWire.Json

/-! ## Decoders -/

structure Decoder (α : Type) where
  schema : Schema
  ofValue : Value → Except Mismatch α

namespace Decoder

variable {α β : Type}

def any : Decoder Value := ⟨.any, .ok⟩

def text : Decoder String where
  schema := .text
  ofValue
    | .string s => .ok s
    | v => .error (.wrongType v.found Schema.text.expected)

/-- A whole number in a range. -/
def int (r : IntRange) : Decoder Int where
  schema := .int r
  ofValue
    | .number n => r.check n
    | v => .error (.wrongType v.found r.name)

/-- A value that may be null. -/
def optional (d : Decoder α) : Decoder (Option α) where
  schema := .optional d.schema
  ofValue
    | .null => .ok none
    | v => (d.ofValue v).map some

theorem ofValue_optional {v : Value} (h : v ≠ .null) (d : Decoder α) :
    d.optional.ofValue v = (d.ofValue v).map some := by
  cases v with
  | null => exact absurd rfl h
  | _ => rfl

/-- An array of items; the first item that disagrees is reported. -/
def list (d : Decoder α) : Decoder (List α) where
  schema := .list d.schema
  ofValue
    | .array vs => vs.mapM d.ofValue
    | v => .error (.wrongType v.found "a sequence")

/-- An object whose members are all of one kind, in order. -/
def map (d : Decoder α) : Decoder (List (String × α)) where
  schema := .any
  ofValue
    | .object members => members.mapM fun (k, v) ↦ (d.ofValue v).map (k, ·)
    | v => .error (.wrongType v.found "a map")

def mapping (f : α → β) (d : Decoder α) : Decoder β :=
  ⟨d.schema, fun v ↦ (d.ofValue v).map f⟩

/-- A value of a type read from a text. -/
def parse (d : Decoder α) (text : List Char) : Except Complaint α :=
  match d.schema.parse text with
  | .error e => .error e
  | .ok v =>
    match d.ofValue v with
    | .ok a => .ok a
    | .error m => .error ⟨.mismatch m, none⟩

end Decoder

/-! ## The fields of a record

`Fields` is not a monad: which fields a record has must be known before any of them is read, since a
text is read under the schema of the record, in which every key has its place. With applicative
combination the table of the fields is the concatenation of the tables. -/

/-- What fields of a record give, found in the members of an object or in the items of an array.
A disagreement about a member comes with the index of the member; a missing field comes after all
members. The items left over by an array are returned. -/
structure Fields (α : Type) where
  table : FieldTable
  ofMembers : Members → Except (Nat × Mismatch) α
  ofItems : (expected : String) → (index : Nat) → List Value → Except Mismatch (α × List Value)

namespace Fields

variable {α β : Type}

/-- The index of the first member with a key. -/
def indexOf (key : String) (members : Members) : Nat :=
  members.findIdx fun m ↦ m.1 == key

/-- One field. `absent` is its value when it may be left out. -/
def field (name : String) (presence : Presence) (absent : Option α) (d : Decoder α) :
    Fields α where
  table := [(name, presence, d.schema)]
  ofMembers members :=
    match members.lookup name, absent with
    | some v, _ => (d.ofValue v).mapError (indexOf name members, ·)
    | none, some a => .ok a
    | none, none => .error (members.length, .missingField name)
  ofItems expected index
    | v :: rest => (d.ofValue v).map (·, rest)
    | [] =>
      match presence, absent with
      | .optional, some a => .ok (a, [])
      | _, _ => .error (.wrongLength index expected)

/-- A value that takes no field. -/
def done (a : α) : Fields α where
  table := []
  ofMembers _ := .ok a
  ofItems _ _ items := .ok (a, items)

/-- Both parts; the earlier of two disagreements is reported. -/
def both (fields : Fields (α → β)) (more : Fields α) : Fields β where
  table := fields.table ++ more.table
  ofMembers members :=
    match fields.ofMembers members, more.ofMembers members with
    | .ok f, .ok a => .ok (f a)
    | .ok _, .error e => .error e
    | .error e, .ok _ => .error e
    | .error e, .error e' => .error (if e'.1 < e.1 then e' else e)
  ofItems expected index items := do
    let (f, items) ← fields.ofItems expected index items
    let (a, items) ← more.ofItems expected (index + fields.table.length) items
    return (f a, items)

instance : Pure Fields := ⟨done⟩

instance : Functor Fields where
  map f fields := (done f).both fields

instance : Seq Fields where
  seq f a := f.both (a ())

def required (name : String) (d : Decoder α) : Fields α :=
  field name .required none d

/-- A field that has a value when it is left out. -/
def withDefault (name : String) (default : α) (d : Decoder α) : Fields α :=
  field name .optional (some default) d

/-- A field that may be null, and may be left out. -/
def optional (name : String) (d : Decoder α) : Fields (Option α) :=
  withDefault name none d.optional

/-- A field that may be null, and may be left out of an object but not of an array. -/
def nullable (name : String) (d : Decoder α) : Fields (Option α) :=
  field name .inArray (some none) d.optional

/-- The decoder of a record with these fields. An array may end early only where the fields left
have values of their own, and must not go on after the last field. -/
def record (name : String) (fields : Fields α) : Decoder α where
  schema := .record name fields.table
  ofValue
    | .object members => (fields.ofMembers members).mapError Prod.snd
    | .array items => do
      let (a, rest) ← fields.ofItems (recordOfLength name fields.table.length) 0 items
      if rest.isEmpty then return a
      else .error (.wrongLength items.length "fewer elements in array")
    | v => .error (.wrongType v.found (recordName name))

end Fields

/-! ## Words, integers and lenient numbers

A lenient number is a field that some feeds write as a number and others as a text. As a number it
must be whole and in range. As a text it is always accepted; blanks around a decimal numeral of the
range are ignored, and any other text reads as absent. So a feed that begins to write words where a
number was loses the number, and never the item. -/

namespace Decoder

def word32 : Decoder UInt32 := (int .word32).mapping fun i ↦ UInt32.ofNat i.toNat

def word64 : Decoder UInt64 := (int .word64).mapping fun i ↦ UInt64.ofNat i.toNat

def int64 : Decoder Int64 := (int .int64).mapping Int64.ofInt

/-- How complaints call the choice between a number and a text. -/
def numberOrText : String := "NumberOrText"

/-- A number in a range, a text that may hold one, or null. -/
def lenient (r : IntRange) : Decoder (Option Int) where
  schema := .any
  ofValue
    | .null => .ok none
    | .number n => match r.check n with
      | .ok i => .ok (some i)
      | .error _ => .error (.noAlternative numberOrText)
    | .string s => .ok (Text.integer? r.min r.max (Text.trim s.toList))
    | _ => .error (.noAlternative numberOrText)

def lenientWord64 : Decoder (Option UInt64) :=
  (lenient .word64).mapping fun i ↦ i.map fun i ↦ UInt64.ofNat i.toNat

def lenientInt64 : Decoder (Option Int64) :=
  (lenient .int64).mapping fun i ↦ i.map Int64.ofInt

end Decoder

end NewsWire.Json

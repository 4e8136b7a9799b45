/-!
# UTF-8

The decoder takes one byte at a time. Between characters it expects a first byte; inside a character
it knows how many bytes are owed, the range the next one must be in, and the bits so far. Bytes that
begin no character are malformed one by one; a character that is broken off is malformed as a whole,
and the byte that broke it off is read anew. So each malformed stretch is as long as the longest
beginning of a character that it could be.

Overlong forms, surrogates and numbers above the last character need no check of their own: each
would begin with a second byte outside the range that its first byte leaves, so they are excluded by
the range that `Pending` carries. What is completed is an `Option`, and only the two readers at the
end differ in what they make of a malformed stretch.
-/

namespace NewsWire.Text.Utf8

def encode (cs : List Char) : List UInt8 :=
  cs.flatMap String.utf8EncodeChar

/-- A character of which `owed` more bytes are to come, the next one between `low` and `high`. -/
structure Pending where
  owed : Nat
  low : Nat
  high : Nat
  bits : Nat
  deriving DecidableEq, Repr

/-- A first byte: a whole character, the beginning of one, or malformed. -/
def first (b : Nat) : Option Char ⊕ Pending :=
  if b < 0x80 then .inl (some (Char.ofNat b))
  else if b < 0xC2 then .inl none
  else if b < 0xE0 then .inr ⟨1, 0x80, 0xBF, b - 0xC0⟩
  else if b = 0xE0 then .inr ⟨2, 0xA0, 0xBF, 0⟩
  else if b = 0xED then .inr ⟨2, 0x80, 0x9F, 0xD⟩
  else if b < 0xF0 then .inr ⟨2, 0x80, 0xBF, b - 0xE0⟩
  else if b = 0xF0 then .inr ⟨3, 0x90, 0xBF, 0⟩
  else if b < 0xF4 then .inr ⟨3, 0x80, 0xBF, b - 0xF0⟩
  else if b = 0xF4 then .inr ⟨3, 0x80, 0x8F, 4⟩
  else .inl none

/-- Read a byte between characters: what is completed, and what is pending. -/
def begin (b : Nat) : List (Option Char) × Option Pending :=
  match first b with
  | .inl c => ([c], none)
  | .inr p => ([], some p)

/-- Read a byte: what is completed, and what is pending. -/
def step (pending : Option Pending) (b : Nat) : List (Option Char) × Option Pending :=
  match pending with
  | none => begin b
  | some p =>
    if p.low ≤ b && b ≤ p.high then
      let bits := p.bits * 64 + (b - 0x80)
      if p.owed ≤ 1 then ([some (Char.ofNat bits)], none)
      else ([], some ⟨p.owed - 1, 0x80, 0xBF, bits⟩)
    else
      let (done, next) := begin b
      (none :: done, next)

/-- The characters of a sequence of bytes, `none` for each malformed stretch. -/
def decodeFrom (pending : Option Pending) : List UInt8 → List (Option Char)
  | [] => if pending.isSome then [none] else []
  | b :: bs =>
    let (done, next) := step pending b.toNat
    done ++ decodeFrom next bs

/-- The text of well-formed bytes. -/
def decode? (bs : List UInt8) : Option (List Char) :=
  (decodeFrom none bs).mapM id

/-- The text of any bytes, with a replacement character for each malformed stretch. -/
def decodeLossy (bs : List UInt8) : List Char :=
  (decodeFrom none bs).map fun c ↦ c.getD '\ufffd'

end NewsWire.Text.Utf8

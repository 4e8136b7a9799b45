import NewsWire.Text.SingleByte
import NewsWire.Text.Utf8

/-!
# Character sets of fetched texts

The bytes of a text come with a label for their character set, or without one. A byte-order mark at
their beginning has precedence over the label and is not part of the text. A label that is unknown
counts as UTF-8. Bytes that are malformed in the set stand for the replacement character, so every
sequence of bytes is a text.

That no text is refused is what a poll relies on: a document that came over the network complete is
read, whatever its bytes are, and a fault of its encoding shows in the article and not in a failed
poll. The sets are those that documents on the web are labelled with; the labels and their meaning
follow the same practice, by which some labels name a larger set than they say.
-/

namespace NewsWire.Text

inductive Charset where
  | utf8
  | utf16 (bigEndian : Bool)
  | singleByte (set : SingleByte)
  deriving DecidableEq, Repr

namespace Charset

/-- The labels of UTF-8. -/
def utf8Labels : List String :=
  ["unicode-1-1-utf-8", "unicode11utf8", "unicode20utf8", "utf-8", "utf8", "x-unicode20utf8"]

/-- The labels of UTF-16 with the lower byte first. -/
def utf16Labels : List String :=
  ["csunicode", "iso-10646-ucs-2", "ucs-2", "unicode", "unicodefeff", "utf-16", "utf-16le"]

/-- The labels of UTF-16 with the higher byte first. -/
def utf16BigLabels : List String := ["unicodefffe", "utf-16be"]

def isLabelSpace (c : Char) : Bool :=
  c == ' ' || c == '\t' || c == '\n' || c == '\r' || c == '\x0c'

def ofLabel? (label : String) : Option Charset :=
  let inner := ((label.toList.dropWhile isLabelSpace).reverse.dropWhile isLabelSpace).reverse
  let label := String.ofList (inner.map Char.toLower)
  if utf8Labels.contains label then some .utf8
  else if utf16Labels.contains label then some (.utf16 false)
  else if utf16BigLabels.contains label then some (.utf16 true)
  else (SingleByte.ofLabel? label).map .singleByte

/-! ## UTF-16

A surrogate without its other half is malformed, and so is an odd byte at the end. The half that
waits is kept apart from the units, so a unit that does not complete it is read anew. -/

/-- The 16-bit units of a sequence of bytes; a last odd byte gives none. -/
def units (bigEndian : Bool) : List UInt8 → List (Option Nat)
  | a :: b :: rest =>
    let n := if bigEndian then a.toNat * 256 + b.toNat else b.toNat * 256 + a.toNat
    some n :: units bigEndian rest
  | [_] => [none]
  | [] => []

/-- The characters of 16-bit units. `high` is a leading surrogate that waits for its other half. -/
def ofUnits (high : Option Nat) : List (Option Nat) → List Char
  | [] => if high.isSome then ['\ufffd'] else []
  | none :: _ => ['\ufffd']
  | some n :: rest =>
    match high with
    | some h =>
      if 0xDC00 ≤ n ∧ n ≤ 0xDFFF then
        Char.ofNat (0x10000 + (h - 0xD800) * 0x400 + (n - 0xDC00)) :: ofUnits none rest
      else if 0xD800 ≤ n ∧ n ≤ 0xDBFF then '\ufffd' :: ofUnits (some n) rest
      else '\ufffd' :: Char.ofNat n :: ofUnits none rest
    | none =>
      if 0xD800 ≤ n ∧ n ≤ 0xDBFF then ofUnits (some n) rest
      else if 0xDC00 ≤ n ∧ n ≤ 0xDFFF then '\ufffd' :: ofUnits none rest
      else Char.ofNat n :: ofUnits none rest

/-! ## Decoding -/

def decode (c : Charset) (bs : List UInt8) : List Char :=
  match c with
  | .utf8 => Utf8.decodeLossy bs
  | .utf16 bigEndian => ofUnits none (units bigEndian bs)
  | .singleByte set => set.decode bs

/-- The character set that a byte-order mark announces, and the bytes after the mark. -/
def ofMark? : List UInt8 → Option (Charset × List UInt8)
  | 0xEF :: 0xBB :: 0xBF :: rest => some (.utf8, rest)
  | 0xFF :: 0xFE :: rest => some (.utf16 false, rest)
  | 0xFE :: 0xFF :: rest => some (.utf16 true, rest)
  | _ => none

/-- The text of bytes that come with a label. -/
def decodeLabelled (label : Option String) (bs : List UInt8) : List Char :=
  match ofMark? bs with
  | some (set, rest) => set.decode rest
  | none => ((label.bind ofLabel?).getD .utf8).decode bs

end Charset

end NewsWire.Text

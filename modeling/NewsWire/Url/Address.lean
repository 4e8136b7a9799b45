import NewsWire.Text.Blank
import NewsWire.Text.Numeral

/-!
# Numeric addresses

IPv4 addresses have one to four parts between dots, each decimal, octal after a leading zero or
hexadecimal after `0x`; the last part fills all the bytes that are left. A host whose last part is a
number must be such an address.

IPv6 addresses have eight 16-bit pieces, of which one run of zeros may be left out as `::` and the
last two may be written as an IPv4 address. They are written with the longest run of at least two
zeros left out.

An address is kept as its number, so two ways of writing one address are one host, and a URL is
compared with another by its parts. Reading an address is the first thing that can go wrong with a
URL, so the errors of URLs are named here, below everything that raises them.
-/

namespace NewsWire.Url

open NewsWire.Text

/-! ## What can be wrong with a URL -/

/-- Why a text is not an absolute URL. -/
inductive Error where
  | emptyHost
  | badDomain
  | badPort
  | badIpv4
  | badIpv6
  | badHostCharacter
  | relative
  deriving DecidableEq, Repr

def Error.message : Error → String
  | .emptyHost => "empty host"
  | .badDomain => "invalid international domain name"
  | .badPort => "invalid port number"
  | .badIpv4 => "invalid IPv4 address"
  | .badIpv6 => "invalid IPv6 address"
  | .badHostCharacter => "invalid domain character"
  | .relative => "relative URL without a base"

def dotted (cs : List Char) : List (List Char) := pieces (· == '.') cs

/-! ## IPv4

A part that is too large is told apart from one that is no number: a host that ends in the former is
meant as an address and refused, while the latter makes it a name. -/

def octalDigit? (c : Char) : Option Nat := (digit? c).filter (· < 8)

/-- The value of one part of an IPv4 address; `some none` when it is too large for 32 bits. -/
def ipv4Number? (cs : List Char) : Option (Option Nat) :=
  let value : Option Nat := match cs with
    | [] => none
    | '0' :: 'x' :: ds => positional? hexDigit? 16 0 ds
    | '0' :: 'X' :: ds => positional? hexDigit? 16 0 ds
    | '0' :: d :: ds => positional? octalDigit? 8 0 (d :: ds)
    | ds => positional? digit? 10 0 ds
  value.map fun n ↦ if n ≤ maxWord32 then some n else none

/-- The last part of a host, without the empty one after a final dot, is a number. -/
def endsInNumber (host : List Char) : Bool :=
  let last := match (dotted host).reverse with
    | [] :: p :: _ => some p
    | [] :: [] => none
    | p :: _ => some p
    | [] => none
  match last with
  | none => false
  | some p => (!p.isEmpty && p.all Char.isDigit) || (ipv4Number? p).isSome

/-- The bytes of a part, with one part for all the bytes that are left at the end. -/
def ipv4Value? : (left : Nat) → List Nat → Option Nat
  | _, [] => none
  | left, [n] => if n < Nat.pow 256 left then some n else none
  | 0, _ => none
  | left + 1, n :: ns =>
    if n > 255 then none else (ipv4Value? left ns).map (n * Nat.pow 256 left + ·)

/-- The address of a host that ends in a number. -/
def parseIpv4 (host : List Char) : Except Error Nat :=
  let parts := match (dotted host).reverse with
    | [] :: rest => rest.reverse
    | parts => parts.reverse
  let numbers := parts.mapM fun p ↦ (ipv4Number? p).join
  match if parts.length > 4 then none else numbers.bind (ipv4Value? 4) with
  | some n => .ok n
  | none => .error .badIpv4

/-- An IPv4 address as four decimal numbers. -/
def ipv4Text (n : Nat) : List Char :=
  ['.'].intercalate ([n / 0x1000000, n / 0x10000 % 256, n / 256 % 256, n % 256].map
    (Nat.toDigits 10 ·))

/-! ## IPv6

The double colon is looked for first, and what stands on either side of it is read by itself. So an
address without one is one side that must have all eight pieces. -/

/-- One to four hexadecimal digits. -/
def ipv6Piece? (cs : List Char) : Option Nat :=
  if cs.isEmpty || cs.length > 4 then none else hexDigits? cs

/-- One of the four numbers of an IPv4 address at the end of an IPv6 address: no leading zero. -/
def byteNumber? (cs : List Char) : Option Nat :=
  match cs with
  | '0' :: _ :: _ => none
  | _ => (digits? cs).filter (· ≤ 255)

/-- An IPv4 address at the end of an IPv6 address, as two pieces. -/
def embeddedIpv4? (cs : List Char) : Option (List Nat) :=
  match (dotted cs).mapM byteNumber? with
  | some [a, b, c, d] => some [a * 256 + b, c * 256 + d]
  | _ => none

/-- Pieces between colons. The last one may be an IPv4 address if `last` says that the address ends
here. -/
def ipv6Pieces? (last : Bool) : List (List Char) → Option (List Nat)
  | [] => some []
  | [p] => if last && p.contains '.' then embeddedIpv4? p else (ipv6Piece? p).map ([·])
  | p :: ps =>
    match ipv6Piece? p, ipv6Pieces? last ps with
    | some n, some ns => some (n :: ns)
    | _, _ => none

/-- One side of a double colon, or a whole address without one. -/
def ipv6Side? (last : Bool) (cs : List Char) : Option (List Nat) :=
  if cs.isEmpty then some [] else ipv6Pieces? last (pieces (· == ':') cs)

/-- The text before and after the first double colon. -/
def splitDoubleColon : List Char → Option (List Char × List Char)
  | [] => none
  | c :: cs =>
    match c, cs with
    | ':', ':' :: rest => some ([], rest)
    | _, _ => (splitDoubleColon cs).map fun (a, b) ↦ (c :: a, b)

/-- The eight pieces of an address between brackets. -/
def parseIpv6 (cs : List Char) : Except Error (List Nat) :=
  let pieces : Option (List Nat) :=
    match splitDoubleColon cs with
    | none => (ipv6Side? true cs).filter fun ps ↦ ps.length = 8
    | some (a, b) =>
      match ipv6Side? false a, ipv6Side? true b with
      | some ps, some qs =>
        let n := ps.length + qs.length
        if n ≤ 7 then some (ps ++ List.replicate (8 - n) 0 ++ qs) else none
      | _, _ => none
  match pieces with
  | some ps => .ok ps
  | none => .error .badIpv6

def leadingZeros (ps : List Nat) : Nat := (ps.takeWhile (· == 0)).length

/-- Where the first longest run of zeros begins, and how long it is. -/
def longestZeros : (index : Nat) → List Nat → Nat × Nat
  | i, [] => (i, 0)
  | i, p :: ps =>
    let here := leadingZeros (p :: ps)
    let later := longestZeros (i + 1) ps
    if here ≥ later.2 then (i, here) else later

/-- Pieces in hexadecimal with colons between them. -/
def ipv6PiecesText (ps : List Nat) : List Char :=
  [':'].intercalate (ps.map (Nat.toDigits 16 ·))

/-- An IPv6 address without its brackets. -/
def ipv6Text (ps : List Nat) : List Char :=
  let (start, n) := longestZeros 0 ps
  if n < 2 then ipv6PiecesText ps
  else ipv6PiecesText (ps.take start) ++ ':' :: ':' :: ipv6PiecesText (ps.drop (start + n))

end NewsWire.Url

/-!
# Decimal numerals

A decimal numeral is an optional sign and one or more of the digits `0` to `9`; leading zeros are
allowed and nothing else is. The readers give the exact value, or `none` when the text is not a
numeral or its value is out of the asked range. A plus sign is always allowed, a minus sign only
for integers: `-0` is no natural numeral.

A value is read as a number without bound and compared with its range afterwards. So the digits are
never looked at for overflow, and one reader serves words of every size: a numeral of hundred digits
is out of range in the same way as one that is too large by one.
-/

namespace NewsWire.Text

def digit? (c : Char) : Option Nat :=
  if '0' ≤ c ∧ c ≤ '9' then some (c.toNat - '0'.toNat) else none

def hexDigit? (c : Char) : Option Nat :=
  if '0' ≤ c ∧ c ≤ '9' then some (c.toNat - '0'.toNat)
  else if 'a' ≤ c ∧ c ≤ 'f' then some (c.toNat - 'a'.toNat + 10)
  else if 'A' ≤ c ∧ c ≤ 'F' then some (c.toNat - 'A'.toNat + 10)
  else none

/-- The value of a run of digits in the given base, read on from `acc`. -/
def positional? (digit? : Char → Option Nat) (base : Nat) (acc : Nat) : List Char → Option Nat
  | [] => some acc
  | c :: cs =>
    match digit? c with
    | some d => positional? digit? base (acc * base + d) cs
    | none => none

/-- One or more decimal digits. -/
def digits? : List Char → Option Nat
  | [] => none
  | cs => positional? digit? 10 0 cs

/-- One or more hexadecimal digits. -/
def hexDigits? : List Char → Option Nat
  | [] => none
  | cs => positional? hexDigit? 16 0 cs

/-- An integer numeral of value between `min` and `max`. The minus sign is allowed only where some
value of the range is negative. -/
def integer? (min max : Int) (cs : List Char) : Option Int :=
  let value := match cs with
    | '+' :: rest => (digits? rest).map Int.ofNat
    | '-' :: rest => if min < 0 then (digits? rest).map fun n ↦ -(n : Int) else none
    | _ => (digits? cs).map Int.ofNat
  value.filter fun i ↦ min ≤ i && i ≤ max

/-- A natural numeral of value at most `max`. -/
def natural? (max : Nat) (cs : List Char) : Option Nat :=
  (integer? 0 max cs).map Int.toNat

def maxWord32 : Nat := UInt32.size - 1

def maxWord64 : Nat := UInt64.size - 1

def minInt64 : Int := -0x8000000000000000

def maxInt64 : Int := 0x7fffffffffffffff

/-- The lower-case hexadecimal digit of a value below sixteen. -/
def hexDigit (n : Nat) : Char :=
  if n < 10 then Char.ofNat ('0'.toNat + n) else Char.ofNat ('a'.toNat + (n - 10))

end NewsWire.Text

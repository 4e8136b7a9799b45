/-!
# Shortest decimal digits of a binary number

A finite 64-bit binary number is `m * 2 ^ q` for integers `m` and `q`. The reals that round to it
form an interval around it whose ends belong to it exactly when `m` is even. Among the decimal
numbers of that interval this module picks one with the fewest digits, and of those the nearest.

For every digit count the only candidates are the two neighbours of the value on the decimal grid
with that many digits: if any point of the grid lies in the interval, one of the neighbours does.
All comparisons are between natural numbers, after scaling by a power of two.

Faster ways of finding the digits work with approximations and must show that these are near enough.
Here everything is exact, and the digit counts are tried one after another. There are seventeen of
them at most, and few numbers in a payload.
-/

namespace NewsWire.Decimal

/-! ## The parts of a binary number -/

/-- A finite binary magnitude `mantissa * 2 ^ exponent`. The flag says that the next smaller
number is only half as far away as the next larger one. -/
structure Binary where
  mantissa : Nat
  exponent : Int
  narrowBelow : Bool
  deriving DecidableEq, Repr

/-- The bit of the 64-bit form that holds the sign. -/
def signBit : Nat := 0x8000000000000000

/-- The bit above the fraction of the 64-bit form. Normal numbers have it without writing it. -/
def leadingBit : Nat := 0x10000000000000

/-- The magnitude of a finite number from its 64-bit form; infinities and not-a-number are read
as if the format went on. -/
def Binary.ofFloat (x : Float) : Binary :=
  let bits : Nat := x.toBits.toNat % signBit
  let fraction := bits % leadingBit
  let biased : Nat := bits / leadingBit
  if biased = 0 then ⟨fraction, -1074, false⟩
  else ⟨leadingBit + fraction, (biased : Int) - 1075, fraction = 0 && biased > 1⟩

/-- A positive quotient of natural numbers. -/
structure Ratio where
  num : Nat
  den : Nat
  deriving DecidableEq, Repr

/-- `n / 4 * 2 ^ e`. -/
def Ratio.quarters (n : Nat) (e : Int) : Ratio :=
  if e ≥ 2 then ⟨n * Nat.pow 2 (e - 2).toNat, 1⟩ else ⟨n, Nat.pow 2 (2 - e).toNat⟩

/-- The quotient in units of `10 ^ k`. -/
def Ratio.inUnits (r : Ratio) (k : Int) : Ratio :=
  if k ≥ 0 then ⟨r.num, r.den * Nat.pow 10 k.toNat⟩
  else ⟨r.num * Nat.pow 10 (-k).toNat, r.den⟩

/-- The number of decimal digits, one for zero. -/
def digitCount (n : Nat) : Nat := (Nat.toDigits 10 n).length

/-- The number of digits before the decimal point: the least `e` with `r < 10 ^ e`, negative when
zeros follow the point. -/
def Ratio.magnitude (r : Ratio) : Int :=
  if r.num ≥ r.den then digitCount (r.num / r.den)
  else
    let e : Int := 1 - digitCount (r.den / r.num)
    let u := r.inUnits e
    if u.num ≥ u.den then e + 1
    else
      let u := r.inUnits (e - 1)
      if u.num < u.den then e - 1 else e

/-! ## The search -/

/-- Decimal digits and the place of the point: the value is `0.d₁d₂… * 10 ^ point`. -/
structure Digits where
  digits : List Char
  point : Int
  deriving DecidableEq, Repr

/-- The interval of reals that round to a number, cut on one decimal grid: the value and the two
ends in units of the grid. -/
structure Cell where
  low : Ratio
  value : Ratio
  high : Ratio
  closed : Bool

/-- A grid point lies in the interval. -/
def Cell.contains (c : Cell) (n : Nat) : Bool :=
  let below := n * c.low.den
  let above := n * c.high.den
  (c.low.num < below || (c.closed && c.low.num == below)) &&
    (above < c.high.num || (c.closed && above == c.high.num))

/-- The nearest grid point of the interval: the neighbour above wins when it is strictly nearer or
when the distances are equal and the neighbour below is odd. -/
def Cell.pick? (c : Cell) : Option Nat :=
  let down := c.value.num / c.value.den
  let rest := c.value.num % c.value.den
  match c.contains down, c.contains (down + 1) with
  | false, false => none
  | true, false => some down
  | false, true => some (down + 1)
  | true, true =>
    if 2 * rest < c.value.den || (2 * rest == c.value.den && down % 2 == 0) then some down
    else some (down + 1)

def Binary.cell (b : Binary) (k : Int) : Cell :=
  let m := b.mantissa
  let below := if b.narrowBelow then 4 * m - 1 else 4 * m - 2
  { low := (Ratio.quarters below b.exponent).inUnits k
    value := (Ratio.quarters (4 * m) b.exponent).inUnits k
    high := (Ratio.quarters (4 * m + 2) b.exponent).inUnits k
    closed := m % 2 == 0 }

/-- Search with `n` more digits to try, the grid being `10 ^ (magnitude - tried)`. -/
def Binary.search (b : Binary) (magnitude : Int) (tried : Nat) : Nat → Option (Nat × Int)
  | 0 => none
  | n + 1 =>
    let k := magnitude - (tried + 1 : Nat)
    match (b.cell k).pick? with
    | some d => some (d, k)
    | none => b.search magnitude (tried + 1) n

/-- Digits without the zeros they end with. -/
def dropTrailingZeros (ds : List Char) : List Char :=
  (ds.reverse.dropWhile (· == '0')).reverse

/-- The shortest digits of a positive number. Seventeen always suffice. -/
def Binary.shortest (b : Binary) : Digits :=
  let magnitude := (Ratio.quarters (4 * b.mantissa) b.exponent).magnitude
  match b.search magnitude 0 17 with
  | some (d, k) =>
    let ds := Nat.toDigits 10 d
    ⟨dropTrailingZeros ds, k + ds.length⟩
  | none => ⟨[], 0⟩

end NewsWire.Decimal

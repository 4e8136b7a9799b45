/-!
# Durations

A duration is a 64-bit count of seconds and a count of nanoseconds below one second. Addition and
multiplication carry from the nanoseconds into the seconds and fail when the seconds do not fit;
they never wrap.

The nanoseconds are below a second by the type, so no operation has to expect others, and two
durations are equal when their parts are. `toNanos` is what a duration means: a whole number, and
the operations are those of whole numbers as long as the result can be written in two parts.
-/

namespace NewsWire.Poll

def nanosPerSecond : Nat := 1000000000

def nanosPerMilli : Nat := 1000000

/-- The first count of seconds that does not fit. -/
def secondsLimit : Nat := UInt64.size

/-- A length of time. -/
structure Duration where
  seconds : Nat
  nanos : Nat
  seconds_lt : seconds < secondsLimit
  nanos_lt : nanos < nanosPerSecond
  deriving DecidableEq, Repr

/-- Why a length of time cannot be computed. -/
inductive DurationFault where
  | adding
  | multiplying
  deriving DecidableEq, Repr

def DurationFault.message : DurationFault → String
  | .adding => "overflow when adding durations"
  | .multiplying => "overflow when multiplying duration by scalar"

namespace Duration

def toNanos (d : Duration) : Nat := d.seconds * nanosPerSecond + d.nanos

/-- The whole length in milliseconds, rounded down. -/
def toMillis (d : Duration) : Nat := d.seconds * 1000 + d.nanos / nanosPerMilli

/-- Seconds and nanoseconds, if they fit. -/
def of? (seconds nanos : Nat) : Option Duration :=
  if h : seconds < secondsLimit ∧ nanos < nanosPerSecond then
    some ⟨seconds, nanos, h.1, h.2⟩
  else none

theorem toNanos_of? {seconds nanos : Nat} {d : Duration} (h : of? seconds nanos = some d) :
    d.toNanos = seconds * nanosPerSecond + nanos := by
  rw [of?] at h
  split at h
  · rw [← Option.some.inj h]
    rfl
  · cases h

def ofSeconds (n : UInt64) : Duration :=
  ⟨n.toNat, 0, n.toNat_lt, by decide⟩

def ofMillis (n : UInt64) : Duration where
  seconds := n.toNat / 1000
  nanos := n.toNat % 1000 * nanosPerMilli
  seconds_lt := Nat.lt_of_le_of_lt (Nat.div_le_self _ _) n.toNat_lt
  nanos_lt := by
    have : n.toNat % 1000 < 1000 := Nat.mod_lt _ (by decide)
    simp only [nanosPerSecond, nanosPerMilli]
    omega

theorem toNanos_ofSeconds (n : UInt64) : (ofSeconds n).toNanos = n.toNat * nanosPerSecond := by
  rw [toNanos, ofSeconds, Nat.add_zero]

theorem toNanos_ofMillis (n : UInt64) : (ofMillis n).toNanos = n.toNat * nanosPerMilli := by
  simp only [toNanos, ofMillis, nanosPerSecond, nanosPerMilli]
  omega

def add (a b : Duration) : Except DurationFault Duration :=
  let nanos := a.nanos + b.nanos
  let sum := a.seconds + b.seconds
  let carried :=
    if nanos < nanosPerSecond then of? sum nanos else of? (sum + 1) (nanos - nanosPerSecond)
  match if sum < secondsLimit then carried else none with
  | some d => .ok d
  | none => .error .adding

/-- A length so many times. -/
def mul (a : Duration) (n : UInt32) : Except DurationFault Duration :=
  let nanos := a.nanos * n.toNat
  match of? (a.seconds * n.toNat + nanos / nanosPerSecond) (nanos % nanosPerSecond) with
  | some d => .ok d
  | none => .error .multiplying

end Duration

end NewsWire.Poll

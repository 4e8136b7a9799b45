import Mathlib.Algebra.Group.Nat.Defs
import NewsWire.Poll.Config
import NewsWire.Proofs.Except

/-!
# Exact lengths of time

A duration has its length in two parts, and the operations carry from the nanoseconds into the
seconds. In whole nanoseconds the parts are not to be seen: the durations are the numbers below
`Duration.nanosLimit`, and a sum or a product is the duration of its number, or a fault if the
number is not below the limit (`add_eq_ofNanos` and `mul_eq_ofNanos`).

The latency of a configuration is a sum and then a product, so there are two numbers that may be too
large. The sum comes first, and a budget of zero does not make up for it
(`worstCaseLatency_exact`).

A product is computed with a check of the seconds before the carry is added, and another one after
it. Compared with the number of the product, the first check is superfluous, and `of?_of_check` says
so; after that each operation is one checked constructor.
-/

namespace NewsWire.Poll

/-! ## Durations as numbers -/

namespace Duration

variable {d : Duration} {fault fault' : DurationFault} {seconds nanos total : Nat}

def nanosLimit : Nat := secondsLimit * nanosPerSecond

def orFault (fault : DurationFault) : Option Duration → Except DurationFault Duration
  | some d => .ok d
  | none => .error fault

/-- The duration of a number of nanoseconds, or a fault if they do not fit. -/
def ofNanos (fault : DurationFault) (total : Nat) : Except DurationFault Duration :=
  orFault fault (of? (total / nanosPerSecond) (total % nanosPerSecond))

theorem toNanos_lt (d : Duration) : d.toNanos < nanosLimit := by
  have hseconds := d.seconds_lt
  have hnanos := d.nanos_lt
  simp only [toNanos, nanosLimit, secondsLimit, UInt64.size, nanosPerSecond] at *
  omega

theorem of?_of_le (h : secondsLimit ≤ seconds) (nanos : Nat) : of? seconds nanos = none :=
  dif_neg fun hfits ↦ absurd hfits.1 (Nat.not_lt.mpr h)

theorem ofNanos_mul_add (h : nanos < nanosPerSecond) :
    ofNanos fault (seconds * nanosPerSecond + nanos) = orFault fault (of? seconds nanos) := by
  have hpos : 0 < nanosPerSecond := by decide
  rw [ofNanos, Nat.mul_comm, Nat.mul_add_div hpos, Nat.div_eq_of_lt h, Nat.add_zero,
    Nat.mul_add_mod, Nat.mod_eq_of_lt h]

theorem ofNanos_toNanos (d : Duration) : ofNanos fault d.toNanos = .ok d := by
  rw [toNanos, ofNanos_mul_add d.nanos_lt, of?, dif_pos ⟨d.seconds_lt, d.nanos_lt⟩, orFault]

theorem orFault_eq_ok_iff {found : Option Duration} :
    orFault fault found = .ok d ↔ found = some d := by
  cases found <;> simp [orFault]

theorem orFault_eq_error_iff {found : Option Duration} :
    orFault fault found = .error fault' ↔ fault' = fault ∧ found = none := by
  cases found <;> simp [orFault, eq_comm]

theorem ofNanos_eq_ok_iff : ofNanos fault total = .ok d ↔ d.toNanos = total := by
  constructor
  · intro h
    rw [toNanos_of? (orFault_eq_ok_iff.mp h), Nat.div_add_mod']
  · rintro rfl
    exact ofNanos_toNanos d

theorem of?_eq_none_iff (h : nanos < nanosPerSecond) :
    of? seconds nanos = none ↔ secondsLimit ≤ seconds := by
  constructor
  · intro hnone
    refine Nat.not_lt.mp fun hlt ↦ ?_
    rw [of?, dif_pos ⟨hlt, h⟩] at hnone
    cases hnone
  · intro hle
    exact of?_of_le hle nanos

theorem ofNanos_eq_error_iff :
    ofNanos fault total = .error fault' ↔ fault' = fault ∧ nanosLimit ≤ total := by
  have hpos : 0 < nanosPerSecond := by decide
  rw [ofNanos, orFault_eq_error_iff, of?_eq_none_iff (Nat.mod_lt total hpos),
    Nat.le_div_iff_mul_le hpos, nanosLimit]

/-- What comes after a duration looks at its number. -/
theorem ofNanos_bind {β : Type} (next : Nat → Except DurationFault β) :
    (ofNanos fault total >>= fun d ↦ next d.toNanos) =
      if total < nanosLimit then next total else .error fault := by
  cases h : ofNanos fault total with
  | ok d =>
    obtain rfl := ofNanos_eq_ok_iff.mp h
    rw [ok_bind, if_pos d.toNanos_lt]
  | error fault' =>
    obtain ⟨rfl, hle⟩ := ofNanos_eq_error_iff.mp h
    rw [if_neg (Nat.not_lt.mpr hle)]
    rfl

/-- A check of the seconds before they grow refuses nothing that is not refused afterwards. -/
theorem of?_of_check {seconds' : Nat} (h : seconds ≤ seconds') (nanos : Nat) :
    (if seconds < secondsLimit then of? seconds' nanos else none) = of? seconds' nanos := by
  split
  · rfl
  · next hover => exact (of?_of_le (Nat.le_trans (Nat.not_lt.mp hover) h) nanos).symm

/-- **A sum is that of the nanoseconds.** -/
theorem add_eq_ofNanos (a b : Duration) :
    a.add b = ofNanos .adding (a.toNanos + b.toNanos) := by
  have hadd : a.add b = orFault .adding (if a.seconds + b.seconds < secondsLimit then
      if a.nanos + b.nanos < nanosPerSecond then of? (a.seconds + b.seconds) (a.nanos + b.nanos)
      else of? (a.seconds + b.seconds + 1) (a.nanos + b.nanos - nanosPerSecond)
    else none) := rfl
  rw [hadd]
  by_cases hcarry : a.nanos + b.nanos < nanosPerSecond
  · have htotal : a.toNanos + b.toNanos =
        (a.seconds + b.seconds) * nanosPerSecond + (a.nanos + b.nanos) := by
      rw [toNanos, toNanos, Nat.add_mul]
      omega
    rw [if_pos hcarry, of?_of_check (Nat.le_refl _), htotal, ofNanos_mul_add hcarry]
  · -- A second has come together.
    have hnanos : a.nanos + b.nanos - nanosPerSecond < nanosPerSecond := by
      have ha := a.nanos_lt
      have hb := b.nanos_lt
      omega
    have htotal : a.toNanos + b.toNanos =
        (a.seconds + b.seconds + 1) * nanosPerSecond + (a.nanos + b.nanos - nanosPerSecond) := by
      rw [toNanos, toNanos, Nat.add_mul, Nat.add_mul]
      omega
    rw [if_neg hcarry, of?_of_check (Nat.le_succ _), htotal, ofNanos_mul_add hnanos]

/-- **A product is that of the nanoseconds.** -/
theorem mul_eq_ofNanos (a : Duration) (n : UInt32) :
    a.mul n = ofNanos .multiplying (a.toNanos * n.toNat) := by
  have htotal : a.toNanos * n.toNat =
      (a.seconds * n.toNat + a.nanos * n.toNat / nanosPerSecond) * nanosPerSecond +
        a.nanos * n.toNat % nanosPerSecond := by
    rw [toNanos, Nat.add_mul, Nat.add_mul, Nat.add_assoc, Nat.div_add_mod',
      Nat.mul_right_comm]
  rw [htotal, ofNanos_mul_add (Nat.mod_lt _ (by decide))]
  rfl

end Duration

/-! ## The latency -/

namespace Config

/-- The time limit and the delay are whole milliseconds. -/
theorem toNanos_add_toNanos (c : Config) :
    (Duration.ofSeconds c.timeoutSeconds).toNanos + (Duration.ofMillis c.retryDelayMs).toNanos =
      (1000 * c.timeoutSeconds.toNat + c.retryDelayMs.toNat) * nanosPerMilli := by
  rw [Duration.toNanos_ofSeconds, Duration.toNanos_ofMillis]
  simp only [nanosPerSecond, nanosPerMilli]
  omega

theorem worstCaseLatency_eq (c : Config) :
    c.worstCaseLatency =
      if (Duration.ofSeconds c.timeoutSeconds).toNanos +
          (Duration.ofMillis c.retryDelayMs).toNanos < Duration.nanosLimit then
        Duration.ofNanos .multiplying (((Duration.ofSeconds c.timeoutSeconds).toNanos +
          (Duration.ofMillis c.retryDelayMs).toNanos) * c.attemptBudget.toNat)
      else .error .adding := by
  have hmul : (fun attempt : Duration ↦ attempt.mul c.attemptBudget) = fun attempt ↦
      Duration.ofNanos .multiplying (attempt.toNanos * c.attemptBudget.toNat) :=
    funext fun attempt ↦ attempt.mul_eq_ofNanos c.attemptBudget
  rw [worstCaseLatency, Duration.add_eq_ofNanos, hmul]
  exact Duration.ofNanos_bind fun nanos ↦
    Duration.ofNanos .multiplying (nanos * c.attemptBudget.toNat)

theorem nanosLimit_le_iff (millis : Nat) :
    Duration.nanosLimit ≤ millis * nanosPerMilli ↔ 1000 * 2 ^ 64 ≤ millis := by
  simp only [Duration.nanosLimit, secondsLimit, UInt64.size, nanosPerSecond, nanosPerMilli]
  omega

/-- **The latency is exact or refused.** Where there is one, it is the budget times the time limit
and the delay, to the nanosecond. It is refused if the seconds of one attempt do not fit, whatever
the budget, and if those of all attempts do not. -/
theorem worstCaseLatency_exact (c : Config) :
    (∀ latency, c.worstCaseLatency = .ok latency →
      latency.toNanos = c.attemptBudget.toNat *
        (1000 * c.timeoutSeconds.toNat + c.retryDelayMs.toNat) * nanosPerMilli) ∧
    ((∃ fault, c.worstCaseLatency = .error fault) ↔
      2 ^ 64 ≤ c.timeoutSeconds.toNat + c.retryDelayMs.toNat / 1000 ∨
        1000 * 2 ^ 64 ≤ c.attemptBudget.toNat *
          (1000 * c.timeoutSeconds.toNat + c.retryDelayMs.toNat)) ∧
    (c.worstCaseLatency = .error .adding ↔
      2 ^ 64 ≤ c.timeoutSeconds.toNat + c.retryDelayMs.toNat / 1000) := by
  rw [worstCaseLatency_eq, toNanos_add_toNanos]
  split
  · next hlt =>
    have hfits : ¬2 ^ 64 ≤ c.timeoutSeconds.toNat + c.retryDelayMs.toNat / 1000 := by
      rw [← Nat.not_le, nanosLimit_le_iff] at hlt
      omega
    rw [Nat.mul_right_comm, Nat.mul_comm _ c.attemptBudget.toNat]
    refine ⟨fun latency h ↦ Duration.ofNanos_eq_ok_iff.mp h, ?_, ?_⟩
    · rw [or_iff_right hfits, ← nanosLimit_le_iff]
      simp [Duration.ofNanos_eq_error_iff]
    · rw [Duration.ofNanos_eq_error_iff]
      refine iff_of_false ?_ hfits
      rintro ⟨hfault, -⟩
      cases hfault
  · next hle =>
    have hover : 2 ^ 64 ≤ c.timeoutSeconds.toNat + c.retryDelayMs.toNat / 1000 := by
      rw [Nat.not_lt, nanosLimit_le_iff] at hle
      omega
    refine ⟨?_, iff_of_true ⟨.adding, rfl⟩ (.inl hover), iff_of_true rfl hover⟩
    intro latency h
    cases h

/-- No attempt is allowed, but one would take a second too long. -/
example : ({ Config.default with
    timeoutSeconds := 0xFFFFFFFFFFFFFFFF
    retryDelayMs := 1000
    attemptBudget := 0 }).worstCaseLatency = .error .adding := by
  rfl

end Config

end NewsWire.Poll

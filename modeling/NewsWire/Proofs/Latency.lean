import Mathlib.Algebra.Order.BigOperators.Group.Finset
import Mathlib.Data.Real.Basic
import Mathlib.Tactic.GCongr
import Mathlib.Tactic.Linarith
import NewsWire.Proofs.Duration
import NewsWire.Proofs.Page

/-!
# How long a page may take

The worst-case latency of a configuration is meant to bound the time that fetching one page takes:
its requests, none of which takes longer than the time limit, and the waits between them.

A run of the retry loop with `k` attempts lasts for `k` requests and `k - 1` waits
(`Tries.lasts_eq`), and the counter allows up to `RetryMode.mostAttempts` of them. The network can
use them all up, by failing each time as late as it may, so the longest time is known exactly
(`fetchesWithin_iff`). What the configuration says is more than that, by one wait at least, as long
as the budget allows an attempt. A budget of zero does not keep the loop from its first attempt, but
makes the latency zero (`fetchesWithin_worstCaseLatency_iff`).
-/

namespace NewsWire.Poll

open NewsWire.Http

variable {c : Config} {rawUrl : String} {key : Option KeyField} {s : Schedule} {u : Trace}
  {outcomes : ℕ → Outcome} {failures : List Failure} {result : Except Failure Json.Value}
  {latency : Duration} {took : ℕ → ℝ}

/-! ## Lengths of time

A trace has no clock, so the time of a request is given from outside: any function within the time
limit. Times are real numbers, and a bound for all of them is then a bound for whatever the clock of
the host can tell apart. -/

/-- The longest time that one request may take, in nanoseconds. -/
def Config.limitNanos (c : Config) : ℕ := (Duration.ofSeconds c.timeoutSeconds).toNanos

def Config.delayNanos (c : Config) : ℕ := (Duration.ofMillis c.retryDelayMs).toNanos

/-- How long a trace lasts in nanoseconds, where the `i`-th request takes `took i`. -/
noncomputable def Trace.lasts (t : Trace) (took : ℕ → ℝ) : ℝ :=
  ∑ i ∈ Finset.range t.seen.length, took i +
    (t.waits.map fun delayMs ↦ ((Duration.ofMillis delayMs).toNanos : ℝ)).sum

/-- However the network answers, and however long each request takes within the time limit, fetching
a page lasts for so many nanoseconds at most. -/
def Config.FetchesWithin (c : Config) (nanos : ℝ) : Prop :=
  ∀ (rawUrl : String) (key : Option KeyField) (s : Schedule) (outcomes : ℕ → Outcome)
      (took : ℕ → ℝ),
    (∀ i, took i ≤ c.limitNanos) →
    ((fetchPage c rawUrl key).run.run (.inTurn outcomes) s .empty).2.lasts took ≤ nanos

theorem Config.limitNanos_eq_zero_iff (c : Config) : c.limitNanos = 0 ↔ c.timeoutSeconds = 0 := by
  rw [limitNanos, Duration.toNanos_ofSeconds, Nat.mul_eq_zero, or_iff_left (by decide),
    ← UInt64.toNat_inj]
  rfl

/-- The latency is that of the whole budget, each attempt with a wait. -/
theorem Config.toNanos_worstCaseLatency (h : c.worstCaseLatency = .ok latency) :
    latency.toNanos = c.attemptBudget.toNat * (c.limitNanos + c.delayNanos) := by
  rw [worstCaseLatency_eq] at h
  split at h
  · rw [Duration.ofNanos_eq_ok_iff.mp h, Nat.mul_comm]
    rfl
  · cases h

/-! ## Runs of the loop -/

/-- What a run sends and waits for. -/
theorem Tries.lasts_eq (h : Tries c rawUrl key (.inTurn outcomes) s 0 .empty failures result u)
    (took : ℕ → ℝ) :
    u.lasts took = ∑ i ∈ Finset.range (sent c rawUrl key (failures.length + 1)).length, took i +
      failures.length * c.delayNanos := by
  have hseen := (h.said (seen_empty c rawUrl key)).2.2
  rw [Nat.zero_add] at hseen
  have hwaits : u.waits = List.replicate failures.length c.retryDelayMs := h.waits
  rw [Trace.lasts, hseen, hwaits, List.map_replicate, List.sum_replicate, nsmul_eq_mul]
  rfl

theorem length_sent_le (c : Config) (rawUrl : String) (key : Option KeyField) (attempts : ℕ) :
    (sent c rawUrl key attempts).length ≤ attempts := by
  rw [sent]
  cases target rawUrl with
  | error fault => exact Nat.zero_le attempts
  | ok url => exact List.length_replicate.le

theorem Tries.lasts_le (h : Tries c rawUrl key (.inTurn outcomes) s 0 .empty failures result u)
    (htook : ∀ i, took i ≤ c.limitNanos) :
    u.lasts took ≤ (failures.length + 1) * c.limitNanos + failures.length * c.delayNanos := by
  have hsent : ((sent c rawUrl key (failures.length + 1)).length : ℝ) ≤ failures.length + 1 := by
    exact_mod_cast length_sent_le c rawUrl key (failures.length + 1)
  have hsum := Finset.sum_le_card_nsmul (Finset.range (sent c rawUrl key
    (failures.length + 1)).length) took c.limitNanos fun i _ ↦ htook i
  rw [Finset.card_range, nsmul_eq_mul] at hsum
  rw [h.lasts_eq took]
  gcongr
  exact hsum.trans (mul_le_mul_of_nonneg_right hsent (Nat.cast_nonneg _))

theorem retryable_failed (rawUrl : String) : Retryable rawUrl .failed := by
  rw [Retryable]
  cases target rawUrl with
  | error fault => trivial
  | ok url => exact .unanswered

/-- A network that never answers uses up all attempts. -/
theorem Tries.length_add_one_of_failed
    (h : Tries c rawUrl key (.inTurn fun _ ↦ .failed) s 0 .empty failures result u) :
    failures.length + 1 = c.retryMode.mostAttempts c.attemptBudget.toNat := by
  obtain ⟨e, hresult, hretryable⟩ := (h.said (seen_empty c rawUrl key)).2.1.retryable_iff.mp
    (retryable_failed rawUrl)
  have hforbidden := h.counter.2 e hresult hretryable
  rw [Nat.zero_add] at hforbidden
  exact le_antisymm h.length_lt_mostAttempts (RetryMode.mostAttempts_le hforbidden)

/-! ## The longest time

The exact maximum is found first and compared with the documented bound afterwards. Where the two
differ, it is then plain whether the bound is generous or wrong. -/

def Config.longestFetch (c : Config) : ℝ :=
  c.retryMode.mostAttempts c.attemptBudget.toNat * c.limitNanos +
    (c.retryMode.mostAttempts c.attemptBudget.toNat - 1) * c.delayNanos

theorem lasts_fetchPage_le (c : Config) (rawUrl : String) (key : Option KeyField) (s : Schedule)
    (outcomes : ℕ → Outcome) (htook : ∀ i, took i ≤ c.limitNanos) :
    ((fetchPage c rawUrl key).run.run (.inTurn outcomes) s .empty).2.lasts took ≤
      c.longestFetch := by
  obtain ⟨failures, result, u, hrun, htries⟩ := exists_tries c rawUrl key (.inTurn outcomes) s 0
    .empty
  have hfetch : (fetchPage c rawUrl key).run.run (.inTurn outcomes) s .empty = (result, u) := hrun
  have hmost : (failures.length + 1 : ℝ) ≤ c.retryMode.mostAttempts c.attemptBudget.toNat := by
    exact_mod_cast htries.length_lt_mostAttempts
  rw [hfetch]
  refine (htries.lasts_le htook).trans ?_
  rw [Config.longestFetch]
  gcongr
  linarith

/-- A network that never answers, and each time as late as it may, takes up all the time. -/
theorem lasts_fetchPage_of_failed (c : Config) {url : Url} (htarget : target rawUrl = .ok url)
    (key : Option KeyField) (s : Schedule) :
    ((fetchPage c rawUrl key).run.run (.inTurn fun _ ↦ .failed) s .empty).2.lasts
      (fun _ ↦ c.limitNanos) = c.longestFetch := by
  obtain ⟨failures, result, u, hrun, htries⟩ := exists_tries c rawUrl key
    (.inTurn fun _ ↦ .failed) s 0 .empty
  have hfetch : (fetchPage c rawUrl key).run.run (.inTurn fun _ ↦ .failed) s .empty = (result, u) :=
    hrun
  rw [hfetch, htries.lasts_eq, sent, htarget, List.length_replicate, Finset.sum_const,
    Finset.card_range, nsmul_eq_mul, Config.longestFetch, ← htries.length_add_one_of_failed]
  push_cast
  rw [add_sub_cancel_right]

theorem fetchesWithin_iff (c : Config) (nanos : ℝ) :
    c.FetchesWithin nanos ↔ c.longestFetch ≤ nanos := by
  constructor
  · intro h
    rw [← lasts_fetchPage_of_failed c target_sampleUrl none fun _ ↦ []]
    exact h _ _ _ _ _ fun _ ↦ le_rfl
  · intro h rawUrl key s outcomes took htook
    exact (lasts_fetchPage_le c rawUrl key s outcomes htook).trans h

theorem Config.longestFetch_of_zero (h : c.attemptBudget = 0) : c.longestFetch = c.limitNanos := by
  have hone : c.retryMode.mostAttempts c.attemptBudget.toNat = 1 := by
    have hmost := c.retryMode.mostAttempts_le_max c.attemptBudget.toNat
    rw [h] at hmost
    rw [h]
    exact le_antisymm hmost (RetryMode.one_le_mostAttempts _ _)
  rw [longestFetch, hone, Nat.cast_one, one_mul, sub_self, zero_mul, add_zero]

theorem Config.longestFetch_le (h : c.attemptBudget ≠ 0) :
    c.longestFetch ≤ c.attemptBudget.toNat * (c.limitNanos + c.delayNanos) := by
  have hbudget : 1 ≤ c.attemptBudget.toNat := by
    rw [Nat.one_le_iff_ne_zero]
    exact fun hzero ↦ h (UInt32.toNat_inj.mp hzero)
  have hmost : (c.retryMode.mostAttempts c.attemptBudget.toNat : ℝ) ≤ c.attemptBudget.toNat := by
    exact_mod_cast (c.retryMode.mostAttempts_le_max _).trans (max_le hbudget le_rfl)
  rw [longestFetch, mul_add]
  gcongr
  linarith

/-- **The latency is a bound, if the budget allows an attempt.** Otherwise there is an attempt all
the same, so that the latency, which is zero, is a bound only if requests have no time at all. -/
theorem fetchesWithin_worstCaseLatency_iff (h : c.worstCaseLatency = .ok latency) :
    c.FetchesWithin latency.toNanos ↔ c.attemptBudget ≠ 0 ∨ c.timeoutSeconds = 0 := by
  rw [fetchesWithin_iff, Config.toNanos_worstCaseLatency h]
  push_cast
  by_cases hbudget : c.attemptBudget = 0
  · rw [Config.longestFetch_of_zero hbudget, hbudget, ← c.limitNanos_eq_zero_iff]
    simp
  · exact iff_of_true (Config.longestFetch_le hbudget) (Or.inl hbudget)

theorem fetchesWithin_worstCaseLatency_default :
    Config.default.worstCaseLatency = .ok (.ofSeconds 120) ∧
      Config.default.FetchesWithin (Duration.ofSeconds 120).toNanos := by
  have hlatency : Config.default.worstCaseLatency = .ok (.ofSeconds 120) := by decide +kernel
  exact ⟨hlatency, (fetchesWithin_worstCaseLatency_iff hlatency).mpr (Or.inl (by decide))⟩

/-- Under an empty budget a page that does not come takes the whole time limit, but the latency is
zero. -/
theorem lasts_fetchPage_of_empty_budget :
    ({ Config.default with attemptBudget := 0, retryDelayMs := 0 }).worstCaseLatency =
        .ok (.ofSeconds 0) ∧
      ((fetchPage { Config.default with attemptBudget := 0, retryDelayMs := 0 }
        "http://wire.test/feed" none).run.run (.inTurn fun _ ↦ .failed) List.range .empty).2.lasts
          (fun _ ↦ (Duration.ofSeconds 30).toNanos) = (Duration.ofSeconds 30).toNanos ∧
      (Duration.ofSeconds 0).toNanos < (Duration.ofSeconds 30).toNanos := by
  refine ⟨by decide +kernel, ?_, by decide +kernel⟩
  have hlasts := lasts_fetchPage_of_failed
    { Config.default with attemptBudget := 0, retryDelayMs := 0 } target_sampleUrl none List.range
  rwa [Config.longestFetch_of_zero rfl] at hlasts

end NewsWire.Poll

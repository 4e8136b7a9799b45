import NewsWire.Proofs.Caller
import NewsWire.Proofs.Policy

/-!
# Requests that change the configuration

A request may bring an attempt budget and a delay of its own. The poll is then not that of the
poller that the request is made to, but of one that is built for it. Nothing can be told apart by
that: the poll is the same dialogue as under a poller that has had these values all along
(`poll_override`), so against every network, in every order, it tells, waits, asks and comes to the
same. The poller can always be built, since a request does not change the user agent.

In the literal mode the changes are without effect. The counter stands at zero when the first
attempt has failed, and at zero the page is not asked for again, whatever the budget is
(`fetchPageFrom_literal`). So no delay is ever waited for either, and nothing else looks at the two
values.

The equality is one of dialogues, which is stronger than one of results. Dialogues are what is
carried out, so two equal ones cannot be told apart by any carrier, not even by one that measures
time.
-/

namespace NewsWire.Poll

open NewsWire.Feed NewsWire.Http

variable {c : Config}

/-! ## The literal mode -/

theorem RetryMode.shouldRetry_literal_zero (budget : ℕ) :
    RetryMode.literal.shouldRetry 0 budget = false := rfl

theorem fetchPageFrom_literal (h : c.retryMode = .literal) (rawUrl : String)
    (key : Option KeyField) :
    fetchPageFrom c rawUrl key 0 = (attemptPage c rawUrl key).run := by
  have hretry : ∀ e : Failure,
      ¬(e.isRetryable && c.retryMode.shouldRetry 0 c.attemptBudget.toNat) = true := by
    intro e
    rw [h, RetryMode.shouldRetry_literal_zero, Bool.and_false]
    exact Bool.false_ne_true
  rw [fetchPageFrom]
  refine (congrArg (Dialogue.bind _) (funext fun result ↦ ?_)).trans (Dialogue.bind_done _)
  cases result with
  | ok v => rfl
  | error e => exact dif_neg (hretry e)

theorem fetchPage_literal (h : c.retryMode = .literal) (budget : UInt32) (delay : UInt64) :
    fetchPage { c with attemptBudget := budget, retryDelayMs := delay } = fetchPage c := by
  funext rawUrl key
  rw [fetchPage, fetchPage, fetchPageFrom_literal h, fetchPageFrom_literal]
  · rfl
  · exact h

/-- Nothing but the fetching of the page looks at the budget and the delay. -/
theorem pollOnce_literal (h : c.retryMode = .literal) (budget : UInt32) (delay : UInt64)
    (credential cursor : String) :
    pollOnce { c with attemptBudget := budget, retryDelayMs := delay } credential cursor =
      pollOnce c credential cursor := by
  have hpage :
      readPage { c with attemptBudget := budget, retryDelayMs := delay } cursor credential =
        readPage c cursor credential :=
    readPage_eq_of_fetchPage (by rfl) (fetchPage_literal h budget delay) cursor credential
  rw [pollOnce, pollOnce, hpage]
  rfl

/-! ## Two ways to poll -/

namespace Poller

/-- **Changes of a request are changes of the configuration.** The poll of a request is the poll of
the request without its changes, by a poller that has them in its configuration and that can always
be built: the same dialogue, so that whatever is told, asked, waited for and handed back is the
same. In the literal mode requests that differ only in their changes have the same poll. -/
theorem poll_override (p : Poller) (r : Request) :
    (∃ q, build { p.config with
          attemptBudget := r.attemptBudget.getD p.config.attemptBudget
          retryDelayMs := r.retryDelayMs.getD p.config.retryDelayMs } = .ok q ∧
      p.poll r = q.poll { r with attemptBudget := none, retryDelayMs := none }) ∧
    (p.config.retryMode = .literal → ∀ r', r'.credential = r.credential → r'.cursor = r.cursor →
      p.poll r' = p.poll r) := by
  constructor
  · refine ⟨p.applying r, build_applying p r, ?_⟩
    rw [poll_eq, poll_eq]
    rfl
  · intro hliteral r' hcredential hcursor
    rw [poll_eq, poll_eq, hcredential, hcursor]
    have hpoll : ∀ r : Request, pollOnce (p.applying r).config = pollOnce p.config := by
      intro r
      funext credential cursor
      exact pollOnce_literal hliteral _ _ credential cursor
    rw [hpoll, hpoll]

theorem poll_override_sample :
    samplePoller.poll ⟨"key", "", some 7, some 0⟩ = samplePoller.poll ⟨"key", "", none, none⟩ :=
  (poll_override samplePoller ⟨"key", "", none, none⟩).2 rfl _ rfl rfl

end Poller

end NewsWire.Poll

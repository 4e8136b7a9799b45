import Mathlib.Data.ENat.Lattice
import NewsWire.Proofs.Run

/-!
# Asking for a page again

A page is asked for until an outcome is final or the attempt counter stands at its bound. This file
says how often that is, what comes of it, and what is told and waited for meanwhile.

## What an outcome says

`Says` reads an outcome off the status and the body of a reply, without the steps by which a reply
is read, and `Retryable` singles out the outcomes after which a page may be asked for again. Both
depend on the outcome alone, so for a sequence of outcomes there is a first one that is final, if
any (`firstFinal`), and the number of attempts is a closed expression in it (`attemptCount`).

## Runs

A run of the retry loop is a derivation of `Tries`: failures that may go away, each followed by one
more attempt, and a last attempt. Whatever holds of runs is shown by induction on derivations.
-/

namespace NewsWire.Poll

open NewsWire.Feed NewsWire.Http

variable {c : Config} {rawUrl : String} {key : Option KeyField} {n : Network} {s : Schedule}
  {t u : Trace} {outcomes : ℕ → Outcome}

/-! ## What an outcome says -/

/-- The JSON that a reply brings, if its body arrives and is JSON. -/
def bodyJson? (r : Reply) : Option Json.Value :=
  (r.body.bind Text.Utf8.decode?).bind fun text ↦ (Json.parse text).toOption

/-- The message of an error that the feed reports. -/
def errorMessage? (v : Json.Value) : Option String :=
  ((v.member? "error").bind (Json.Value.member? "message")).bind Json.Value.string?

/-- What a request for a page brings, once it can be sent. -/
inductive Brings (rawUrl : String) (url : Url) : Outcome → Except Failure Json.Value → Prop
  | unanswered : Brings rawUrl url .failed (.error (.transport (.failed url)))
  | brokenOff {r : Reply} : r.body = none →
      Brings rawUrl url (.reply r) (.error (.transport .brokenBody))
  | data {r : Reply} {v found : Json.Value} : bodyJson? r = some v →
      v.member? "data" = some found → Brings rawUrl url (.reply r) (.ok found)
  | remote {r : Reply} {v : Json.Value} {message : String} : bodyJson? r = some v →
      v.member? "data" = none → errorMessage? v = some message →
      Brings rawUrl url (.reply r) (.error (.remote message))
  | otherJson {r : Reply} {v : Json.Value} : bodyJson? r = some v →
      v.member? "data" = none → errorMessage? v = none →
      Brings rawUrl url (.reply r) (.error (.unexpectedShape rawUrl))
  | otherText {r : Reply} : r.body.isSome → bodyJson? r = none → r.status.isSuccess = true →
      Brings rawUrl url (.reply r) (.error (.unexpectedShape rawUrl))
  | refused {r : Reply} : r.body.isSome → bodyJson? r = none → r.status.isSuccess = false →
      Brings rawUrl url (.reply r) (.error (.transport (.status r.status)))

/-- What comes of one attempt. A text that cannot be fetched fails whatever the network does. -/
def Says (rawUrl : String) (o : Outcome) (result : Except Failure Json.Value) : Prop :=
  match target rawUrl with
  | .error fault => result = .error (.transport fault)
  | .ok url => Brings rawUrl url o result

/-- The outcome of a request is one that may go away: a failure on the way, a refusal that is no
JSON, or an error that the feed reports. -/
inductive MayGoAway : Outcome → Prop
  | unanswered : MayGoAway .failed
  | brokenOff {r : Reply} : r.body = none → MayGoAway (.reply r)
  | refused {r : Reply} : r.body.isSome → bodyJson? r = none → r.status.isSuccess = false →
      MayGoAway (.reply r)
  | remote {r : Reply} {v : Json.Value} {message : String} : bodyJson? r = some v →
      v.member? "data" = none → errorMessage? v = some message → MayGoAway (.reply r)

/-- After the outcome a page may be asked for again. -/
def Retryable (rawUrl : String) (o : Outcome) : Prop :=
  match target rawUrl with
  | .error _ => True
  | .ok _ => MayGoAway o

theorem bodyJson?_of_body {r : Reply} {bytes : List UInt8} (h : r.body = some bytes) :
    bodyJson? r = (Text.Utf8.decode? bytes).bind fun text ↦ (Json.parse text).toOption := by
  rw [bodyJson?, h, Option.bind_some]

theorem envelope?_eq (v : Json.Value) :
    Envelope.ofValue? v = ((v.member? "data").map .data).or ((errorMessage? v).map .error) := by
  rw [Envelope.ofValue?, ← errorMessage?]
  cases v.member? "data" with
  | some found => rfl
  | none => cases errorMessage? v <;> rfl

theorem readPageReply_of_json {r : Reply} {v : Json.Value} (h : bodyJson? r = some v) :
    readPageReply rawUrl r = match Envelope.ofValue? v with
      | some e => .ok e
      | none => .error (.unexpectedShape rawUrl) := by
  rw [bodyJson?, Option.bind_eq_some_iff] at h
  obtain ⟨text, htext, hparse⟩ := h
  obtain ⟨bytes, hbytes, hdecode⟩ := Option.bind_eq_some_iff.mp htext
  cases hp : Json.parse text with
  | error e => simp [hp, Except.toOption] at hparse
  | ok w =>
    obtain rfl : w = v := by simpa [hp, Except.toOption] using hparse
    cases henvelope : Envelope.ofValue? w <;>
      simp only [readPageReply, hbytes, hdecode, Option.map_some, hp, henvelope]

theorem readPageReply_of_text {r : Reply} (hbody : r.body.isSome) (h : bodyJson? r = none) :
    readPageReply rawUrl r = if r.status.isSuccess then .error (.unexpectedShape rawUrl)
      else .error (.transport (.status r.status)) := by
  obtain ⟨bytes, hbytes⟩ := Option.isSome_iff_exists.mp hbody
  rw [bodyJson?_of_body hbytes] at h
  simp only [readPageReply, hbytes]
  cases hdecode : Text.Utf8.decode? bytes with
  | none => rfl
  | some text =>
    rw [hdecode, Option.bind_some] at h
    cases hp : Json.parse text with
    | error e => simp only [Option.map_some, hp]
    | ok v => simp [hp, Except.toOption] at h

theorem brings_iff {url : Url} {o : Outcome} {result : Except Failure Json.Value} :
    Brings rawUrl url o result ↔ readPageOutcome rawUrl url o = result := by
  constructor
  · intro h
    cases h with
    | unanswered => rfl
    | brokenOff hbody => simp only [readPageOutcome, readPageReply, hbody]
    | data hjson hdata =>
      simp only [readPageOutcome, readPageReply_of_json hjson, envelope?_eq, hdata,
        Option.map_some, Option.some_or]
    | remote hjson hdata hmessage =>
      simp only [readPageOutcome, readPageReply_of_json hjson, envelope?_eq, hdata, hmessage,
        Option.map_none, Option.map_some, Option.none_or]
    | otherJson hjson hdata hmessage =>
      simp only [readPageOutcome, readPageReply_of_json hjson, envelope?_eq, hdata, hmessage,
        Option.map_none, Option.none_or]
    | otherText hbody hjson hstatus =>
      simp only [readPageOutcome, readPageReply_of_text hbody hjson, hstatus, if_true]
    | refused hbody hjson hstatus =>
      simp only [readPageOutcome, readPageReply_of_text hbody hjson, hstatus, Bool.false_eq_true,
        if_false]
  · rintro rfl
    cases o with
    | failed => exact .unanswered
    | reply r =>
      cases hbody : r.body with
      | none =>
        simp only [readPageOutcome, readPageReply, hbody]
        exact .brokenOff hbody
      | some bytes =>
        have hsome : r.body.isSome := by rw [hbody, Option.isSome_some]
        cases hjson : bodyJson? r with
        | none =>
          rw [readPageOutcome, readPageReply_of_text hsome hjson]
          cases hstatus : r.status.isSuccess with
          | true => exact .otherText hsome hjson hstatus
          | false => exact .refused hsome hjson hstatus
        | some v =>
          rw [readPageOutcome, readPageReply_of_json hjson, envelope?_eq]
          cases hdata : v.member? "data" with
          | some found => exact .data hjson hdata
          | none =>
            cases hmessage : errorMessage? v with
            | some message => exact .remote hjson hdata hmessage
            | none => exact .otherJson hjson hdata hmessage

/-- Of all that an outcome can bring, exactly the failures that may be retried are retryable. -/
theorem Brings.mayGoAway_iff {url : Url} {o : Outcome} {result : Except Failure Json.Value}
    (h : Brings rawUrl url o result) :
    MayGoAway o ↔ ∃ e, result = .error e ∧ e.isRetryable = true := by
  constructor
  · -- What brings a result is determined, so the ways to go away each fit one way to bring.
    have hread := brings_iff.mp h
    rintro (_ | hbody | ⟨hbody, hjson, hstatus⟩ | ⟨hjson, hdata, hmessage⟩)
    · exact ⟨_, hread.symm.trans (brings_iff.mp .unanswered), rfl⟩
    · exact ⟨_, hread.symm.trans (brings_iff.mp (.brokenOff hbody)), rfl⟩
    · exact ⟨_, hread.symm.trans (brings_iff.mp (.refused hbody hjson hstatus)), rfl⟩
    · exact ⟨_, hread.symm.trans (brings_iff.mp (.remote hjson hdata hmessage)), rfl⟩
  · rintro ⟨e, rfl, he⟩
    cases h with
    | unanswered => exact .unanswered
    | brokenOff hbody => exact .brokenOff hbody
    | remote hjson hdata hmessage => exact .remote hjson hdata hmessage
    | otherJson hjson hdata hmessage => cases he
    | otherText hbody hjson hstatus => cases he
    | refused hbody hjson hstatus => exact .refused hbody hjson hstatus

theorem Says.retryable_iff {o : Outcome} {result : Except Failure Json.Value}
    (h : Says rawUrl o result) :
    Retryable rawUrl o ↔ ∃ e, result = .error e ∧ e.isRetryable = true := by
  rw [Says] at h
  rw [Retryable]
  cases htarget : target rawUrl with
  | error fault =>
    rw [htarget] at h
    exact iff_of_true trivial ⟨_, h, rfl⟩
  | ok url =>
    rw [htarget] at h
    exact h.mayGoAway_iff

/-! ## How many attempts there are

The loop asks at least once, since the counter is looked at after a failure. So the number of
attempts is at least one even where the budget is zero, and the budget bounds only what comes after.
-/

/-- The most attempts that the counter allows. It always allows the first one. -/
def RetryMode.mostAttempts (mode : RetryMode) (budget : ℕ) : ℕ :=
  match mode with
  | .literal => 1
  | .fromFirstFailure => max 1 budget

theorem RetryMode.one_le_mostAttempts (mode : RetryMode) (budget : ℕ) :
    1 ≤ mode.mostAttempts budget := by
  cases mode with
  | literal => exact le_rfl
  | fromFirstFailure => exact le_max_left 1 budget

theorem RetryMode.mostAttempts_le_max (mode : RetryMode) (budget : ℕ) :
    mode.mostAttempts budget ≤ max 1 budget := by
  cases mode with
  | literal => exact le_max_left 1 budget
  | fromFirstFailure => exact le_rfl

/-- Where the counter has allowed another attempt after each failure so far. -/
theorem RetryMode.le_mostAttempts {mode : RetryMode} {budget k : ℕ}
    (h : ∀ i < k, mode.shouldRetry i budget = true) : k + 1 ≤ mode.mostAttempts budget := by
  cases k with
  | zero => exact mode.one_le_mostAttempts budget
  | succ k =>
    cases mode with
    | literal =>
      -- The counter stands at zero after the first attempt, which is not above zero.
      have hfirst := h 0 (Nat.zero_lt_succ k)
      simp [shouldRetry] at hfirst
    | fromFirstFailure =>
      have hlast := h k (Nat.lt_succ_self k)
      simp only [shouldRetry, decide_eq_true_eq] at hlast
      exact le_trans (Nat.succ_le_of_lt hlast) (le_max_right 1 budget)

/-- Where the counter forbids another attempt. -/
theorem RetryMode.mostAttempts_le {mode : RetryMode} {budget k : ℕ}
    (h : mode.shouldRetry k budget = false) : mode.mostAttempts budget ≤ k + 1 := by
  cases mode with
  | literal => exact Nat.le_add_left 1 k
  | fromFirstFailure =>
    simp only [shouldRetry, decide_eq_false_iff_not, not_lt] at h
    exact max_le (Nat.le_add_left 1 k) h

/-- The number of the first outcome that is final, counted from one, if there is such an outcome. -/
noncomputable def firstFinal (rawUrl : String) (outcomes : ℕ → Outcome) : ℕ∞ :=
  ⨅ i ∈ {i | ¬Retryable rawUrl (outcomes i)}, ((i + 1 : ℕ) : ℕ∞)

/-- How often a page is asked for. There is one attempt even where the budget allows none. -/
noncomputable def attemptCount (c : Config) (rawUrl : String) (outcomes : ℕ → Outcome) : ℕ∞ :=
  match c.retryMode with
  | .literal => 1
  | .fromFirstFailure =>
    min (firstFinal rawUrl outcomes) ((max 1 c.attemptBudget.toNat : ℕ) : ℕ∞)

theorem firstFinal_le {i : ℕ} (h : ¬Retryable rawUrl (outcomes i)) :
    firstFinal rawUrl outcomes ≤ (i + 1 : ℕ) :=
  iInf₂_le i h

theorem le_firstFinal {k : ℕ} (h : ∀ i < k, Retryable rawUrl (outcomes i)) :
    ((k + 1 : ℕ) : ℕ∞) ≤ firstFinal rawUrl outcomes := by
  refine le_iInf₂ fun i hi ↦ ?_
  have hk : k ≤ i := by
    by_contra hlt
    exact hi (h i (by omega))
  exact_mod_cast Nat.succ_le_succ hk

/-- The attempts stop at the first outcome that is final, or where the counter forbids another. -/
theorem attemptCount_eq {k : ℕ}
    (hagain : ∀ i < k, Retryable rawUrl (outcomes i) ∧
      c.retryMode.shouldRetry i c.attemptBudget.toNat = true)
    (hlast : Retryable rawUrl (outcomes k) →
      c.retryMode.shouldRetry k c.attemptBudget.toNat = false) :
    ((k + 1 : ℕ) : ℕ∞) = attemptCount c rawUrl outcomes := by
  have hmost := RetryMode.le_mostAttempts fun i hi ↦ (hagain i hi).2
  rw [attemptCount]
  cases hmode : c.retryMode with
  | literal =>
    rw [hmode] at hmost
    have hk : k = 0 := Nat.le_zero.mp (Nat.le_of_succ_le_succ hmost)
    rw [hk]
    rfl
  | fromFirstFailure =>
    rw [hmode] at hmost hlast
    have hfirst := le_firstFinal fun i hi ↦ (hagain i hi).1
    refine le_antisymm (le_min hfirst (by exact_mod_cast hmost)) ?_
    by_cases hretry : Retryable rawUrl (outcomes k)
    · refine (min_le_right _ _).trans ?_
      exact_mod_cast RetryMode.mostAttempts_le (hlast hretry)
    · exact (min_le_left _ _).trans (firstFinal_le hretry)

/-! ## Runs of the loop -/

/-- A page is to be asked for again: that is told, and the delay is waited for. -/
def Trace.again (t : Trace) (c : Config) (rawUrl : String) (attempt : ℕ) (e : Failure) : Trace :=
  { t.tell [.pageRetried rawUrl attempt e c.retryDelayMs] with
      waits := t.waits ++ [c.retryDelayMs] }

/-- The loop, the counter standing at a number: the failures after which the page was asked for
again, and what the last attempt came to. -/
inductive Tries (c : Config) (rawUrl : String) (key : Option KeyField) (n : Network)
    (s : Schedule) :
    ℕ → Trace → List Failure → Except Failure Json.Value → Trace → Prop
  | last {attempt : ℕ} {t u : Trace} {result : Except Failure Json.Value} :
      (attemptPage c rawUrl key).run.run n s t = (result, u) →
      (∀ e, result = .error e → e.isRetryable = true →
        c.retryMode.shouldRetry attempt c.attemptBudget.toNat = false) →
      Tries c rawUrl key n s attempt t [] result u
  | again {attempt : ℕ} {t u v : Trace} {e : Failure} {failures : List Failure}
      {result : Except Failure Json.Value} :
      (attemptPage c rawUrl key).run.run n s t = (.error e, u) →
      e.isRetryable = true → c.retryMode.shouldRetry attempt c.attemptBudget.toNat = true →
      Tries c rawUrl key n s (attempt + 1) (u.again c rawUrl (attempt + 1) e) failures result v →
      Tries c rawUrl key n s attempt t (e :: failures) result v

theorem exists_tries (c : Config) (rawUrl : String) (key : Option KeyField) (n : Network)
    (s : Schedule) (attempt : ℕ) (t : Trace) :
    ∃ failures result u, (fetchPageFrom c rawUrl key attempt).run n s t = (result, u) ∧
      Tries c rawUrl key n s attempt t failures result u := by
  -- The recursion of the loop: every further attempt brings the counter closer to the budget.
  induction attempt using fetchPageFrom.induct c generalizing t with
  | case1 attempt ih =>
    rw [fetchPageFrom, Dialogue.run_bind]
    rcases hrun : (attemptPage c rawUrl key).run.run n s t with ⟨e | v, u⟩
    · by_cases hretry : e.isRetryable && c.retryMode.shouldRetry attempt c.attemptBudget.toNat
      · obtain ⟨hretryable, hcounter⟩ := Bool.and_eq_true_iff.mp hretry
        obtain ⟨failures, result, v, hrest, htries⟩ :=
          ih e hretry (u.again c rawUrl (attempt + 1) e)
        refine ⟨e :: failures, result, v, ?_, .again hrun hretryable hcounter htries⟩
        simp only [dif_pos hretry]
        exact hrest
      · refine ⟨[], .error e, u, ?_, .last hrun ?_⟩
        · simp only [dif_neg hretry]
          rfl
        · intro e' he' hretryable
          obtain rfl : e = e' := Except.error.inj he'
          rwa [hretryable, Bool.true_and, Bool.not_eq_true] at hretry
    · refine ⟨[], .ok v, u, rfl, .last hrun ?_⟩
      intro e he
      cases he

/-! ## What is told, waited for and sent -/

theorem run_attemptPage_of_error {fault : TransportFault} (h : target rawUrl = .error fault) :
    (attemptPage c rawUrl key).run.run n s t = (.error (.transport fault), t) := by
  rw [attemptPage, h]
  rfl

theorem run_attemptPage_of_ok {url : Url} (h : target rawUrl = .ok url) :
    (attemptPage c rawUrl key).run.run n s t =
      (readPageOutcome rawUrl url (n.send t.seen ⟨url, pageFields c key⟩).1,
        { t with seen := (n.send t.seen ⟨url, pageFields c key⟩).2 }) := by
  rw [attemptPage, h]
  rfl

theorem attemptPage_quiet {result : Except Failure Json.Value}
    (h : (attemptPage c rawUrl key).run.run n s t = (result, u)) :
    u.events = t.events ∧ u.waits = t.waits := by
  cases htarget : target rawUrl with
  | error fault =>
    rw [run_attemptPage_of_error htarget, Prod.mk.injEq] at h
    rw [← h.2]
    exact ⟨rfl, rfl⟩
  | ok url =>
    rw [run_attemptPage_of_ok htarget, Prod.mk.injEq] at h
    rw [← h.2]
    exact ⟨rfl, rfl⟩

/-- What is told of failures, the counter standing at a number before the first of them. -/
def retryEvents (c : Config) (rawUrl : String) (attempt : ℕ) (failures : List Failure) :
    List Event :=
  failures.mapIdx fun i e ↦ .pageRetried rawUrl (attempt + i + 1) e c.retryDelayMs

theorem retryEvents_cons (attempt : ℕ) (e : Failure) (failures : List Failure) :
    retryEvents c rawUrl attempt (e :: failures) =
      .pageRetried rawUrl (attempt + 1) e c.retryDelayMs ::
        retryEvents c rawUrl (attempt + 1) failures := by
  rw [retryEvents, retryEvents, List.mapIdx_cons]
  simp only [Nat.add_zero, Nat.add_comm, Nat.add_left_comm]

theorem retryEvents_zero (c : Config) (rawUrl : String) (failures : List Failure) :
    retryEvents c rawUrl 0 failures =
      failures.mapIdx fun i e ↦ .pageRetried rawUrl (i + 1) e c.retryDelayMs := by
  simp only [retryEvents, Nat.zero_add]

variable {attempt : ℕ} {failures : List Failure} {result : Except Failure Json.Value}

theorem Tries.events (h : Tries c rawUrl key n s attempt t failures result u) :
    u.events = t.events ++ retryEvents c rawUrl attempt failures := by
  induction h with
  | last hrun _ => rw [(attemptPage_quiet hrun).1, retryEvents, List.mapIdx_nil, List.append_nil]
  | again hrun _ _ _ ih =>
    rw [ih, Trace.again, Trace.events_tell, (attemptPage_quiet hrun).1, retryEvents_cons,
      List.append_assoc, List.singleton_append]

theorem Tries.waits (h : Tries c rawUrl key n s attempt t failures result u) :
    u.waits = t.waits ++ List.replicate failures.length c.retryDelayMs := by
  induction h with
  | last hrun _ => rw [(attemptPage_quiet hrun).2, List.length_nil, List.replicate_zero,
      List.append_nil]
  | again hrun _ _ _ ih =>
    rw [ih, Trace.again, (attemptPage_quiet hrun).2, List.length_cons, List.replicate_succ,
      List.append_assoc, List.singleton_append]

/-- The counter allows every attempt after a failure, and the last one is final or not allowed to be
followed by another. -/
theorem Tries.counter (h : Tries c rawUrl key n s attempt t failures result u) :
    (∀ i (hi : i < failures.length), failures[i].isRetryable = true ∧
      c.retryMode.shouldRetry (attempt + i) c.attemptBudget.toNat = true) ∧
    ∀ e, result = .error e → e.isRetryable = true →
      c.retryMode.shouldRetry (attempt + failures.length) c.attemptBudget.toNat = false := by
  induction h with
  | last _ hfinal => exact ⟨fun i hi ↦ absurd hi (Nat.not_lt_zero i), hfinal⟩
  | @again attempt _ _ _ e failures _ _ hretryable hcounter _ ih =>
    refine ⟨fun i hi ↦ ?_, ?_⟩
    · cases i with
      | zero => exact ⟨hretryable, hcounter⟩
      | succ i =>
        have hrest := ih.1 i (Nat.lt_of_succ_lt_succ hi)
        rwa [Nat.add_right_comm attempt 1 i] at hrest
    · have hlast := ih.2
      rwa [Nat.add_right_comm attempt 1 failures.length] at hlast

/-! ## Replies in turn

A network may answer by what it has seen, and then a sequence of outcomes is all that can be known
of it from outside. `Network.inTurn` is the network that such a sequence makes, and what a run of
the loop has met with is always a sequence. -/

/-- The network that answers requests, whatever they are, by a sequence of outcomes. -/
def Network.inTurn (outcomes : ℕ → Outcome) : Network :=
  ⟨fun _ ↦ true, fun seen _ ↦ outcomes seen.length⟩

def sent (c : Config) (rawUrl : String) (key : Option KeyField) (attempts : ℕ) :
    List Http.Request :=
  match target rawUrl with
  | .error _ => []
  | .ok url => List.replicate attempts ⟨url, pageFields c key⟩

/-- After some attempts, the next one comes to what the next outcome says. -/
theorem says_attemptPage (ht : t.seen = sent c rawUrl key attempt)
    (h : (attemptPage c rawUrl key).run.run (.inTurn outcomes) s t = (result, u)) :
    Says rawUrl (outcomes attempt) result ∧ u.seen = sent c rawUrl key (attempt + 1) := by
  rw [Says, sent] at *
  cases htarget : target rawUrl with
  | error fault =>
    rw [run_attemptPage_of_error htarget, Prod.mk.injEq] at h
    simp only [htarget] at ht ⊢
    obtain ⟨rfl, rfl⟩ := h
    exact ⟨rfl, ht⟩
  | ok url =>
    rw [run_attemptPage_of_ok htarget, Prod.mk.injEq] at h
    simp only [htarget] at ht ⊢
    obtain ⟨rfl, rfl⟩ := h
    refine ⟨brings_iff.mpr ?_, ?_⟩
    · simp [Network.send, Network.inTurn, ht]
    · simp [Network.send, Network.inTurn, ht, List.replicate_succ']

theorem Tries.said (h : Tries c rawUrl key (.inTurn outcomes) s attempt t failures result u)
    (ht : t.seen = sent c rawUrl key attempt) :
    (∀ i (hi : i < failures.length), Says rawUrl (outcomes (attempt + i)) (.error failures[i])) ∧
    Says rawUrl (outcomes (attempt + failures.length)) result ∧
    u.seen = sent c rawUrl key (attempt + failures.length + 1) := by
  induction h with
  | last hrun _ => exact ⟨fun i hi ↦ absurd hi (Nat.not_lt_zero i), says_attemptPage ht hrun⟩
  | @again attempt _ _ _ e failures _ hrun _ _ _ ih =>
    obtain ⟨hsaid, hseen⟩ := says_attemptPage ht hrun
    obtain ⟨hfailures, hlast⟩ := ih hseen
    refine ⟨fun i hi ↦ ?_, ?_⟩
    · cases i with
      | zero => exact hsaid
      | succ i =>
        have hrest := hfailures i (Nat.lt_of_succ_lt_succ hi)
        rwa [Nat.add_right_comm attempt 1 i] at hrest
    · rwa [Nat.add_right_comm attempt 1 failures.length] at hlast

theorem Tries.length_lt_mostAttempts (h : Tries c rawUrl key n s 0 t failures result u) :
    failures.length < c.retryMode.mostAttempts c.attemptBudget.toNat := by
  refine RetryMode.le_mostAttempts fun i hi ↦ ?_
  have hcounter := (h.counter.1 i hi).2
  rwa [Nat.zero_add] at hcounter

/-- The counter stands within the budget, so it needs no more than 32 bits. -/
theorem Tries.length_lt (h : Tries c rawUrl key n s 0 t failures result u) :
    failures.length < UInt32.size := by
  have hlt := h.length_lt_mostAttempts.trans_le (RetryMode.mostAttempts_le_max _ _)
  exact hlt.trans_le (max_le (by decide) c.attemptBudget.toNat_lt_size.le)

theorem seen_empty (c : Config) (rawUrl : String) (key : Option KeyField) :
    Trace.empty.seen = sent c rawUrl key 0 := by
  rw [sent]
  cases target rawUrl <;> rfl

/-- **Fetching a page, exactly.** Whatever outcomes the network has in store, the page is asked for
`attemptCount` times. Every failure but the last result is one that may go away; it is told with its
number and waited for. The result is what the last outcome says, and the attempt counter needs no
more than 32 bits. -/
theorem run_fetchPage_inTurn (c : Config) (rawUrl : String) (key : Option KeyField)
    (s : Schedule) (outcomes : ℕ → Outcome) :
    ∃ (failures : List Failure) (result : Except Failure Json.Value),
      (fetchPage c rawUrl key).run.run (.inTurn outcomes) s .empty =
        (result, ⟨sent c rawUrl key (failures.length + 1),
          failures.mapIdx fun i e ↦ .pageRetried rawUrl (i + 1) e c.retryDelayMs,
          List.replicate failures.length c.retryDelayMs⟩) ∧
      ((failures.length + 1 : ℕ) : ℕ∞) = attemptCount c rawUrl outcomes ∧
      (∀ i (hi : i < failures.length), Says rawUrl (outcomes i) (.error failures[i])) ∧
      Says rawUrl (outcomes failures.length) result ∧
      failures.length < UInt32.size := by
  obtain ⟨failures, result, u, hrun, htries⟩ :=
    exists_tries c rawUrl key (.inTurn outcomes) s 0 .empty
  obtain ⟨hfailures, hlast, hseen⟩ := htries.said (seen_empty c rawUrl key)
  obtain ⟨hagain, hfinal⟩ := htries.counter
  simp only [Nat.zero_add] at hfailures hlast hseen hagain hfinal
  refine ⟨failures, result, ?_, ?_, hfailures, hlast, htries.length_lt⟩
  · -- The trace has three parts, each known of the derivation.
    have hevents := htries.events
    rw [retryEvents_zero] at hevents
    exact hrun.trans (Prod.ext rfl (Trace.ext hseen hevents htries.waits))
  · refine attemptCount_eq ?_ ?_
    · intro i hi
      have hretryable := (hfailures i hi).retryable_iff.mpr ⟨_, rfl, (hagain i hi).1⟩
      exact ⟨hretryable, (hagain i hi).2⟩
    · intro hretryable
      obtain ⟨e, hresult, he⟩ := hlast.retryable_iff.mp hretryable
      exact hfinal e hresult he

end NewsWire.Poll

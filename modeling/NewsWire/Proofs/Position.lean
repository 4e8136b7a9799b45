import NewsWire.Proofs.Caller
import NewsWire.Proofs.Requests

/-!
# The place of a caller in the feed

A caller may use another poller for every poll, another key, other changes to the configuration, and
it may meet with any network. As long as the source is the same, where it stands depends on one
thing only: the last page that was read for it.

The polls of a caller are rounds. At first the caller stands at the start of the feed, and it stays
there until a round succeeds; from then on it stands behind the page of the last successful round
(`Position`). A round that fails does not move it, so all rounds of a stretch of failures ask for
the page that the first of them asked for, in each of their attempts (`position_held`).

That is why delivery is at least once: the payloads of a page and the cursor behind it come together
or not at all. A caller that loses a response polls the same page again, and one that keeps it never
goes back.
-/

namespace NewsWire.Poll

open NewsWire.Feed

variable {c : Config} {cursor credential : String} {n : Network} {s : Schedule} {t : Trace}
  {response : Response} {source : Source}

/-! ## Successful polls -/

/-- A poll that succeeds has read a page, and hands back the cursor behind it. -/
theorem exists_data_of_ok
    (h : ((pollOnce c credential cursor).run n s t).1.result = .ok response) :
    ∃ value data u, (fetchAt c cursor credential).run.run n s t = (.ok value, u) ∧
      PageData.decoder.ofValue value = .ok data ∧
      response.nextCursor = c.source.nextCursor data.nextPage := by
  obtain ⟨e, u, -, hpage⟩ | ⟨value, data, u, hfetch, hdata, hpage⟩ :=
    run_readPage_cases c cursor credential n s t
  · rw [run_pollOnce_of_no_page hpage] at h
    cases h
  · refine ⟨value, data, u, hfetch, hdata, ?_⟩
    obtain ⟨report, v, told, hconclude, -, haccounted⟩ := exists_accounted c cursor data n s u
    rw [run_pollOnce_of_page hpage, items_pageOf, hconclude] at h
    cases haccounted with
    | failed _ _ => cases h
    | completed _ _ _ =>
      obtain rfl := Except.ok.inj h
      rfl

/-! ## Rounds -/

/-- One poll of a caller that follows a source, with everything that it depends on besides the
cursor. -/
structure Round (source : Source) where
  poller : Poller
  source_eq : poller.config.source = source
  turn : Turn

namespace Round

variable {round : Round source} {before rounds failed : List (Round source)} {data : PageData}

def request (round : Round source) (cursor : String) : Request :=
  ⟨round.turn.credential, cursor, round.turn.attemptBudget, round.turn.retryDelayMs⟩

/-- The configuration of the round, with the changes that its request makes. -/
def config (round : Round source) (cursor : String) : Config :=
  (round.poller.applying (round.request cursor)).config

@[simp] theorem source_config (round : Round source) (cursor : String) :
    (round.config cursor).source = source := round.source_eq

def result (round : Round source) (cursor : String) : Except Failure Response :=
  round.poller.resultOf cursor round.turn

theorem result_eq (round : Round source) (cursor : String) :
    round.result cursor = ((pollOnce (round.config cursor) round.turn.credential cursor).run
      round.turn.network round.turn.schedule round.turn.before).1.result := by
  rw [result, Poller.resultOf, Poller.poll_eq, config, request]

/-- The requests that the round makes for the page of a cursor, the first one and all further
ones. -/
def pageRequests (round : Round source) (cursor : String) : List Http.Request :=
  (round.poller.poll (round.request cursor)).askedAlone round.turn.network round.turn.schedule
    round.turn.before

theorem pageRequests_eq (round : Round source) (cursor : String) :
    round.pageRequests cursor = (pollOnce (round.config cursor) round.turn.credential
      cursor).askedAlone round.turn.network round.turn.schedule round.turn.before := by
  rw [pageRequests, Poller.poll_eq, config, request]

/-- The round reads a page with these data at a cursor. -/
def Reads (round : Round source) (cursor : String) (data : PageData) : Prop :=
  ∃ value u, (fetchAt (round.config cursor) cursor round.turn.credential).run.run
      round.turn.network round.turn.schedule round.turn.before = (.ok value, u) ∧
    PageData.decoder.ofValue value = .ok data

theorem exists_reads_of_ok (h : round.result cursor = .ok response) :
    ∃ data, round.Reads cursor data ∧ response.nextCursor = source.nextCursor data.nextPage := by
  rw [result_eq] at h
  obtain ⟨value, data, u, hfetch, hdata, hnext⟩ := exists_data_of_ok h
  rw [source_config] at hnext
  exact ⟨data, ⟨value, u, hfetch, hdata⟩, hnext⟩

/-- Whatever the round is, it asks for the page of the cursor. -/
theorem target_of_mem_pageRequests {request : Http.Request}
    (h : request ∈ round.pageRequests cursor) :
    Http.target (source.pageUrl cursor) = .ok request.url := by
  rw [pageRequests_eq] at h
  obtain ⟨key, -, hasks⟩ := asksForPage_of_mem_pollOnce h
  have htarget := hasks.target_eq
  rwa [source_config] at htarget

/-! ## Callers of rounds -/

def held (rounds : List (Round source)) : String :=
  rounds.foldl (fun held round ↦ heldCursor held (round.result held)) ""

theorem held_concat (rounds : List (Round source)) (round : Round source) :
    held (rounds ++ [round]) = heldCursor (held rounds) (round.result (held rounds)) := by
  rw [held, List.foldl_append, List.foldl_cons, List.foldl_nil, ← held]

theorem held_map (p : Poller) (turns : List Turn) :
    held (turns.map (Round.mk p rfl)) = p.held turns := by
  rw [held, List.foldl_map]
  rfl

/-- Each of these rounds fails, at the cursor that the caller holds by then. -/
inductive AllFail (before : List (Round source)) : List (Round source) → Prop
  | nil : AllFail before []
  | concat {rounds : List (Round source)} {round : Round source} {e : Failure} :
      AllFail before rounds → round.result (held (before ++ rounds)) = .error e →
      AllFail before (rounds ++ [round])

theorem AllFail.held_append (h : AllFail before failed) :
    held (before ++ failed) = held before := by
  induction h with
  | nil => rw [List.append_nil]
  | concat _ hround ih => rw [← List.append_assoc, held_concat, hround, heldCursor, ih]

/-- Where a caller stands in the feed after some rounds, and the cursor that belongs there. -/
inductive Position : List (Round source) → String → Prop
  /-- No round has succeeded, and the caller is at the start of the feed. -/
  | start {rounds : List (Round source)} : AllFail [] rounds → Position rounds ""
  /-- A round has succeeded and none after it, and the caller is behind the page of that round. -/
  | behind {earlier : List (Round source)} {round : Round source} {later : List (Round source)}
      {data : PageData} {response : Response} :
      round.result (held earlier) = .ok response → round.Reads (held earlier) data →
      AllFail (earlier ++ [round]) later →
      Position (earlier ++ [round] ++ later) (source.nextCursor data.nextPage)

theorem Position.concat_of_error {e : Failure} (h : Position rounds (held rounds))
    (hround : round.result (held rounds) = .error e) :
    Position (rounds ++ [round]) (held rounds) := by
  -- The cursor is an index of the position, and must be a variable for the cases to be told apart.
  generalize hcursor : held rounds = cursor at h hround
  cases h with
  | start hfailed => exact .start (hfailed.concat (by rwa [List.nil_append, hcursor]))
  | behind hok hreads hfailed =>
    rw [← hcursor] at hround
    have hlater := hfailed.concat hround
    rw [List.append_assoc]
    exact .behind hok hreads hlater

theorem position_concat_of_ok (h : round.result (held rounds) = .ok response) :
    Position (rounds ++ [round]) response.nextCursor := by
  obtain ⟨data, hreads, hnext⟩ := exists_reads_of_ok h
  rw [hnext]
  simpa using Position.behind h hreads .nil

theorem position_of_rounds (rounds : List (Round source)) : Position rounds (held rounds) := by
  -- What a round comes to depends on those before it, so the last one is taken off.
  induction rounds using List.reverseRecOn with
  | nil => exact .start .nil
  | append_singleton rounds round ih =>
    rw [held_concat]
    rcases hround : round.result (held rounds) with e | response
    · exact ih.concat_of_error hround
    · exact position_concat_of_ok hround

/-- **Failures do not move a caller, and no page is skipped.** After any rounds the caller stands at
the start of the feed, or behind the page of the last round that succeeded. Whatever the next round
is, all its attempts are for the page at the cursor that is held, and so are those of the rounds
after it as long as they fail. -/
theorem position_held (rounds : List (Round source)) :
    Position rounds (held rounds) ∧
      (∀ round : Round source, ∀ request ∈ round.pageRequests (held rounds),
        Http.target (source.pageUrl (held rounds)) = .ok request.url) ∧
      ∀ failed, AllFail rounds failed → ∀ round : Round source,
        ∀ request ∈ round.pageRequests (held (rounds ++ failed)),
          Http.target (source.pageUrl (held rounds)) = .ok request.url := by
  refine ⟨position_of_rounds rounds, fun round request ↦ target_of_mem_pageRequests, ?_⟩
  intro failed hfailed round request hrequest
  rw [hfailed.held_append] at hrequest
  exact target_of_mem_pageRequests hrequest

open Poller (samplePoller turnTo continuing continuingText)

def unconnected : Round sampleConfig.source where
  poller := samplePoller
  source_eq := rfl
  turn := { turnTo "" with network := .unreachable }

/-- Without a network there is no page, so that a round fails wherever a page is asked for. -/
theorem exists_result_unconnected (h : Poller.Usable sampleConfig.source cursor) :
    ∃ e, unconnected.result cursor = .error e := by
  have hpolled := Poller.polled_resultOf samplePoller h unconnected.turn
  rw [result, show unconnected.poller = samplePoller from rfl]
  generalize samplePoller.resultOf cursor unconnected.turn = result at hpolled ⊢
  cases hpolled with
  | failed _ => exact ⟨_, rfl⟩
  | page _ hoffers _ =>
    obtain ⟨seen, request, reply, v, hreply, -⟩ := hoffers
    cases hreply

/-- A caller gets the sample page that names a continuation, and then no connection. It asks for the
continuation again. -/
theorem position_held_sample :
    ∃ rounds : List (Round sampleConfig.source), ∃ failed,
      held rounds = "http://wire.test/feed?page=2&include=*" ∧ failed ≠ [] ∧
      AllFail rounds failed ∧
      ∀ round : Round sampleConfig.source,
        ∀ request ∈ round.pageRequests (held (rounds ++ failed)),
          Http.target (sampleConfig.source.pageUrl (held rounds)) = .ok request.url := by
  have hjson : bodyJson? (sampleReplyOf (continuingText "http://wire.test/feed?page=2")) =
      some (.object [("data", continuing "http://wire.test/feed?page=2")]) :=
    bodyJson?_sampleReplyOf (by decide +kernel) (by decide +kernel)
  have hcursor : sampleConfig.source.nextCursor (some "http://wire.test/feed?page=2") =
      "http://wire.test/feed?page=2&include=*" := by decide +kernel
  have hheld : held ([turnTo "http://wire.test/feed?page=2"].map (Round.mk samplePoller rfl)) =
      "http://wire.test/feed?page=2&include=*" :=
    (held_map _ _).trans ((Poller.held_turnTo hjson).trans hcursor)
  have husable : Poller.Usable sampleConfig.source "http://wire.test/feed?page=2&include=*" :=
    ⟨⟨{ sampleUrl with query := some "page=2&include=*".toList }, by decide +kernel⟩,
      Or.inr ⟨⟨sampleUrl, by decide +kernel⟩, by decide +kernel⟩⟩
  obtain ⟨e, hresult⟩ := exists_result_unconnected husable
  rw [← hheld] at hresult
  have hfailed : AllFail ([turnTo "http://wire.test/feed?page=2"].map (Round.mk samplePoller rfl))
      [unconnected] := .concat .nil (by rwa [List.append_nil])
  exact ⟨_, _, hheld, List.cons_ne_nil _ _, hfailed, (position_held _).2.2 _ hfailed⟩

end Round

end NewsWire.Poll

import NewsWire.Proofs.Account
import NewsWire.Proofs.Cursor

/-!
# Polling again and again

A caller begins with the empty cursor, takes over the next cursor after a poll that succeeds, and
keeps the one it has after a poll that fails. A cursor is not looked at before it is used, so the
caller may come to hold one that no poll takes.

It does not if any text may be appended to the start of the feed and to every continuation that a
page names (`ofString_pageUrl_held`). The start of the feed needs this only if it is an address of
the web, since nothing ever comes from another one. So the invariant has two parts: the cursor is
taken, and either nothing has come yet or the start of the feed can be extended (`Usable`).
-/

namespace NewsWire.Poll

open NewsWire.Feed NewsWire.Http NewsWire.Url

variable {c : Config} {cursor credential rawUrl : String} {key : Option KeyField} {n : Network}
  {s : Schedule} {t u : Trace}

/-! ## What the network offers -/

namespace Network

/-- A request may be answered with the data of a page. -/
def Offers (n : Network) (value : Json.Value) : Prop :=
  ∃ seen request reply v, n.answer seen request = .reply reply ∧ bodyJson? reply = some v ∧
    v.member? "data" = some value

/-- Every page that is offered names no continuation, or one to which text may be appended. -/
def Continues (n : Network) : Prop :=
  ∀ {value data}, n.Offers value → PageData.decoder.ofValue value = .ok data →
    ∀ page ∈ data.nextPage, page ≠ "" → Extensible page

end Network

/-- What comes of fetching a page whose URL can be read: data from the web, or a failure that does
not lie with the cursor. -/
inductive Fetched (n : Network) (rawUrl : String) : Except Failure Json.Value → Prop
  | page {value : Json.Value} : (∃ url, Http.target rawUrl = .ok url) → n.Offers value →
      Fetched n rawUrl (.ok value)
  | failed {e : Failure} : (∀ fault, e ≠ .invalidCursor fault) → Fetched n rawUrl (.error e)

theorem fetched_attemptPage {result : Except Failure Json.Value}
    (h : (attemptPage c rawUrl key).run.run n s t = (result, u)) : Fetched n rawUrl result := by
  cases htarget : Http.target rawUrl with
  | error fault =>
    rw [run_attemptPage_of_error htarget, Prod.mk.injEq] at h
    rw [← h.1]
    exact .failed (by rintro _ ⟨⟩)
  | ok url =>
    rw [run_attemptPage_of_ok htarget, Prod.mk.injEq] at h
    have hsend : ∀ {reply : Reply},
        (n.send t.seen ⟨url, pageFields c key⟩).1 = .reply reply →
          n.answer t.seen ⟨url, pageFields c key⟩ = .reply reply := by
      intro reply hreply
      rw [Network.send] at hreply
      split at hreply
      · exact hreply
      · cases hreply
    have hbrings := brings_iff.mpr h.1
    generalize (n.send t.seen ⟨url, pageFields c key⟩).1 = o at hsend hbrings
    cases hbrings with
    | data hjson hdata =>
      exact .page ⟨url, htarget⟩ ⟨t.seen, _, _, _, hsend rfl, hjson, hdata⟩
    | _ => exact .failed (by rintro _ ⟨⟩)

variable {attempt : ℕ} {failures : List Failure} {result : Except Failure Json.Value}

/-- Asking again adds nothing to what an attempt may come to. -/
theorem Tries.fetched (h : Tries c rawUrl key n s attempt t failures result u) :
    Fetched n rawUrl result := by
  induction h with
  | last hrun _ => exact fetched_attemptPage hrun
  | again _ _ _ _ ih => exact ih

theorem run_fetchAt_of_error {fault : Url.Error}
    (h : Url.ofString (c.source.pageUrl cursor) = .error fault) :
    (fetchAt c cursor credential).run.run n s t = (.error (.invalidCursor fault), t) := by
  rw [fetchAt, h]
  rfl

theorem fetched_fetchAt {url : Url} (hurl : Url.ofString (c.source.pageUrl cursor) = .ok url)
    (h : (fetchAt c cursor credential).run.run n s t = (result, u)) :
    Fetched n (c.source.pageUrl cursor) result := by
  cases hkey : keyField c.source credential with
  | error fault =>
    rw [fetchAt, hurl, hkey] at h
    obtain ⟨rfl, -⟩ := Prod.mk.inj h
    exact .failed (by rintro _ ⟨⟩)
  | ok key =>
    rw [fetchAt_of_ok hurl hkey] at h
    obtain ⟨failures, result', u', hrun, htries⟩ :=
      exists_tries c (c.source.pageUrl cursor) (some key) n s 0 t
    obtain ⟨rfl, -⟩ := Prod.mk.inj (hrun.symm.trans h)
    exact htries.fetched

/-! ## What a poll hands back

`Fetched` and `Polled` say of a failure only that it does not lie with the cursor. That is enough
for a caller, who keeps the cursor after any failure, and it spares the argument a list of
everything that may go wrong on the way. -/

/-- What comes of a poll whose cursor can be read. -/
inductive Polled (source : Source) (cursor : String) (n : Network) :
    Except Failure Response → Prop
  | page {value : Json.Value} {data : PageData} {payloads : List Payload} :
      (∃ url, Http.target (source.pageUrl cursor) = .ok url) → n.Offers value →
      PageData.decoder.ofValue value = .ok data →
      Polled source cursor n (.ok ⟨payloads, source.nextCursor data.nextPage⟩)
  | failed {e : Failure} : (∀ fault, e ≠ .invalidCursor fault) → Polled source cursor n (.error e)

theorem polled_pollOnce {url : Url} (hurl : Url.ofString (c.source.pageUrl cursor) = .ok url) :
    Polled c.source cursor n ((pollOnce c credential cursor).run n s t).1.result := by
  rcases hfetch : (fetchAt c cursor credential).run.run n s t with ⟨e | value, u⟩
  · rw [run_pollOnce_of_no_page (run_readPage_of_error hfetch)]
    cases fetched_fetchAt hurl hfetch with
    | failed he => exact .failed he
  · cases hdata : PageData.decoder.ofValue value with
    | error m =>
      rw [run_pollOnce_of_no_page (run_readPage_of_mismatch hfetch hdata)]
      exact .failed (by rintro _ ⟨⟩)
    | ok data =>
      rw [run_pollOnce_of_page (run_readPage_of_data hfetch hdata)]
      obtain ⟨report, v, told, hconclude, -, haccounted⟩ := exists_accounted c cursor data n s u
      rw [items_pageOf, hconclude]
      cases fetched_fetchAt hurl hfetch with
      | page htarget hoffers =>
        cases haccounted with
        | completed _ _ _ => exact .page htarget hoffers hdata
        | failed _ _ => exact .failed (by rintro _ ⟨⟩)

/-! ## Callers

A turn is what happens once: the network, the schedule and the request may be others each time. The
runs of a caller are lists of turns, and the invariant is shown for one more turn at the end. -/

/-- What a poll of a caller depends on besides its cursor. -/
structure Turn where
  credential : String
  attemptBudget : Option UInt32
  retryDelayMs : Option UInt64
  network : Network
  schedule : Schedule
  before : Trace

namespace Poller

/-- What a poll comes to when a caller holds a cursor. -/
def resultOf (p : Poller) (held : String) (turn : Turn) : Except Failure Response :=
  ((p.poll ⟨turn.credential, held, turn.attemptBudget, turn.retryDelayMs⟩).run turn.network
    turn.schedule turn.before).1.result

/-- The cursor that a caller holds when it has polled again and again. -/
def held (p : Poller) (turns : List Turn) : String :=
  turns.foldl (fun held turn ↦ heldCursor held (p.resultOf held turn)) ""

theorem held_concat (p : Poller) (turns : List Turn) (turn : Turn) :
    p.held (turns ++ [turn]) = heldCursor (p.held turns) (p.resultOf (p.held turns) turn) := by
  rw [held, List.foldl_append, List.foldl_cons, List.foldl_nil, ← held]

/-- A cursor that is taken. Once something has come, the start of the feed can be extended. -/
structure Usable (source : Source) (cursor : String) : Prop where
  exists_url : ∃ url, Url.ofString (source.pageUrl cursor) = .ok url
  start : cursor = "" ∨ Extensible source.startUrl

theorem source_applying (p : Poller) (r : Request) :
    (p.applying r).config.source = p.config.source := rfl

theorem polled_resultOf (p : Poller) {cursor : String} (h : Usable p.config.source cursor)
    (turn : Turn) : Polled p.config.source cursor turn.network (p.resultOf cursor turn) := by
  obtain ⟨url, hurl⟩ := h.exists_url
  rw [resultOf, poll_eq]
  generalize hr : Request.mk turn.credential cursor turn.attemptBudget turn.retryDelayMs = r
  have hcursor : r.cursor = cursor := by rw [← hr]
  rw [hcursor]
  rw [← source_applying p r] at hurl ⊢
  exact polled_pollOnce hurl

theorem resultOf_of_error (p : Poller) {cursor : String} {fault : Url.Error}
    (h : Url.ofString (p.config.source.pageUrl cursor) = .error fault) (turn : Turn) :
    p.resultOf cursor turn = .error (.invalidCursor fault) := by
  rw [← source_applying p ⟨turn.credential, cursor, turn.attemptBudget, turn.retryDelayMs⟩] at h
  rw [resultOf, poll_eq, run_pollOnce_of_no_page (run_readPage_of_error (run_fetchAt_of_error h))]

section

variable {p : Poller} {url : Url} (hstart : Url.ofString p.config.source.startUrl = .ok url)
  (hweb : url.isWeb = true → hostSettled p.config.source.startUrl.toList = true)

include hstart hweb

/-- What comes first comes from the start of the feed, so that is an address of the web. -/
theorem extensible_start_of_target {cursor : String}
    (hcursor : cursor = "" ∨ Extensible p.config.source.startUrl)
    (htarget : ∃ url, Http.target (p.config.source.pageUrl cursor) = .ok url) :
    Extensible p.config.source.startUrl := by
  obtain rfl | hextensible := hcursor
  · obtain ⟨_, htarget⟩ := htarget
    obtain ⟨url', hurl', hisWeb⟩ := exists_isWeb_of_target htarget
    rw [p.config.source.pageUrl_of_blank (List.forall_mem_nil _), hstart] at hurl'
    obtain rfl := Except.ok.inj hurl'
    exact ⟨⟨url, hstart⟩, hweb hisWeb⟩
  · exact hextensible

/-- A poll leaves the caller with a cursor that is taken. -/
theorem Usable.step {cursor : String} (h : Usable p.config.source cursor) {turn : Turn}
    (hturn : turn.network.Continues) :
    Usable p.config.source (heldCursor cursor (p.resultOf cursor turn)) := by
  have hpolled := polled_resultOf p h turn
  generalize p.resultOf cursor turn = result at hpolled
  cases hpolled with
  | failed _ => exact h
  | page htarget hoffers hdata =>
    have hextensible := extensible_start_of_target hstart hweb h.start htarget
    have hnext := (Source.extensible_basis (hturn hoffers hdata) hextensible).append
      p.config.source.cursorSuffix
    exact ⟨Source.exists_ofString_pageUrl ⟨url, hstart⟩ hnext, Or.inr hextensible⟩

theorem usable_held (turns : List Turn) (hturns : ∀ turn ∈ turns, turn.network.Continues) :
    Usable p.config.source (p.held turns) := by
  induction turns using List.reverseRecOn with
  | nil => exact ⟨⟨url, hstart⟩, Or.inl rfl⟩
  | append_singleton turns turn ih =>
    have hbefore := ih fun turn hmem ↦ hturns turn (List.mem_append_left _ hmem)
    rw [held_concat]
    exact hbefore.step hstart hweb (hturns turn (List.mem_append_right _ List.mem_cons_self))

end

/-- **A caller never comes to hold a cursor that is not taken.** -/
theorem ofString_pageUrl_held {p : Poller} {u : Url}
    (hstart : Url.ofString p.config.source.startUrl = .ok u)
    (hweb : u.isWeb = true → hostSettled p.config.source.startUrl.toList = true)
    {turns : List Turn} (hturns : ∀ turn ∈ turns, turn.network.Continues) :
    (∃ url, Url.ofString (p.config.source.pageUrl (p.held turns)) = .ok url) ∧
      ∀ turn fault, p.resultOf (p.held turns) turn ≠ .error (.invalidCursor fault) := by
  have husable := usable_held hstart hweb turns hturns
  refine ⟨husable.exists_url, fun turn fault hresult ↦ ?_⟩
  have hpolled := polled_resultOf p husable turn
  rw [hresult] at hpolled
  cases hpolled with
  | failed he => exact he fault rfl

/-! ## A sample of turns -/

/-- The data of a page without entries that names a continuation. -/
def continuing (next : String) : Json.Value := .object [("next_page", .string next)]

def continuingText (next : String) : List Char :=
  (Json.Value.object [("data", continuing next)]).compact

/-- A turn in which that page is all that is ever answered. -/
def turnTo (next : String) : Turn where
  credential := "key"
  attemptBudget := none
  retryDelayMs := none
  network := ⟨fun _ ↦ true, fun _ _ ↦ .reply (sampleReplyOf (continuingText next))⟩
  schedule := fun _ ↦ []
  before := .empty

def samplePoller : Poller := ⟨sampleConfig, by decide +kernel⟩

theorem ofValue_continuing (next : String) :
    PageData.decoder.ofValue (continuing next) = .ok ⟨none, none, some next⟩ := rfl

theorem continues_turnTo {next : String}
    (hjson : bodyJson? (sampleReplyOf (continuingText next)) =
      some (.object [("data", continuing next)])) (hnext : Extensible next) :
    (turnTo next).network.Continues := by
  rintro value data ⟨seen, request, reply, v, hreply, hv, hvalue⟩ hdata page hpage -
  obtain rfl := Outcome.reply.inj hreply
  rw [hjson] at hv
  obtain rfl := Option.some.inj hv
  obtain rfl := Option.some.inj hvalue
  rw [ofValue_continuing] at hdata
  obtain rfl := Except.ok.inj hdata
  obtain rfl := Option.some.inj hpage
  exact hnext

theorem held_turnTo {next : String}
    (hjson : bodyJson? (sampleReplyOf (continuingText next)) =
      some (.object [("data", continuing next)])) :
    samplePoller.held [turnTo next] = sampleConfig.source.nextCursor (some next) := by
  obtain ⟨u, hfetch⟩ : ∃ u, (fetchAt sampleConfig "" "key").run.run (turnTo next).network
      (turnTo next).schedule .empty = (.ok (continuing next), u) :=
    exists_run_fetchAt_of_reply target_sampleUrl keyField_sample rfl hjson rfl
  have hpage := run_readPage_of_data hfetch (ofValue_continuing next)
  have hresult : samplePoller.resultOf "" (turnTo next) =
      .ok ⟨[], sampleConfig.source.nextCursor (some next)⟩ := by
    have hconfig : (samplePoller.applying ⟨"key", "", none, none⟩).config = sampleConfig := rfl
    rw [resultOf, poll_eq]
    simp only [turnTo] at hpage ⊢
    rw [hconfig, run_pollOnce_of_page hpage, items_pageOf]
    have hitems : itemsOf ⟨none, none, some next⟩ = [] := rfl
    rw [hitems, run_resolveAll_nil, conclude, run_complete]
    rfl
  have hheld := held_concat samplePoller [] (turnTo next)
  rw [List.nil_append] at hheld
  have hnil : samplePoller.held [] = "" := rfl
  rw [hheld, hnil, hresult, heldCursor]

theorem ofString_pageUrl_held_sample :
    samplePoller.held [turnTo "http://wire.test/feed?page=2"] =
        "http://wire.test/feed?page=2&include=*" ∧
      (∃ url, Url.ofString (samplePoller.config.source.pageUrl
        (samplePoller.held [turnTo "http://wire.test/feed?page=2"])) = .ok url) ∧
      ∀ turn fault, samplePoller.resultOf
        (samplePoller.held [turnTo "http://wire.test/feed?page=2"]) turn ≠
          .error (.invalidCursor fault) := by
  have hjson : bodyJson? (sampleReplyOf (continuingText "http://wire.test/feed?page=2")) =
      some (.object [("data", continuing "http://wire.test/feed?page=2")]) :=
    bodyJson?_sampleReplyOf (by decide +kernel) (by decide +kernel)
  have hnext : Extensible "http://wire.test/feed?page=2" :=
    ⟨⟨{ sampleUrl with query := some "page=2".toList }, by decide +kernel⟩, by decide +kernel⟩
  have hcursor : sampleConfig.source.nextCursor (some "http://wire.test/feed?page=2") =
      "http://wire.test/feed?page=2&include=*" := by decide +kernel
  refine ⟨(held_turnTo hjson).trans hcursor, ?_⟩
  refine ofString_pageUrl_held (p := samplePoller) (u := sampleUrl) (by decide +kernel)
    (fun _ ↦ by decide +kernel) ?_
  intro turn hturn
  obtain rfl := List.mem_singleton.mp hturn
  exact continues_turnTo hjson hnext

/-- A page may name its continuation relative to itself. Then the caller holds what is no URL. -/
theorem invalidCursor_of_relative_continuation :
    Url.ofString samplePoller.config.source.startUrl = .ok sampleUrl ∧
      samplePoller.held [turnTo "/feed?page=2"] = "/feed?page=2&include=*" ∧
      samplePoller.resultOf (samplePoller.held [turnTo "/feed?page=2"]) (turnTo "/feed?page=2") =
        .error (.invalidCursor .relative) := by
  have hjson : bodyJson? (sampleReplyOf (continuingText "/feed?page=2")) =
      some (.object [("data", continuing "/feed?page=2")]) :=
    bodyJson?_sampleReplyOf (by decide +kernel) (by decide +kernel)
  have hcursor : sampleConfig.source.nextCursor (some "/feed?page=2") =
      "/feed?page=2&include=*" := by decide +kernel
  have hheld := (held_turnTo hjson).trans hcursor
  refine ⟨by decide +kernel, hheld, ?_⟩
  rw [hheld]
  exact resultOf_of_error samplePoller (by decide +kernel) _

end Poller

end NewsWire.Poll

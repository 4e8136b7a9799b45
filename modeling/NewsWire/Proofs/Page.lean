import NewsWire.Json.Printer
import NewsWire.Proofs.Retry

/-!
# The page of a poll

Reading a page is the first stage of a poll. The page is fetched, which may tell that it was asked
for again, and then every entry that holds no item is told. Either there is a page, and its items
and the entries told make up its entries, or the stage has failed and nothing but the retries has
been told.

No strands are joined in this stage, so it does not depend on the schedule.
-/

namespace NewsWire.Poll

open NewsWire.Feed

variable {c : Config} {cursor credential : String} {n : Network} {s : Schedule} {t u : Trace}
  {value : Json.Value} {data : PageData}

/-! ## What the data of a page says -/

/-- The entries of a page, in order. -/
def entriesOf (data : PageData) : List Json.Value := data.entries.getD []

/-- The items of a page, in order. -/
def itemsOf (data : PageData) : List Item := readItems ((entriesOf data).map readEntry)

/-- What is told of the entries that hold no item, in order. -/
def entryDrops (data : PageData) : List Event :=
  (readFaults ((entriesOf data).map readEntry)).map faultEvent

theorem length_itemsOf_add_length_entryDrops (data : PageData) :
    (itemsOf data).length + (entryDrops data).length = (entriesOf data).length := by
  rw [entryDrops, List.length_map, itemsOf, length_readItems_add_readFaults, List.length_map]

@[simp] theorem items_pageOf (source : Source) (data : PageData) :
    (pageOf source data).items = itemsOf data := rfl

@[simp] theorem nextCursor_pageOf (source : Source) (data : PageData) :
    (pageOf source data).nextCursor = source.nextCursor data.nextPage := rfl

@[simp] theorem skipped_pageOf (source : Source) (data : PageData) :
    (pageOf source data).skipped = (entryDrops data).length := by
  rw [entryDrops, List.length_map]
  rfl

/-! ## Fetching

Whatever is fetched, the events are those of retries, and their number is not known here. That there
is some number of them is enough for the account of a poll, which leaves to the loop how often it
tries. -/

theorem fetchAt_of_ok {url : Url} {key : KeyField}
    (hurl : Url.ofString (c.source.pageUrl cursor) = .ok url)
    (hkey : keyField c.source credential = .ok key) :
    fetchAt c cursor credential = fetchPage c (c.source.pageUrl cursor) (some key) := by
  rw [fetchAt, hurl, hkey]
  rfl

/-- A cursor that is fit to be used is fetched; with any other nothing is sent. -/
theorem fetchAt_cases (c : Config) (cursor credential : String) :
    (∃ e, ∀ n s t, (fetchAt c cursor credential).run.run n s t = (.error e, t)) ∨
      ∃ key, fetchAt c cursor credential = fetchPage c (c.source.pageUrl cursor) (some key) := by
  cases hurl : Url.ofString (c.source.pageUrl cursor) with
  | error fault =>
    refine Or.inl ⟨.invalidCursor fault, fun n s t ↦ ?_⟩
    rw [fetchAt, hurl]
    rfl
  | ok url =>
    cases hkey : keyField c.source credential with
    | error fault =>
      refine Or.inl ⟨.config fault, fun n s t ↦ ?_⟩
      rw [fetchAt, hurl, hkey]
      rfl
    | ok key => exact Or.inr ⟨key, fetchAt_of_ok hurl hkey⟩

/-- Fetching tells of retries alone. -/
theorem exists_events_fetchAt (c : Config) (cursor credential : String) (n : Network)
    (s : Schedule) (t : Trace) :
    ∃ failures, ((fetchAt c cursor credential).run.run n s t).2.events =
      t.events ++ retryEvents c (c.source.pageUrl cursor) 0 failures := by
  obtain ⟨e, hrun⟩ | ⟨key, heq⟩ := fetchAt_cases c cursor credential
  · refine ⟨[], ?_⟩
    rw [hrun, retryEvents, List.mapIdx_nil, List.append_nil]
  · obtain ⟨failures, result, u, hrun, htries⟩ :=
      exists_tries c (c.source.pageUrl cursor) (some key) n s 0 t
    have hfetch : (fetchAt c cursor credential).run.run n s t = (result, u) := by
      rw [heq]
      exact hrun
    refine ⟨failures, ?_⟩
    rw [hfetch]
    exact htries.events

/-- What is asked for is an address of the web. -/
theorem exists_isWeb_of_target {rawUrl : String} {url : Url} (h : Http.target rawUrl = .ok url) :
    ∃ u, Url.ofString rawUrl = .ok u ∧ u.isWeb = true := by
  rw [Http.target] at h
  split at h
  · cases h
  · next u hu =>
    refine ⟨u, hu, ?_⟩
    dsimp only at h
    split at h
    · next hfetchable =>
      rw [Bool.and_eq_true, Bool.and_eq_true] at hfetchable
      have hweb := hfetchable.1.1
      rw [Http.withoutCredentials] at hweb
      -- The credentials are no part of the scheme.
      split at hweb <;> exact hweb
    · cases h

theorem run_fetchAt_of_final {url : Url} {key : KeyField} {o : Http.Outcome}
    {result : Except Failure Json.Value}
    (htarget : Http.target (c.source.pageUrl cursor) = .ok url)
    (hkey : keyField c.source credential = .ok key)
    (hsend : (n.send t.seen ⟨url, pageFields c (some key)⟩).1 = o)
    (hbrings : Brings (c.source.pageUrl cursor) url o result)
    (hfinal : ∀ e, result = .error e → e.isRetryable = false) :
    (fetchAt c cursor credential).run.run n s t =
      (result, { t with seen := (n.send t.seen ⟨url, pageFields c (some key)⟩).2 }) := by
  obtain ⟨url', hurl, -⟩ := exists_isWeb_of_target htarget
  have hattempt : (attemptPage c (c.source.pageUrl cursor) (some key)).run.run n s t =
      (result, { t with seen := (n.send t.seen ⟨url, pageFields c (some key)⟩).2 }) := by
    rw [run_attemptPage_of_ok htarget, hsend, brings_iff.mp hbrings]
  rw [fetchAt_of_ok hurl hkey, fetchPage, ExceptT.run_mk, fetchPageFrom, Dialogue.run_bind,
    hattempt]
  cases result with
  | ok v => rfl
  | error e =>
    simp only [hfinal e rfl, Bool.false_and]
    rfl

theorem exists_run_fetchAt_of_reply {url : Url} {key : KeyField} {r : Http.Reply} {v : Json.Value}
    (htarget : Http.target (c.source.pageUrl cursor) = .ok url)
    (hkey : keyField c.source credential = .ok key)
    (hsend : (n.send t.seen ⟨url, pageFields c (some key)⟩).1 = .reply r)
    (hjson : bodyJson? r = some v) (hdata : v.member? "data" = some value) :
    ∃ u, (fetchAt c cursor credential).run.run n s t = (.ok value, u) :=
  ⟨_, run_fetchAt_of_final htarget hkey hsend (.data hjson hdata) nofun⟩

/-! ## Reading -/

theorem run_readPage_of_error {e : Failure}
    (h : (fetchAt c cursor credential).run.run n s t = (.error e, u)) :
    (readPage c cursor credential).run.run n s t = (.error e, u) :=
  Attempt.run_bind_of_error h _

theorem run_readPage_of_mismatch {m : Json.Mismatch}
    (h : (fetchAt c cursor credential).run.run n s t = (.ok value, u))
    (hdata : PageData.decoder.ofValue value = .error m) :
    (readPage c cursor credential).run.run n s t =
      (.error (.unexpectedShape (c.source.pageUrl cursor)), u) := by
  rw [readPage, Attempt.run_bind_of_ok h, hdata]
  rfl

theorem run_readPage_of_data
    (h : (fetchAt c cursor credential).run.run n s t = (.ok value, u))
    (hdata : PageData.decoder.ofValue value = .ok data) :
    (readPage c cursor credential).run.run n s t =
      (.ok (pageOf c.source data), u.tell (entryDrops data)) := by
  rw [readPage, Attempt.run_bind_of_ok h, hdata]
  have htell : (Attempt.lift (tellAll (entryDrops data))).run.run n s u =
      (.ok (), u.tell (entryDrops data)) := by
    rw [Attempt.run_lift, Dialogue.run_tellAll]
  exact Attempt.run_bind_of_ok htell _

/-- Either there is no page, or there are data of which it is read. -/
theorem run_readPage_cases (c : Config) (cursor credential : String) (n : Network) (s : Schedule)
    (t : Trace) :
    (∃ e u, ((fetchAt c cursor credential).run.run n s t).2 = u ∧
      (readPage c cursor credential).run.run n s t = (.error e, u)) ∨
    ∃ value data u, (fetchAt c cursor credential).run.run n s t = (.ok value, u) ∧
      PageData.decoder.ofValue value = .ok data ∧
      (readPage c cursor credential).run.run n s t =
        (.ok (pageOf c.source data), u.tell (entryDrops data)) := by
  cases hfetch : (fetchAt c cursor credential).run.run n s t with
  | mk result u =>
    cases result with
    | error e => exact Or.inl ⟨e, u, rfl, run_readPage_of_error hfetch⟩
    | ok value =>
      cases hdata : PageData.decoder.ofValue value with
      | error m => exact Or.inl ⟨_, u, rfl, run_readPage_of_mismatch hfetch hdata⟩
      | ok data =>
        exact Or.inr ⟨value, data, u, rfl, hdata, run_readPage_of_data hfetch hdata⟩

/-! ## Independence of the schedule -/

theorem joinless_attemptPage (c : Config) (rawUrl : String) (key : Option KeyField) :
    (attemptPage c rawUrl key).run.Joinless := by
  rw [attemptPage]
  cases Http.target rawUrl with
  | error fault => exact .done _
  | ok url => exact .ask fun o ↦ .done _

theorem joinless_fetchPageFrom (c : Config) (rawUrl : String) (key : Option KeyField)
    (attempt : ℕ) : (fetchPageFrom c rawUrl key attempt).Joinless := by
  induction attempt using fetchPageFrom.induct c with
  | case1 attempt ih =>
    rw [fetchPageFrom]
    refine (joinless_attemptPage c rawUrl key).bind ?_
    intro result
    rcases result with e | v
    · by_cases hretry : e.isRetryable && c.retryMode.shouldRetry attempt c.attemptBudget.toNat
      · simp only [dif_pos hretry]
        exact .tell (.wait (ih e hretry))
      · simp only [dif_neg hretry]
        exact .done _
    · exact .done _

theorem joinless_fetchAt (c : Config) (cursor credential : String) :
    (fetchAt c cursor credential).run.Joinless := by
  rw [fetchAt]
  refine Attempt.joinless_bind (Attempt.joinless_ofExcept _) fun _ ↦ ?_
  refine Attempt.joinless_bind (Attempt.joinless_ofExcept _) fun key ↦ ?_
  exact joinless_fetchPageFrom _ _ _ 0

theorem joinless_readPage (c : Config) (cursor credential : String) :
    (readPage c cursor credential).run.Joinless := by
  rw [readPage]
  refine Attempt.joinless_bind (joinless_fetchAt c cursor credential) fun value ↦ ?_
  cases PageData.decoder.ofValue value with
  | error m => exact Attempt.joinless_ofExcept _
  | ok data =>
    refine Attempt.joinless_bind ?_ fun _ ↦ .done _
    exact Attempt.joinless_lift (Dialogue.joinless_tellAll _)

/-! ## A sample page

The page has two stories and an entry that holds nothing, so that a statement about pages can be
seen at work: something is dropped and something is left, and there are two documents that may come
in in either order. -/

/-- A wire that the sample network answers for. -/
def sampleConfig : Config :=
  { Config.default with
    source := { Source.associatedPress with startUrl := "http://wire.test/feed" } }

def sampleUrl : Url where
  scheme := "http".toList
  username := []
  password := []
  host := some (.name "wire.test".toList)
  port := none
  path := .segments ["feed".toList]
  query := none
  fragment := none

/-- The entry of a story. -/
def sampleStory (href : String) : Json.Value :=
  .object [("item", .object [("renditions", .object [("nitf",
    .object [("href", .string href)])])])]

/-- Two stories, and an entry that holds nothing. -/
def sampleEntries : List Json.Value :=
  [sampleStory "http://wire.test/1", .object [], sampleStory "http://wire.test/2"]

def sampleText : List Char :=
  (Json.Value.object [("data", .object [("items", .array sampleEntries)])]).compact

def sampleReplyOf (text : List Char) : Http.Reply :=
  ⟨⟨200⟩, none, some (text.map fun ch ↦ UInt8.ofNat ch.toNat)⟩

theorem bodyJson?_sampleReplyOf {text : List Char} {v : Json.Value}
    (hdecode : Text.Utf8.decode? (text.map fun ch ↦ UInt8.ofNat ch.toNat) = some text)
    (hparse : Json.parse text = .ok v) : bodyJson? (sampleReplyOf text) = some v := by
  rw [bodyJson?, sampleReplyOf, Option.bind_some, hdecode, Option.bind_some, hparse,
    Except.toOption]

def sampleReply (url : Url) : Http.Outcome :=
  .reply (sampleReplyOf (if url = sampleUrl then sampleText else "<p>News.</p>".toList))

/-- The network that answers for the sample wire. -/
def sampleNetwork : Network := ⟨fun _ ↦ true, fun _ r ↦ sampleReply r.url⟩

theorem target_sampleUrl : Http.target "http://wire.test/feed" = .ok sampleUrl := by decide +kernel

theorem keyField_sample : keyField sampleConfig.source "key" = .ok ⟨"x-api-key", "key"⟩ := by
  decide +kernel

theorem ofValue_sampleEntries :
    PageData.decoder.ofValue (.object [("items", .array sampleEntries)]) =
      .ok ⟨none, some sampleEntries, none⟩ := by decide +kernel

/-- The sample page comes at once from every network that has it. -/
theorem run_fetchAt_of_sampleReply {n : Network}
    (h : (n.send [] ⟨sampleUrl, pageFields sampleConfig (some ⟨"x-api-key", "key"⟩)⟩).1 =
      sampleReply sampleUrl) (s : Schedule) :
    ∃ u, (fetchAt sampleConfig "" "key").run.run n s .empty =
      (.ok (.object [("items", .array sampleEntries)]), u) := by
  have hjson : bodyJson? (sampleReplyOf sampleText) =
      some (.object [("data", .object [("items", .array sampleEntries)])]) :=
    bodyJson?_sampleReplyOf (by decide +kernel) (by decide +kernel)
  exact exists_run_fetchAt_of_reply target_sampleUrl keyField_sample h hjson rfl

theorem run_fetchAt_sample (s : Schedule) :
    ∃ u, (fetchAt sampleConfig "" "key").run.run sampleNetwork s .empty =
      (.ok (.object [("items", .array sampleEntries)]), u) :=
  run_fetchAt_of_sampleReply rfl s

end NewsWire.Poll

import NewsWire.Payload.Transform
import NewsWire.Poll.Resolve

/-!
# Polls

A poll reads the page of a cursor, resolves its items, and turns each resolved item into a payload.
Its report says how far it came and what came of it. A failed poll hands back no cursor, so the
caller keeps the one it has.

A poller is a configuration that is fit to be used. A request may change the budget and the delay
for its poll. Another poller is then built for it, and the one that it was made to is left alone. No
request changes the user agent, so the other poller is always built.

No state outlives a poll but the cursor, and the caller keeps it. It is handed back with the
payloads and not before: a caller that has the next cursor also has everything that the page held. A
page on which every item was dropped is a success, or the feed would stop there.
-/

namespace NewsWire.Poll

open NewsWire.Feed

/-- How far a poll has come. -/
inductive Stage where
  | idle
  | fetchingPage
  | resolvingItems
  | done
  deriving DecidableEq, Repr

/-- How far a poll came, and what came of it. -/
structure Report where
  stage : Stage
  result : Except Failure Response

def ResolvedItem.payload (feedTag : String) (r : ResolvedItem) : Payload :=
  Payload.ofItem feedTag r.item r.document r.content

/-- Complete a page: tell observers, and hand back the payloads and the next cursor. -/
def complete (cursor : String) (page : Page) (payloads : List Payload) (dropped : Nat) :
    Dialogue Report :=
  .tell (.pageCompleted cursor page.nextCursor payloads.length (page.skipped + dropped))
    (.done ⟨.done, .ok ⟨payloads, page.nextCursor⟩⟩)

def pollOnce (c : Config) (credential cursor : String) : Dialogue Report :=
  (readPage c cursor credential).run.bind fun
    | .error e => .done ⟨.fetchingPage, .error e⟩
    | .ok page =>
      if page.items.isEmpty then complete cursor page [] 0
      else
        (resolveAll c page.items).run.bind fun
          | .error e => .done ⟨.resolvingItems, .error e⟩
          | .ok resolution =>
            complete cursor page (resolution.items.map (·.payload c.source.feedTag))
              resolution.dropped

/-- A configuration whose user agent can be sent. -/
structure Poller where
  config : Config
  userAgent_ok : Http.isFieldValue config.userAgent = true

namespace Poller

def build (c : Config) : Except Failure Poller :=
  if h : Http.isFieldValue c.userAgent = true then .ok ⟨c, h⟩ else .error (.config .badUserAgent)

def applying (p : Poller) (r : Request) : Poller := ⟨p.config.applying r, p.userAgent_ok⟩

/-- The poll of a request. One that changes the configuration is that of a poller built for it. -/
def poll (p : Poller) (r : Request) : Dialogue Report :=
  if r.attemptBudget.isSome || r.retryDelayMs.isSome then
    match build (p.config.applying r) with
    | .error e => .done ⟨.idle, .error e⟩
    | .ok fresh => pollOnce fresh.config r.credential r.cursor
  else pollOnce p.config r.credential r.cursor

theorem build_applying (p : Poller) (r : Request) :
    build (p.config.applying r) = .ok (p.applying r) :=
  dif_pos p.userAgent_ok

theorem poll_eq (p : Poller) (r : Request) :
    p.poll r = pollOnce (p.applying r).config r.credential r.cursor := by
  rw [poll]
  split
  · rw [build_applying]
  · next hnone =>
    rw [Bool.or_eq_true, not_or, Option.not_isSome_iff_eq_none, Option.not_isSome_iff_eq_none]
      at hnone
    have hconfig : (p.applying r).config = p.config :=
      Config.applying_of_none hnone.1 hnone.2 p.config
    rw [hconfig]

end Poller

/-! ## Callers -/

/-- The cursor that a caller holds after a poll: the next one after a success, the same after a
failure. -/
def heldCursor (held : String) (result : Except Failure Response) : String :=
  match result with
  | .ok response => response.nextCursor
  | .error _ => held

end NewsWire.Poll

import NewsWire.Feed.Page
import NewsWire.Http.Header
import NewsWire.Poll.Config
import NewsWire.Poll.Dialogue
import NewsWire.Text.Charset

/-!
# Fetching pages and documents

A page of the feed is asked for again while it fails in a way that may go away and the attempt
counter allows it, with the same delay before every further attempt. A document is asked for once.

A page is JSON: the body decides, whatever the status, and the status is looked at only when the
body is no JSON. A document is text of the character set that the reply names: the status decides
first, and the body is looked at only when the request was answered as asked.
-/

namespace NewsWire.Poll

open NewsWire.Feed NewsWire.Http

/-! ## Requests

Only requests for pages carry the key. A document lies on whatever host the feed names, and that
host is not to learn the key. -/

def standardFields (c : Config) : List (String × String) :=
  [("accept", "*/*"), ("user-agent", c.userAgent)]

/-- The field that carries the key. -/
structure KeyField where
  name : String
  value : String
  deriving DecidableEq, Repr

/-- The key field of a credential. -/
def keyField (s : Source) (credential : String) : Except ConfigFault KeyField :=
  match fieldName? s.keyField with
  | none => .error .badKeyField
  | some name =>
    if isFieldValue credential then .ok ⟨name, credential⟩ else .error .badCredential

/-- The fields of a request for a page. -/
def pageFields (c : Config) (key : Option KeyField) : List (String × String) :=
  match key with
  | some k => setField k.name k.value (standardFields c)
  | none => standardFields c

/-! ## What a reply says

These readers are functions of an outcome, without any asking. Whether a failure may go away is said
by the failure itself, so the loop below need not know how a reply was read. -/

/-- What a reply to a request for a page says. -/
def readPageReply (rawUrl : String) (r : Reply) : Except Failure Envelope :=
  match r.body with
  | none => .error (.transport .brokenBody)
  | some bytes =>
    match (Text.Utf8.decode? bytes).map Json.parse with
    | some (.ok v) =>
      match Envelope.ofValue? v with
      | some e => .ok e
      | none => .error (.unexpectedShape rawUrl)
    | _ =>
      if r.status.isSuccess then .error (.unexpectedShape rawUrl)
      else .error (.transport (.status r.status))

/-- What an outcome of a request for a page says: the data of the page, or a failure. -/
def readPageOutcome (rawUrl : String) (url : Url) : Outcome → Except Failure Json.Value
  | .failed => .error (.transport (.failed url))
  | .reply r =>
    match readPageReply rawUrl r with
    | .ok (.data v) => .ok v
    | .ok (.error message) => .error (.remote message)
    | .error e => .error e

/-- What an outcome of a request for a document says. -/
def readTextOutcome (url : Url) : Outcome → Except TransportFault String
  | .failed => .error (.failed url)
  | .reply r =>
    if !r.status.isSuccess then .error (.status r.status)
    else
      match r.body with
      | none => .error .brokenBody
      | some bytes =>
        .ok (String.ofList
          (Text.Charset.decodeLabelled (r.contentType.bind charsetLabel) bytes))

/-! ## Fetching

The loop counts the failures and ends at the budget, which is what its termination is proved by: the
mode of retrying cannot allow an attempt beyond the budget (`RetryMode.lt_of_shouldRetry`). -/

/-- One attempt to fetch the data of a page. -/
def attemptPage (c : Config) (rawUrl : String) (key : Option KeyField) :
    Attempt Json.Value :=
  ExceptT.mk <|
    match target rawUrl with
    | .error fault => .done (.error (.transport fault))
    | .ok url => (Dialogue.asking ⟨url, pageFields c key⟩).bind fun o ↦
      .done (readPageOutcome rawUrl url o)

/-- Fetch the data of a page, the attempt counter standing at `attempt`. -/
def fetchPageFrom (c : Config) (rawUrl : String) (key : Option KeyField) (attempt : Nat) :
    Dialogue (Except Failure Json.Value) :=
  (attemptPage c rawUrl key).run.bind fun
    | .ok v => .done (.ok v)
    | .error e =>
      if h : e.isRetryable && c.retryMode.shouldRetry attempt c.attemptBudget.toNat then
        have : c.attemptBudget.toNat - (attempt + 1) < c.attemptBudget.toNat - attempt := by
          have := RetryMode.lt_of_shouldRetry (Bool.and_eq_true _ _ ▸ h).2
          omega
        .tell (.pageRetried rawUrl (attempt + 1) e c.retryDelayMs)
          (.wait c.retryDelayMs (fetchPageFrom c rawUrl key (attempt + 1)))
      else .done (.error e)
  termination_by c.attemptBudget.toNat - attempt

def fetchPage (c : Config) (rawUrl : String) (key : Option KeyField) : Attempt Json.Value :=
  ExceptT.mk (fetchPageFrom c rawUrl key 0)

/-- Fetch a document, besides other things. -/
def textStrand (c : Config) (rawUrl : String) : Strand (Except TransportFault String) :=
  match target rawUrl with
  | .error fault => .done (.error fault)
  | .ok url => .ask ⟨url, standardFields c⟩ fun o ↦ .done (readTextOutcome url o)

def fetchText (c : Config) (rawUrl : String) : Dialogue (Except TransportFault String) :=
  .ofStrand (textStrand c rawUrl)

/-! ## Reading a page

The page of a cursor is checked for before anything is sent: the cursor must be a URL, the key field
and the credential must be fit to be sent, in this order. So a request that cannot succeed costs
nothing, and the key never leaves for a place that is none. Every entry of the page that holds no
item is told to observers and skipped. -/

/-- How an entry that holds no item is told. -/
def faultEvent : EntryFault → Event
  | .missing => .itemDropped none .missingItem
  | .malformed revision m => .itemDropped revision (.malformedItem m)

def tellAll : List Event → Dialogue Unit
  | [] => .done ()
  | e :: es => .tell e (tellAll es)

/-- The page that its data describes. -/
def pageOf (s : Source) (data : PageData) : Page :=
  let read := (data.entries.getD []).map readEntry
  { items := readItems read
    nextCursor := s.nextCursor data.nextPage
    skipped := (readFaults read).length }

/-- Fetch what the feed has at a cursor. -/
def fetchAt (c : Config) (cursor credential : String) : Attempt Json.Value := do
  let url := c.source.pageUrl cursor
  Attempt.ofExcept ((Url.ofString url).mapError .invalidCursor |>.map fun _ ↦ ())
  let key ← Attempt.ofExcept ((keyField c.source credential).mapError .config)
  fetchPage c url (some key)

def readPage (c : Config) (cursor credential : String) : Attempt Page := do
  let value ← fetchAt c cursor credential
  match PageData.decoder.ofValue value with
  | .error _ => Attempt.fail (.unexpectedShape (c.source.pageUrl cursor))
  | .ok data =>
    let faults := readFaults ((data.entries.getD []).map readEntry)
    Attempt.lift (tellAll (faults.map faultEvent))
    return pageOf c.source data

end NewsWire.Poll

import NewsWire.Feed.Source
import NewsWire.Payload.Basic
import NewsWire.Poll.Duration
import NewsWire.Poll.Failure
import NewsWire.Text.Numeral

/-!
# Configuration of polls

How pages are fetched, from which wire, and what happens when the document of an item cannot be
fetched. The configuration comes from environment variables, of which each changes one field, and a
request may change the attempt budget and the retry delay for one poll.

What a request changes is in the request, and what it leaves alone is in the configuration; neither
is written to. So two polls with different requests do not disturb each other, and a poll is a
function of the two.
-/

namespace NewsWire.Poll

open NewsWire.Json NewsWire.Text

/-! ## Requests and responses

What a scheduler hands in for one poll, and what it gets back. The caller keeps the cursor: it hands
in the one of the last successful response, and the empty one at first. Nothing else is remembered
from one poll to the next. -/

/-- One poll: the key to the feed, the place in it, and changes to the configuration that hold for
this poll alone. -/
structure Request where
  credential : String
  cursor : String
  attemptBudget : Option UInt32
  retryDelayMs : Option UInt64
  deriving DecidableEq, Repr, Inhabited

/-- The payloads of a page, and the place after it. -/
structure Response where
  payloads : List Payload
  nextCursor : String
  deriving DecidableEq, Repr, Inhabited

def Request.decoder : Decoder Request :=
  Fields.record "PollRequest"
    (Request.mk <$> Fields.required "credential" .text <*> Fields.required "cursor" .text <*>
      Fields.optional "attemptBudget" .word32 <*> Fields.optional "retryDelayMs" .word64)

def Response.decoder : Decoder Response :=
  Fields.record "PollResponse"
    (Response.mk <$> Fields.required "payloads" (.list Payload.decoder) <*>
      Fields.required "nextCursor" .text)

def Request.encode (r : Request) : Value :=
  present [
    ("credential", some (.string r.credential)),
    ("cursor", some (.string r.cursor)),
    ("attemptBudget", r.attemptBudget.map fun n ↦ .ofNat n.toNat),
    ("retryDelayMs", r.retryDelayMs.map fun n ↦ .ofNat n.toNat)]

def Response.encode (r : Response) : Value :=
  .object [("payloads", .array (r.payloads.map Payload.encode)),
    ("nextCursor", .string r.nextCursor)]

/-! ## Parts of a configuration

Retrying has two modes because the rule it follows can be read in two ways. As it is written, a page
is tried again while the counter is positive and below the budget; since the counter begins at zero,
a page is then never tried again. That reading is the standard until the owners of the rule say
otherwise, and the other one, which tries as often as the budget says, must be asked for. -/

/-- How failed attempts are counted against the budget. The counter stands at zero when the first
attempt has failed. -/
inductive RetryMode where
  /-- Try again only while the counter is between zero and the budget, both excluded: a page is
  never tried again after its first failure. -/
  | literal
  /-- Try again until as many attempts have been made as the budget says. -/
  | fromFirstFailure
  deriving DecidableEq, Repr

/-- The page is to be asked for again, the counter standing at `attempt`. -/
def RetryMode.shouldRetry (mode : RetryMode) (attempt budget : Nat) : Bool :=
  match mode with
  | .literal => 0 < attempt && attempt < budget
  | .fromFirstFailure => attempt + 1 < budget

theorem RetryMode.lt_of_shouldRetry {mode : RetryMode} {attempt budget : Nat}
    (h : mode.shouldRetry attempt budget = true) : attempt < budget := by
  cases mode <;> simp [shouldRetry] at h <;> omega

/-- What becomes of a poll when the document of an item cannot be fetched. -/
inductive ItemFailure where
  /-- The item is dropped. -/
  | drop
  /-- The poll fails. -/
  | propagate
  deriving DecidableEq, Repr

/-- The meaning of a text: blanks around it and the case of ASCII letters do not matter. -/
def ItemFailure.ofText (text : String) : Except ConfigFault ItemFailure :=
  let t := String.ofList ((trim text.toList).map Char.toLower)
  if t = "drop" then .ok .drop
  else if t = "propagate" then .ok .propagate
  else .error (.unknownItemFailure t)

/-! ## Configurations -/

/-- How and where to poll. -/
structure Config where
  userAgent : String
  timeoutSeconds : UInt64
  attemptBudget : UInt32
  retryDelayMs : UInt64
  retryMode : RetryMode
  source : Feed.Source
  itemFailure : ItemFailure
  deriving DecidableEq, Repr

namespace Config

/-- The configuration when nothing is said. -/
def default : Config where
  userAgent := "Wire-Ingest/1.0"
  timeoutSeconds := 30
  attemptBudget := 3
  retryDelayMs := 10000
  retryMode := .literal
  source := .associatedPress
  itemFailure := .drop

def applying (c : Config) (r : Request) : Config :=
  { c with
    attemptBudget := r.attemptBudget.getD c.attemptBudget
    retryDelayMs := r.retryDelayMs.getD c.retryDelayMs }

theorem applying_of_none {r : Request} (hbudget : r.attemptBudget = none)
    (hdelay : r.retryDelayMs = none) (c : Config) : c.applying r = c := by
  rw [applying, hbudget, hdelay]
  rfl

/-- The longest time that fetching one page may take: every attempt of the budget runs into the
time limit and is followed by the delay. -/
def worstCaseLatency (c : Config) : Except DurationFault Duration := do
  let attempt ← (Duration.ofSeconds c.timeoutSeconds).add (.ofMillis c.retryDelayMs)
  attempt.mul c.attemptBudget

/-! ## The environment

A variable that is not set changes nothing, and one that cannot be read is a fault that names it,
with its value as it was given. The first fault counts, in the order in which the variables are
looked at. -/

/-- The variables that are set, with their values. -/
abbrev Environment := List (String × String)

/-- The variables that a configuration is taken from. -/
def variableNames : List String :=
  ["WIRE_FEED_URL", "WIRE_ATTEMPT_BUDGET", "WIRE_RETRY_DELAY_MS", "WIRE_RETRY_FROM_FIRST_FAILURE",
    "WIRE_ITEM_FAILURE"]

/-- The value of a variable that is read after trimming, if it is set. -/
def setting {α : Type} (env : Environment) (name : String) (read : List Char → Option α) :
    Except ConfigFault (Option α) :=
  match env.lookup name with
  | none => .ok none
  | some raw =>
    match read (trim raw.toList) with
    | some a => .ok (some a)
    | none => .error (.badVariable name raw)

def truth? (cs : List Char) : Option Bool :=
  if cs = "true".toList then some true else if cs = "false".toList then some false else none

def word32? (cs : List Char) : Option UInt32 := (natural? maxWord32 cs).map UInt32.ofNat

def word64? (cs : List Char) : Option UInt64 := (natural? maxWord64 cs).map UInt64.ofNat

/-- The configuration that an environment asks for. The start of the feed is taken as it is. -/
def ofEnvironment (env : Environment) : Except ConfigFault Config := do
  let c := default
  let c := match env.lookup "WIRE_FEED_URL" with
    | some url => { c with source := { c.source with startUrl := url } }
    | none => c
  let budget ← setting env "WIRE_ATTEMPT_BUDGET" word32?
  let c := { c with attemptBudget := budget.getD c.attemptBudget }
  let delay ← setting env "WIRE_RETRY_DELAY_MS" word64?
  let c := { c with retryDelayMs := delay.getD c.retryDelayMs }
  let fromFirst ← setting env "WIRE_RETRY_FROM_FIRST_FAILURE" truth?
  let c := if fromFirst = some true then { c with retryMode := .fromFirstFailure } else c
  match env.lookup "WIRE_ITEM_FAILURE" with
  | some text =>
    let itemFailure ← ItemFailure.ofText text
    return { c with itemFailure }
  | none => return c

end Config

end NewsWire.Poll

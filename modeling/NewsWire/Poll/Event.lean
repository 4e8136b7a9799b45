import NewsWire.Json.Decoder
import NewsWire.Poll.Failure

/-!
# Events of a poll

What happens during a poll and may interest an observer: a page is asked for again, an item of the
page is dropped, a page is completed. `Event.logRecord` is how an event appears in a log.

Events carry causes and not texts, and they are told at fixed points of a poll, so observers do not
depend on how a log is written. What is not reported by an event is in the result of the poll: there
is no event for a poll that fails.
-/

namespace NewsWire.Poll

open NewsWire.Json

/-- Why an item of a page is dropped. -/
inductive DropReason where
  /-- The entry of the page has no item. -/
  | missingItem
  /-- The entry has something that is no item. -/
  | malformedItem (mismatch : Mismatch)
  /-- The item cannot be fetched in the format that is asked for. -/
  | missingRendition
  /-- Its document could not be fetched. -/
  | contentFetchFailed (fault : Http.TransportFault)
  deriving DecidableEq, Repr

def DropReason.message : DropReason → String
  | .missingItem => "missing item"
  | .malformedItem m => "malformed item: " ++ m.message
  | .missingRendition => "missing rendition"
  | .contentFetchFailed fault =>
    "content fetch failed: " ++ (Failure.transport fault).message

/-- What may interest an observer. -/
inductive Event where
  /-- A page is asked for again, for the `attempt`-th time, because of a failure and after a
  delay. -/
  | pageRetried (url : String) (attempt : Nat) (failure : Failure) (delayMs : UInt64)
  | itemDropped (revision : Option String) (reason : DropReason)
  | pageCompleted (cursor nextCursor : String) (payloads dropped : Nat)
  deriving DecidableEq, Repr

structure LogRecord where
  level : String
  message : String
  fields : Members

/-- How an event appears in a log. A revision that has no tag appears as a dash. -/
def Event.logRecord : Event → LogRecord
  | .pageRetried url attempt failure delayMs =>
    ⟨"WARN", "page fetch retried",
      [("url", .string url), ("attempt", .ofNat attempt), ("error", .string failure.message),
        ("delay_ms", .ofNat delayMs.toNat)]⟩
  | .itemDropped revision reason =>
    ⟨"WARN", "item dropped",
      [("revision", .string (revision.getD "-")), ("reason", .string reason.message)]⟩
  | .pageCompleted cursor nextCursor payloads dropped =>
    ⟨"INFO", "page completed",
      [("cursor", .string cursor), ("next_cursor", .string nextCursor),
        ("payloads", .ofNat payloads), ("dropped", .ofNat dropped)]⟩

end NewsWire.Poll

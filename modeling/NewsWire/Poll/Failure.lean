import NewsWire.Http.Exchange

/-!
# Why a poll fails

Failures are causes; `Failure.message` is their only wording. A failure of the transport and an
error reported by the feed itself may go away, so the page is asked for again. All others are final.

An answer that is neither data nor an error is final at once: what answered is no feed of the kind
that is read here, and asking it again does not make it one. A failure of a configuration or a
cursor is final because nothing has been sent yet.
-/

namespace NewsWire.Poll

open NewsWire.Http

/-- What is wrong with a configuration. -/
inductive ConfigFault where
  | badUserAgent
  | badKeyField
  | badCredential
  | badVariable (name value : String)
  | unknownItemFailure (text : String)
  deriving DecidableEq, Repr

def ConfigFault.message : ConfigFault → String
  | .badUserAgent => "failed to create HTTP client: builder error"
  | .badKeyField => "invalid api key header name: invalid HTTP header name"
  | .badCredential => "credential is not a valid header value"
  | .badVariable name value => name ++ " has an invalid value: " ++ value
  | .unknownItemFailure text => "unknown item failure policy: " ++ text

/-- Why a poll fails. -/
inductive Failure where
  | transport (fault : TransportFault)
  /-- The feed answered with an error of its own. -/
  | remote (message : String)
  /-- The feed answered with something that is neither a page nor an error. -/
  | unexpectedShape (url : String)
  /-- The document of an item could not be fetched. -/
  | itemFetch (revision : String) (fault : TransportFault)
  | invalidCursor (error : Url.Error)
  | config (fault : ConfigFault)
  deriving DecidableEq, Repr

def Failure.message : Failure → String
  | .transport fault => "Transient fetch error: " ++ fault.message
  | .remote message => "Remote error: " ++ message
  | .unexpectedShape url => "Unexpected response shape from " ++ url
  | .itemFetch revision fault =>
    "Content fetch failed for revision " ++ revision ++ ": Transient fetch error: " ++ fault.message
  | .invalidCursor error => "Invalid cursor: " ++ error.message
  | .config fault => "Configuration error: " ++ fault.message

/-- What lies behind a failure, the nearest cause first. -/
def Failure.causes : Failure → List String
  | .itemFetch _ fault => ["Transient fetch error: " ++ fault.message]
  | .invalidCursor error => [error.message]
  | _ => []

/-- The same page may be asked for again. -/
def Failure.isRetryable : Failure → Bool
  | .transport _ => true
  | .remote _ => true
  | _ => false

end NewsWire.Poll

import NewsWire.Url.Parse

/-!
# Requests and what becomes of them

A request asks for the resource of a URL. It either fails on the way or brings a reply. Failures on
the way are told apart because they are reported differently: the text may be no URL at all, the
scheme may be none that can be fetched, the connection may fail before a reply, or break off inside
its body.

A reply that breaks off is a reply all the same: its status and its fields have arrived. So a body
is an `Option`, and what a missing one means is left to the reader of the reply.
-/

namespace NewsWire.Http

/-! ## Status codes

A status code is any number; the registered ones have a reason. A code without one is still a
status, so a reply is never refused because of its code. -/

structure Status where
  code : Nat
  deriving DecidableEq, Repr, Inhabited

/-- The registered codes and their reasons. -/
def reasons : List (Nat × String) :=
  [(100, "Continue"), (101, "Switching Protocols"), (102, "Processing"), (103, "Early Hints"),
   (200, "OK"), (201, "Created"), (202, "Accepted"), (203, "Non Authoritative Information"),
   (204, "No Content"), (205, "Reset Content"), (206, "Partial Content"), (207, "Multi-Status"),
   (208, "Already Reported"), (226, "IM Used"), (300, "Multiple Choices"),
   (301, "Moved Permanently"), (302, "Found"), (303, "See Other"), (304, "Not Modified"),
   (305, "Use Proxy"), (307, "Temporary Redirect"), (308, "Permanent Redirect"),
   (400, "Bad Request"), (401, "Unauthorized"), (402, "Payment Required"), (403, "Forbidden"),
   (404, "Not Found"), (405, "Method Not Allowed"), (406, "Not Acceptable"),
   (407, "Proxy Authentication Required"), (408, "Request Timeout"), (409, "Conflict"),
   (410, "Gone"), (411, "Length Required"), (412, "Precondition Failed"),
   (413, "Payload Too Large"), (414, "URI Too Long"), (415, "Unsupported Media Type"),
   (416, "Range Not Satisfiable"), (417, "Expectation Failed"), (418, "I'm a teapot"),
   (421, "Misdirected Request"), (422, "Unprocessable Entity"), (423, "Locked"),
   (424, "Failed Dependency"), (425, "Too Early"), (426, "Upgrade Required"),
   (428, "Precondition Required"), (429, "Too Many Requests"),
   (431, "Request Header Fields Too Large"), (451, "Unavailable For Legal Reasons"),
   (500, "Internal Server Error"), (501, "Not Implemented"), (502, "Bad Gateway"),
   (503, "Service Unavailable"), (504, "Gateway Timeout"), (505, "HTTP Version Not Supported"),
   (506, "Variant Also Negotiates"), (507, "Insufficient Storage"), (508, "Loop Detected"),
   (510, "Not Extended"), (511, "Network Authentication Required")]

def Status.reason? (s : Status) : Option String := reasons.lookup s.code

def Status.text (s : Status) : String :=
  String.ofList (Nat.toDigits 10 s.code) ++ " " ++ s.reason?.getD "<unknown status code>"

/-- The request was answered as asked. -/
def Status.isSuccess (s : Status) : Bool := 200 ≤ s.code && s.code < 300

/-- Replies of this status have no body, whatever is sent. -/
def Status.isBodiless (s : Status) : Bool := s.code = 204 || s.code = 304 || s.code < 200

/-! ## Requests and replies

`target` decides whether a text can be fetched, without sending anything. It is separate from what
asks, so that a poll can be refused before its first request, and so that proofs know the URL of a
request from the text that is fetched. -/

/-- A request for a resource. Field names are in lower case. -/
structure Request where
  url : Url
  fields : List (String × String)
  deriving DecidableEq, Repr

def Request.field? (r : Request) (name : String) : Option String := r.fields.lookup name

/-- The fields with one of them set; a field of the name that is already there is replaced. -/
def setField (name value : String) : List (String × String) → List (String × String)
  | [] => [(name, value)]
  | (n, v) :: rest => if n = name then (n, value) :: rest else (n, v) :: setField name value rest

/-- A reply; the body is `none` when it breaks off. -/
structure Reply where
  status : Status
  contentType : Option String
  body : Option (List UInt8)
  deriving DecidableEq, Repr

/-- What becomes of a request that is sent: a reply, or a connection that fails before one. -/
inductive Outcome where
  | reply (reply : Reply)
  | failed
  deriving DecidableEq, Repr

/-- Why a request brought nothing usable. -/
inductive TransportFault where
  /-- The text is not an absolute URL. -/
  | unreadableUrl
  /-- The URL is of a scheme that cannot be fetched, or has a host that cannot be addressed. -/
  | unfetchable (url : Url)
  | failed (url : Url)
  | brokenBody
  | status (status : Status)
  deriving DecidableEq, Repr

def TransportFault.message : TransportFault → String
  | .unreadableUrl => "builder error"
  | .unfetchable url => "builder error for url (" ++ String.ofList url.text ++ ")"
  | .failed url => "error sending request for url (" ++ String.ofList url.text ++ ")"
  | .brokenBody => "error decoding response body"
  | .status s => "HTTP " ++ s.text ++ ": " ++ s.reason?.getD "Unknown"

/-- A host that can be addressed. -/
def isAddressable (h : Url.Host) : Bool :=
  match h with
  | .name t => !t.isEmpty && t.all fun c ↦ !(['\x22', '\x60', '\x7b', '\x7d'].contains c)
  | _ => true

/-- The most characters that the URL of a request may have. -/
def maxUrlLength : Nat := 65534

/-- An encoded text whose bytes are UTF-8. -/
def isReadable (encoded : List Char) : Bool :=
  (Text.Utf8.decode? (Url.percentDecode encoded)).isSome

/-- Credentials in a URL are no part of what is asked for. They are recognised by a user name that
can be read, unless it is empty and there is no readable password either; others stay. -/
def withoutCredentials (u : Url) : Url :=
  let named := !u.username.isEmpty
  let secret := !u.password.isEmpty && isReadable u.password
  if isReadable u.username && (named || secret) then u.withoutUserinfo else u

/-- The URL to ask for when a text is fetched. -/
def target (url : String) : Except TransportFault Url :=
  match Url.ofString url with
  | .error _ => .error .unreadableUrl
  | .ok u =>
    let u := withoutCredentials u
    if u.isWeb && u.host.any isAddressable && u.text.length ≤ maxUrlLength then .ok u
    else .error (.unfetchable u)

/-! ## Scripted replies

A script says how each URL is answered: the first request for it gets the first reply, the next one
the next, and the last reply is repeated. A URL that the script does not mention is not found.

Only the connection of an unencrypted request can be scripted. Replies of a status that has no body
have none, whatever the script says. -/

/-- How a scripted connection breaks off. -/
inductive Break where
  /-- Before a reply. -/
  | beforeReply
  /-- Inside the body of the reply. -/
  | insideBody
  deriving DecidableEq, Repr

/-- One scripted reply. -/
structure ScriptedReply where
  status : Status
  contentType : Option String
  body : List UInt8
  breaks : Option Break
  deriving DecidableEq, Repr

/-- The replies of each URL, which is given without fragment. -/
abbrev Script := List (String × List ScriptedReply)

/-- What becomes of a request that gets a scripted reply. -/
def ScriptedReply.outcome (r : ScriptedReply) : Outcome :=
  match r.breaks with
  | some .beforeReply => .failed
  | some .insideBody =>
    .reply ⟨r.status, r.contentType, if r.status.isBodiless then some [] else none⟩
  | none => .reply ⟨r.status, r.contentType, some (if r.status.isBodiless then [] else r.body)⟩

/-- The reply of a URL that is not mentioned. -/
def notFound : Outcome := .reply ⟨⟨404⟩, none, some []⟩

/-- The URL under which a request is scripted. -/
def Request.scriptKey (r : Request) : String := String.ofList r.url.textWithoutFragment

/-- What becomes of a request, given the requests that have been seen before. -/
def Script.answer (s : Script) (seen : List Request) (r : Request) : Outcome :=
  match s.lookup r.scriptKey with
  | none => notFound
  | some replies =>
    let earlier := (seen.filter fun q ↦ q.scriptKey == r.scriptKey).length
    match replies[min earlier (replies.length - 1)]? with
    | some reply => reply.outcome
    | none => notFound

end NewsWire.Http

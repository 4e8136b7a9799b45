import NewsWire.Http.Exchange
import NewsWire.Http.Header
import NewsWire.Text.Numeral
import NewsWire.Text.Utf8

/-!
# Messages

Requests and replies as the bytes that are sent for them. Every connection carries one request and
is closed after its reply, so a reply is all that arrives. Its head is lines of text up to an empty
one; heads that announce another one are passed over.

How long the body is depends on the head: it comes in chunks, or has a length, or goes on to the
end. A body that stops short of what its head announces is broken off, and a reply whose head stops
short is none.

Everything is a function of the bytes that have arrived when the connection is closed. Nothing here
waits or fails, so the layer that talks to the network has nothing to decide.
-/

namespace NewsWire.Http

open NewsWire.Text

/-! ## Requests -/

/-- What a request asks its host for: the path and the query. -/
def Request.resource (r : Request) : List Char :=
  let path := match r.url.path.text with
    | [] => ['/']
    | path => path
  path ++ match r.url.query with
    | some q => '?' :: q
    | none => []

def hostText (u : Url) : List Char :=
  (u.host.elim [] Url.Host.text) ++ match u.port with
    | some n => ':' :: Nat.toDigits 10 n
    | none => []

def headLine (cs : List Char) : List Char := cs ++ ['\r', '\n']

def Request.bytes (r : Request) : List UInt8 :=
  let fields := ("host", String.ofList (hostText r.url)) :: r.fields ++ [("connection", "close")]
  Utf8.encode <|
    headLine ("GET ".toList ++ r.resource ++ " HTTP/1.1".toList) ++
      fields.flatMap (fun (name, value) ↦ headLine (name.toList ++ ": ".toList ++ value.toList)) ++
      headLine []

/-! ## The head of a reply -/

/-- The first line of some bytes, without its end, and the bytes after it. -/
def splitLine (bs : List UInt8) : Option (List UInt8 × List UInt8) :=
  match bs.dropWhile (· != 10) with
  | [] => none
  | _ :: rest =>
    let line := bs.takeWhile (· != 10)
    some (if line.getLast? == some 13 then line.dropLast else line, rest)

theorem length_of_splitLine {bs line rest : List UInt8} (h : splitLine bs = some (line, rest)) :
    rest.length < bs.length := by
  simp only [splitLine] at h
  split at h
  · simp at h
  · next b rest' hd =>
    simp only [Option.some.injEq, Prod.mk.injEq] at h
    have := (List.dropWhile_suffix (l := bs) (· != 10)).length_le
    rw [hd, h.2, List.length_cons] at this
    omega

/-- The characters of a line, one for each byte. -/
def lineText (bs : List UInt8) : List Char := bs.map fun b ↦ Char.ofNat b.toNat

/-- The status that a line announces. -/
def statusOf? (line : List Char) : Option Status :=
  if line.take 7 = "HTTP/1.".toList then
    match digits? ((line.drop 9).take 3) with
    | some code => if 100 ≤ code then some ⟨code⟩ else none
    | none => none
  else none

/-- The field that a line holds: its name in lower case, and its value without the blanks around
it. -/
def fieldOf? (line : List Char) : Option (String × String) :=
  match line.dropWhile (· != ':') with
  | ':' :: value =>
    (fieldName? (String.ofList (line.takeWhile (· != ':')))).map
      (·, String.ofList ((skipBlanks (skipBlanks value).reverse).reverse))
  | _ => none
where
  skipBlanks (cs : List Char) : List Char := cs.dropWhile fun c ↦ c == ' ' || c == '\t'

/-- The fields up to an empty line, and the bytes after it. -/
def splitFields (bs : List UInt8) : Option (List (String × String) × List UInt8) :=
  match h : splitLine bs with
  | none => none
  | some ([], rest) => some ([], rest)
  | some (line, rest) =>
    have := length_of_splitLine h
    match fieldOf? (lineText line), splitFields rest with
    | some field, some (fields, rest) => some (field :: fields, rest)
    | _, _ => none
  termination_by bs.length

theorem length_of_splitFields {bs rest : List UInt8} {fields : List (String × String)}
    (h : splitFields bs = some (fields, rest)) : rest.length < bs.length := by
  fun_induction splitFields bs generalizing fields rest with
  | case1 => simp at h
  | case2 bs rest' hs =>
    simp only [Option.some.injEq, Prod.mk.injEq] at h
    exact h.2 ▸ length_of_splitLine hs
  | case3 bs line rest' hs _ hlt field fields' rest'' hfields hf ih =>
    simp only [Option.some.injEq, Prod.mk.injEq] at h
    have := ih hfields
    rw [← h.2]
    omega
  | case4 => simp at h

/-! ## The body of a reply -/

/-- A body in chunks: each is its length in hexadecimal on a line, so many bytes, and the end of a
line; the last one is empty. -/
def joinChunks (bs : List UInt8) : Option (List UInt8) :=
  match h : splitLine bs with
  | none => none
  | some (line, rest) =>
    have := length_of_splitLine h
    match hexDigits? ((lineText line).takeWhile fun c ↦ (hexDigit? c).isSome) with
    | none => none
    | some 0 => some []
    | some n =>
      if rest.length < n + 2 then none
      else (joinChunks (rest.drop (n + 2))).map (rest.take n ++ ·)
  termination_by bs.length
  decreasing_by
    simp only [List.length_drop]
    omega

/-- The body that a head announces; `none` when the bytes stop short of it. -/
def bodyOf (status : Status) (fields : List (String × String)) (bs : List UInt8) :
    Option (List UInt8) :=
  if status.isBodiless then some []
  else
    match fields.lookup "transfer-encoding", fields.lookup "content-length" with
    | some _, _ => joinChunks bs
    | none, some length =>
      match digits? length.toList with
      | some n => if bs.length < n then none else some (bs.take n)
      | none => none
    | none, none => some bs

/-- A field value of visible characters and blanks. -/
def isVisibleText (s : String) : Bool :=
  s.toList.all fun c ↦ c == '\t' || (0x20 ≤ c.toNat && c.toNat < 0x7F)

/-! ## Replies -/

/-- What the bytes that arrive for a request amount to. -/
def Outcome.ofBytes (bs : List UInt8) : Outcome :=
  match h : splitLine bs with
  | none => .failed
  | some (line, rest) =>
    match statusOf? (lineText line), hf : splitFields rest with
    | some status, some (fields, body) =>
      have := length_of_splitLine h
      have := length_of_splitFields hf
      if status.code < 200 then Outcome.ofBytes body
      else
        .reply {
          status
          contentType := (fields.lookup "content-type").filter isVisibleText
          body := bodyOf status fields body }
    | _, _ => .failed
  termination_by bs.length

end NewsWire.Http

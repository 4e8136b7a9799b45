import NewsWire.Url.Basic
import NewsWire.Url.Domain

/-!
# Reading absolute URLs

A text is read as an absolute URL in the manner of browsers: blanks and control characters around it
and line breaks and tabs inside it do not count; letters of the scheme and of a domain name are
brought to lower case; dot segments of the path are resolved; what may not stand in a part is
percent-encoded. There is no base, so a text without a scheme is an error.

A URL of a special scheme needs a host, found after any number of slashes. Other URLs have a host
only after two slashes, and one that begins with neither slash nor host has a path without segments.

The standard for browsers gives a machine that goes through the text by characters, with a state for
each part. Here the text is cut into its parts first, from the outside: fragment and query off the
end, scheme and host off the front. Each part is then read by itself, so what becomes of a longer
text is asked part by part. Only files keep to the order of the characters, since line breaks and
tabs that stand between their slashes do matter.
-/

namespace NewsWire.Url

open NewsWire.Text

/-! ## The parts of a text -/

/-- A line break or a tab. It does not count, wherever it stands. -/
def isBreak (c : Char) : Bool := c == '\t' || c == '\n' || c == '\r'

def withoutBreaks (cs : List Char) : List Char := cs.filter fun c ↦ !isBreak c

/-- What a URL is read from: no blanks or control characters at the ends. -/
def trimEnds (cs : List Char) : List Char :=
  let outer (c : Char) : Bool := c.toNat ≤ 0x20
  ((cs.dropWhile outer).reverse.dropWhile outer).reverse

/-- A character of a scheme after its first letter. -/
def isSchemeChar (c : Char) : Bool :=
  c.isAlphanum || c == '+' || c == '-' || c == '.'

/-- The scheme in lower case, and the text after its colon. -/
def splitScheme (cs : List Char) : Option (List Char × List Char) :=
  match cs with
  | [] => none
  | c :: _ =>
    if !c.isAlpha then none
    else
      match cs.dropWhile isSchemeChar with
      | ':' :: rest => some ((cs.takeWhile isSchemeChar).map Char.toLower, rest)
      | _ => none

/-- A character that separates segments of a path. -/
def isSlash (special : Bool) (c : Char) : Bool :=
  c == '/' || (special && c == '\\')

/-- A character that ends the part of a URL with user, host and port. -/
def endsAuthority (special : Bool) (c : Char) : Bool :=
  isSlash special c || c == '?' || c == '#'

/-! ## User, host and port -/

/-- The user name and the password of the text before the last at sign. -/
def parseUserinfo (cs : List Char) : List Char × List Char :=
  let (username, rest) := splitBefore (· == ':') cs
  (percentEncode inUserinfoSet username, percentEncode inUserinfoSet (rest.drop 1))

/-- The text after the last at sign, and the text before it if there is one. -/
def splitUserinfo (cs : List Char) : Option (List Char) × List Char :=
  if cs.contains '@' then
    let host := (cs.reverse.takeWhile (· != '@')).reverse
    (some (cs.take (cs.length - host.length - 1)), host)
  else (none, cs)

/-- The host and what follows it: a colon inside brackets belongs to the host. -/
def splitHost (bracket : Bool) : List Char → List Char × List Char
  | [] => ([], [])
  | c :: cs =>
    if c = ':' && !bracket then ([], c :: cs)
    else
      let (h, rest) := splitHost (if c = '[' then true else if c = ']' then false else bracket) cs
      (c :: h, rest)

/-- The text up to a backslash after the colon of a port, and from there on. -/
def splitAtPort (cs : List Char) : List Char × List Char :=
  let port := (splitHost false (splitUserinfo cs).2).2
  let path := port.dropWhile (· != '\\')
  (cs.take (cs.length - path.length), path)

/-- A host between brackets. -/
def parseBracketed (cs : List Char) : Except Error Host :=
  if cs.getLast? = some ']' && cs.length ≥ 2 then (parseIpv6 (cs.drop 1).dropLast).map .ipv6
  else .error .badIpv6

/-- A domain name or a numeric address. -/
def parseDomain (cs : List Char) : Except Error Host :=
  match (Utf8.decode? (percentDecode cs)).bind Domain.toAscii? with
  | none => .error .badDomain
  | some [] => .error .emptyHost
  | some name => if endsInNumber name then (parseIpv4 name).map .ipv4 else .ok (.name name)

/-- A character that may not stand in a host of any kind. -/
def isForbiddenInHost (c : Char) : Bool :=
  ['\x00', '\t', '\n', '\r', ' ', '#', '/', ':', '<', '>', '?', '@', '[', '\\', ']', '^',
    '|'].contains c

/-- A host of a kind of scheme. -/
def parseHost (special : Bool) (cs : List Char) : Except Error Host :=
  if cs.head? = some '[' then parseBracketed cs
  else if special then parseDomain cs
  else if cs.any isForbiddenInHost then .error .badHostCharacter
  else .ok (.name (percentEncode isControl cs))

/-- The digits of a port: none and the scheme's own port count as no port. -/
def parsePort (own : Option Nat) (cs : List Char) : Except Error (Option Nat) :=
  if cs.isEmpty then .ok none
  else
    match (digits? cs).filter (· ≤ 65535) with
    | none => .error .badPort
    | some n => .ok (if some n = own then none else some n)

/-- Everything between the slashes and the path. -/
structure Authority where
  username : List Char
  password : List Char
  host : Host
  port : Option Nat

/-- Read user, host and port. An at sign that stands alone is no host, but is passed over where the
text ends after it. -/
def parseAuthority (kind : Kind) (atEnd : Bool) (cs : List Char) : Except Error Authority := do
  let (userinfo, rest) := splitUserinfo cs
  if userinfo = some [] && rest.isEmpty && !atEnd then throw .emptyHost
  let (username, password) := parseUserinfo (userinfo.getD [])
  let (hostText, portText) := splitHost false rest
  if kind.isSpecial && hostText.isEmpty then throw .emptyHost
  let host ← parseHost kind.isSpecial hostText
  if host = .name [] && !portText.isEmpty then throw .emptyHost
  let own := match kind with
    | .special port => some port
    | _ => none
  let port ← parsePort own (portText.drop 1)
  if host = .name [] && !(username.isEmpty && password.isEmpty) then throw .emptyHost
  return ⟨username, password, host, port⟩

/-! ## The path

Segments are resolved from left to right on a path that is held with its last segment first, where
dot segments remove or add nothing. The path of a file may begin with a drive letter, which no dot
segment removes. -/

def isDoubleDot (cs : List Char) : Bool :=
  let t := String.ofList (cs.map Char.toLower)
  t == ".." || t == ".%2e" || t == "%2e." || t == "%2e%2e"

def isSingleDot (cs : List Char) : Bool :=
  let t := String.ofList (cs.map Char.toLower)
  t == "." || t == "%2e"

/-- A drive letter with a colon, or with a bar in its place. -/
def isDriveLetter (cs : List Char) : Bool :=
  match cs with
  | [a, b] => a.isAlpha && (b == ':' || b == '|')
  | _ => false

/-- A drive letter, alone or before a slash of either kind. -/
def beginsWithDrive (cs : List Char) : Bool :=
  isDriveLetter (cs.take 2) && (cs.drop 2).head?.all fun c ↦ c == '/' || c == '\\'

/-- A path while it is read: its segments, the last one first, and whether it began with a drive
letter, so that it belongs to no host. -/
structure PathSoFar where
  reversed : List (List Char)
  onDrive : Bool
  deriving DecidableEq, Repr

def PathSoFar.segments (p : PathSoFar) : List (List Char) := p.reversed.reverse

/-- A path, the last segment first, without its last segment; a drive letter stays. -/
def shorten (reversed : List (List Char)) : List (List Char) :=
  if reversed.head?.any beginsWithDrive then reversed else reversed.drop 1

/-- A drive letter and its colon with a break after them, and the rest of the segment. -/
def splitBrokenDrive (raw : List Char) : Option (List Char × List Char) :=
  let skip := List.dropWhile isBreak
  match skip raw with
  | [] => none
  | a :: cs =>
    match skip cs with
    | ':' :: b :: rest =>
      let rest := skip rest
      if a.isAlpha && isBreak b && !rest.isEmpty then some ([a, ':'], withoutBreaks rest) else none
    | _ => none

/-- The path with one more segment, which may be the last one. In the path of a file a drive letter
that comes first takes a colon, and is kept apart from what a break separates it from. -/
def addSegment (file : Bool) (p : PathSoFar) (raw : List Char) (last : Bool) : PathSoFar :=
  let segment := percentEncode inPathSet (withoutBreaks raw)
  let first := file && p.reversed.isEmpty
  let closed (reversed : List (List Char)) := if last then [] :: reversed else reversed
  match if first then splitBrokenDrive raw else none with
  | some (drive, rest) => { p with reversed := [percentEncode inPathSet rest, drive] }
  | none =>
    if isDoubleDot segment then { p with reversed := closed (shorten p.reversed) }
    else if isSingleDot segment then { p with reversed := closed p.reversed }
    else if first && isDriveLetter segment then ⟨[segment.take 1 ++ [':']], true⟩
    else { p with reversed := segment :: p.reversed }

/-- The path of segments, resolved from left to right. -/
def resolveSegments (file : Bool) (p : PathSoFar) : List (List Char) → PathSoFar
  | [] => p
  | [s] => addSegment file p s true
  | s :: rest => resolveSegments file (addSegment file p s false) rest

/-- The segments of a text after its first slash, with slashes before them. -/
def parseSegments (kind : Kind) (body : List Char) : PathSoFar :=
  resolveSegments (kind = .file) ⟨[], false⟩ (pieces (isSlash kind.isSpecial) body)

/-- The path of a text that begins with a slash, or is empty. -/
def parsePath (kind : Kind) (cs : List Char) : List (List Char) :=
  match cs with
  | [] => if kind.isSpecial then [[]] else []
  | c :: rest => (parseSegments kind (if isSlash kind.isSpecial c then rest else cs)).segments

/-! ## Whole URLs

Once user, host and port are cut off, nothing can go wrong any more: whatever is left is a path, a
query and a fragment, since characters that may not stand there are encoded. So the only errors of
`parse` are a missing scheme and those of the host and the port. -/

/-- The text up to the query, the query and the fragment, each without its mark. -/
def splitTail (cs : List Char) : List Char × Option (List Char) × Option (List Char) :=
  let (front, fragment) := splitBefore (· == '#') cs
  let (path, query) := splitBefore (· == '?') front
  let after (mark : List Char) : Option (List Char) := match mark with
    | [] => none
    | _ :: rest => some (withoutBreaks rest)
  (path, after query, after fragment)

/-- A URL from its first parts and its path, query and fragment. -/
def assemble (kind : Kind) (scheme : List Char) (authority : Option Authority) (path : Path)
    (query fragment : Option (List Char)) : Url :=
  let querySet := if kind.isSpecial then inSpecialQuerySet else inQuerySet
  { scheme
    username := authority.elim [] (·.username)
    password := authority.elim [] (·.password)
    host := authority.map (·.host)
    port := authority.bind (·.port)
    path
    query := query.map (percentEncode querySet)
    fragment := fragment.map (percentEncode inFragmentSet) }

/-- A URL whose path begins with a slash or is empty. -/
def finish (kind : Kind) (scheme : List Char) (authority : Option Authority) (cs : List Char) :
    Url :=
  let (front, query, fragment) := splitTail cs
  assemble kind scheme authority (.segments (parsePath kind front)) query fragment

/-- A URL whose authority stands next. A port ends at a backslash too, even where that is no slash
and begins the path. -/
def parseAfterSlashes (kind : Kind) (scheme cs : List Char) : Except Error Url := do
  let (text, rest) := splitBefore (endsAuthority kind.isSpecial) cs
  let (text, path) := splitAtPort text
  let authority ← parseAuthority kind (path.isEmpty && rest.isEmpty) text
  return finish kind scheme (some authority) (path ++ rest)

/-! ## Files -/

/-- The segments of a file path without empty ones at its beginning. -/
def withoutEmptyFront (segments : List (List Char)) : List (List Char) :=
  match segments.dropWhile List.isEmpty with
  | [] => [[]]
  | segments => segments

/-- The URL of a file. A path that begins with a drive letter is on no host. -/
def finishFile (scheme : List Char) (host : Host) (body : List Char) : Url :=
  let (front, query, fragment) := splitTail body
  let p := parseSegments .file front
  let authority : Authority := ⟨[], [], if p.onDrive then .name [] else host, none⟩
  assemble .file scheme (some authority) (.segments (withoutEmptyFront p.segments)) query fragment

/-- The text after the slash that it begins with. -/
def afterSlash? (cs : List Char) : Option (List Char) :=
  match cs.dropWhile isBreak with
  | c :: rest => if isSlash true c then some rest else none
  | [] => none

/-- The URL of a file: it may name a host after two slashes, and a path otherwise. Without a host
the slash before the path begins an empty segment, so that no drive letter comes first. -/
def parseFile (scheme cs : List Char) : Except Error Url := do
  let noHost : Host := .name []
  match afterSlash? cs with
  | none => return finishFile scheme noHost cs
  | some rest =>
    match afterSlash? rest with
    | none => return finishFile scheme noHost rest
    | some rest =>
      let (text, path) := splitBefore (endsAuthority true) rest
      let text := withoutBreaks text
      if isDriveLetter text then return finishFile scheme noHost rest
      let host ← if text.isEmpty then .ok noHost else parseHost true text
      if host = noHost || host = .name "localhost".toList then
        return finishFile scheme noHost path
      return finishFile scheme host ((afterSlash? path).getD path)

/-! ## Reading -/

def parse (text : List Char) : Except Error Url :=
  let text := trimEnds text
  match splitScheme (withoutBreaks text) with
  | none => .error .relative
  | some (scheme, rest) =>
    match kindOf scheme with
    | .special port => parseAfterSlashes (.special port) scheme (rest.dropWhile (isSlash true))
    | .file => parseFile scheme ((text.dropWhile (· != ':')).drop 1)
    | .other =>
      match rest with
      | '/' :: '/' :: rest => parseAfterSlashes .other scheme rest
      | '/' :: _ => .ok (finish .other scheme none rest)
      | _ =>
        let (front, query, fragment) := splitTail rest
        .ok (assemble .other scheme none (.rootless (percentEncode isControl front)) query fragment)

def ofString (s : String) : Except Error Url := parse s.toList

end NewsWire.Url

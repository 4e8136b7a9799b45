import NewsWire.Text.Utf8
import NewsWire.Url.Address

/-!
# URLs

An absolute URL by its parts. All parts hold the text as it is written out: encoded, the scheme and
the host in lower case, the port only when it is not the scheme's own. So writing a URL is putting
its parts together, and two URLs with equal parts are written alike.

The feed names its next page by the text of a URL, and the cursor of a caller is such a text. It is
the text that is kept and compared; a URL is read from it to find out whether it can be fetched and
where the request goes. So reading is all that is needed of URLs, and there are no relative ones.
-/

namespace NewsWire

namespace Url

open NewsWire.Text

/-! ## Percent-encoding

A byte is written as a percent sign and two hexadecimal digits. Each part of a URL has its own set
of characters that are encoded; characters outside ASCII always are, as their UTF-8 bytes. A percent
sign itself is never encoded, so a text that is encoded already is left as it is, and encoding a
part again is safe. -/

def upperHexDigit (n : Nat) : Char := (hexDigit n).toUpper

/-- A byte in encoded form. -/
def percentByte (b : UInt8) : List Char :=
  ['%', upperHexDigit (b.toNat / 16), upperHexDigit (b.toNat % 16)]

/-- Control characters and everything outside ASCII. -/
def isControl (c : Char) : Bool := c.toNat < 0x20 || c.toNat > 0x7E

/-- Encoded in a fragment. -/
def inFragmentSet (c : Char) : Bool :=
  isControl c || [' ', '\x22', '<', '>', '\x60'].contains c

/-- Encoded in a query. -/
def inQuerySet (c : Char) : Bool :=
  isControl c || [' ', '\x22', '#', '<', '>'].contains c

/-- Encoded in the query of a URL of a special scheme. -/
def inSpecialQuerySet (c : Char) : Bool := inQuerySet c || c == '\x27'

/-- Encoded in a path. -/
def inPathSet (c : Char) : Bool :=
  inFragmentSet c || ['#', '?', '\x7b', '\x7d'].contains c

/-- Encoded in a user name or password. -/
def inUserinfoSet (c : Char) : Bool :=
  inPathSet c || ['/', ':', ';', '=', '@', '[', '\\', ']', '^', '|'].contains c

def percentEncode (set : Char → Bool) (cs : List Char) : List Char :=
  cs.flatMap fun c ↦ if set c then (String.utf8EncodeChar c).flatMap percentByte else [c]

/-- The bytes of a text with encoded bytes decoded. -/
def percentDecode : List Char → List UInt8
  | [] => []
  | '%' :: a :: b :: rest =>
    match hexDigit? a, hexDigit? b with
    | some x, some y => UInt8.ofNat (x * 16 + y) :: percentDecode rest
    | _, _ => 0x25 :: percentDecode (a :: b :: rest)
  | c :: cs => String.utf8EncodeChar c ++ percentDecode cs

/-! ## The parts of a URL -/

/-- A host. Names of special schemes are domains in ASCII, other names are kept encoded; the empty
name is the host of a local file. -/
inductive Host where
  | name (text : List Char)
  | ipv4 (address : Nat)
  | ipv6 (pieces : List Nat)
  deriving DecidableEq, Repr

def Host.text : Host → List Char
  | .name t => t
  | .ipv4 n => ipv4Text n
  | .ipv6 ps => '[' :: (ipv6Text ps ++ [']'])

/-- A path: segments with a slash before each, or a text of its own for a URL such as a mail
address. -/
inductive Path where
  | segments (segments : List (List Char))
  | rootless (text : List Char)
  deriving DecidableEq, Repr

def Path.text : Path → List Char
  | .segments ss => ss.flatMap ('/' :: ·)
  | .rootless t => t

end Url

structure Url where
  scheme : List Char
  username : List Char
  password : List Char
  host : Option Url.Host
  port : Option Nat
  path : Url.Path
  query : Option (List Char)
  fragment : Option (List Char)
  deriving DecidableEq, Repr

namespace Url

/-- How a scheme is read: special schemes have a host, and a port of their own. -/
inductive Kind where
  | special (port : Nat)
  | file
  | other
  deriving DecidableEq, Repr

/-- The kind of a scheme in lower case. -/
def kindOf (scheme : List Char) : Kind :=
  if scheme = "http".toList || scheme = "ws".toList then .special 80
  else if scheme = "https".toList || scheme = "wss".toList then .special 443
  else if scheme = "ftp".toList then .special 21
  else if scheme = "file".toList then .file
  else .other

/-- Special schemes and files: a backslash is as good as a slash, and the path is never empty. -/
def Kind.isSpecial : Kind → Bool
  | .other => false
  | _ => true

/-- The user name and password before a host. -/
def userinfoText (u : Url) : List Char :=
  let password := if u.password.isEmpty then [] else ':' :: u.password
  let both := u.username ++ password
  if both.isEmpty then [] else both ++ ['@']

/-- Everything between the scheme and the path. A path that looks like a host is kept apart from the
scheme by a dot segment. -/
def authorityText (u : Url) : List Char :=
  match u.host with
  | some h =>
    let port := match u.port with
      | some n => ':' :: Nat.toDigits 10 n
      | none => []
    '/' :: '/' :: (u.userinfoText ++ h.text ++ port)
  | none =>
    match u.path with
    | .segments ([] :: _ :: _) => ['/', '.']
    | _ => []

/-- A URL as it is written, without its fragment. -/
def textWithoutFragment (u : Url) : List Char :=
  u.scheme ++ ':' :: (u.authorityText ++ u.path.text ++
    match u.query with
    | some q => '?' :: q
    | none => [])

def text (u : Url) : List Char :=
  u.textWithoutFragment ++
    match u.fragment with
    | some f => '#' :: f
    | none => []

def withoutUserinfo (u : Url) : Url := { u with username := [], password := [] }

/-- The scheme is that of web pages, open or encrypted. -/
def isWeb (u : Url) : Bool := u.scheme = "http".toList || u.scheme = "https".toList

def isEncrypted (u : Url) : Bool := u.scheme = "https".toList

end Url

end NewsWire

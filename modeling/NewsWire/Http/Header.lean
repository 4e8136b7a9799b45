/-!
# Header fields

A field name is a non-empty token of bounded length, compared without regard to case. A field value
may hold any character but control characters; the tab is allowed. Values are sent as UTF-8.

The only field of a reply that is looked into is its content type, and of that only the character
set: it says how the bytes of a document become text.
-/

namespace NewsWire.Http

def isTokenChar (c : Char) : Bool :=
  c.isAlphanum ||
    ['!', '#', '$', '%', '&', '\x27', '*', '+', '-', '.', '^', '_', '\x60', '|', '~'].contains c

/-- The greatest length of a field name. -/
def maxNameLength : Nat := 0xffff

/-- A field name in lower case, if the text is one. -/
def fieldName? (s : String) : Option String :=
  let cs := s.toList
  if !cs.isEmpty && cs.length ≤ maxNameLength && cs.all isTokenChar then
    some (String.ofList (cs.map Char.toLower))
  else none

def isValueChar (c : Char) : Bool :=
  c == '\t' || (c.toNat ≥ 0x20 && c.toNat ≠ 0x7F)

/-- The text can be sent as a field value. -/
def isFieldValue (s : String) : Bool := s.toList.all isValueChar

/-! ## Content types

A content type is `type/subtype` followed by parameters, each after a semicolon: a name, an equals
sign and a token or a quoted text. A text of another form is no content type, and then it has no
parameters either, so a document that comes with it is read as if no character set were named. -/

/-- Past the blanks that stand next. -/
def skipBlanks (cs : List Char) : List Char :=
  cs.dropWhile fun c ↦ c == ' ' || c == '\t'

/-- A token that stands next, and the text after it. -/
def splitToken (cs : List Char) : Option (List Char × List Char) :=
  match cs.takeWhile isTokenChar with
  | [] => none
  | t => some (t, cs.dropWhile isTokenChar)

/-- A quoted text after its opening quotation mark: a backslash quotes any character. -/
def splitQuoted : List Char → Option (List Char × List Char)
  | [] => none
  | '\\' :: c :: cs => (splitQuoted cs).map fun (t, rest) ↦ (c :: t, rest)
  | c :: cs =>
    if c = '\x22' then some ([], cs) else (splitQuoted cs).map fun (t, rest) ↦ (c :: t, rest)

/-- The value of a parameter, and the text after it. -/
def splitParameterValue (cs : List Char) : Option (List Char × List Char) :=
  match cs with
  | '\x22' :: rest => splitQuoted rest
  | _ => splitToken cs

/-- Parameters, at most `n` of them. -/
def parseParameters : Nat → List Char → Option (List (String × String))
  | n, cs =>
    match skipBlanks cs, n with
    | [], _ => some []
    | ';' :: rest, n + 1 =>
      match skipBlanks rest with
      | [] => some []
      | rest =>
        match splitToken rest with
        | some (name, '=' :: rest) =>
          match splitParameterValue rest with
          | some (value, rest) =>
            (parseParameters n rest).map
              ((String.ofList (name.map Char.toLower), String.ofList value) :: ·)
          | none => none
        | _ => none
    | _, _ => none

def contentParameters (s : String) : Option (List (String × String)) :=
  match splitToken s.toList with
  | some (_, '/' :: rest) =>
    match splitToken rest with
    | some (_, rest) => parseParameters rest.length rest
    | none => none
  | _ => none

/-- The label of the character set that a content type names. -/
def charsetLabel (s : String) : Option String :=
  (contentParameters s).bind fun ps ↦ ps.lookup "charset"

end NewsWire.Http

import NewsWire.Markup.Token

/-!
# Events of a document

A document is read as a list of events, its tokens in order, up to its end or its first fault. Here
the nesting is checked: a closing tag must name the innermost open element, so the events before a
fault always open and close elements in order. Elements still open at the end of the text are no
fault.

A byte-order mark at the very beginning of a document is not part of it.

The list ends where reading ended, and how it ended stands beside it. So whoever goes through the
events has all that came before a fault, and decides at the end what the fault means: the extraction
of an article keeps what it has found.
-/

namespace NewsWire.Markup

inductive Ending where
  | complete
  | broken (fault : Fault)
  deriving DecidableEq, Repr

/-- The names of the open elements, innermost first. -/
abbrev OpenNames := List (List Char)

/-- The open elements after a token, or the fault that it is. -/
def OpenNames.after (names : OpenNames) : Token → Except Fault OpenNames
  | .start tag => .ok (tag.name :: names)
  | .close name =>
    match names with
    | [] => .error (.unmatchedClose name)
    | n :: rest => if n = name then .ok rest else .error (.mismatchedClose name)
  | _ => .ok names

/-- The events of a text inside the open elements, and how it ends. -/
def eventsWithin (names : OpenNames) (cs : List Char) : List Token × Ending :=
  match h : nextToken cs with
  | .finished => ([], .complete)
  | .stuck fault => ([], .broken fault)
  | .next token rest =>
    have : rest.length < cs.length := length_of_nextToken h
    match names.after token with
    | .error fault => ([], .broken fault)
    | .ok names =>
      let (tokens, ending) := eventsWithin names rest
      (token :: tokens, ending)
  termination_by cs.length

/-- A document without its byte-order mark. -/
def withoutMark : List Char → List Char
  | c :: cs => if c = '\ufeff' then cs else c :: cs
  | [] => []

/-- The events of a document, and how it ends. -/
def events (document : List Char) : List Token × Ending :=
  eventsWithin [] (withoutMark document)

end NewsWire.Markup

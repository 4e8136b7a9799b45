import NewsWire.Feed.Item

/-!
# Pages of the feed

The feed answers with an envelope: an object that holds either the data of a page, or an error with
a message. Data has precedence.

The data of a page lists entries, and an entry holds an item. Entries are read one by one, so what
is wrong with one of them does not touch the others.

To this end the data of a page is read in two passes. The first takes the entries as they are, any
value being an entry, and can only fail for the page as a whole. The second reads each entry by
itself, to an item or to a fault.
-/

namespace NewsWire.Feed

open NewsWire.Json

/-! ## Envelopes -/

/-- What the feed answers. -/
inductive Envelope where
  | data (value : Value)
  | error (message : String)
  deriving DecidableEq

/-- The envelope that a value is, if it is one. -/
def Envelope.ofValue? (v : Value) : Option Envelope :=
  match v.member? "data" with
  | some found => some (.data found)
  | none =>
    match ((v.member? "error").bind (Value.member? "message")).bind Value.string? with
    | some message => some (.error message)
    | none => none

/-! ## The data of a page -/

/-- The data of a page: how many items it says it has, its entries, and the URL of the next page. -/
structure PageData where
  itemCount : Option UInt64
  entries : Option (List Value)
  nextPage : Option String
  deriving DecidableEq

def PageData.decoder : Decoder PageData :=
  Fields.record "FeedData"
    (PageData.mk <$> Fields.optional "current_item_count" .word64 <*>
      Fields.optional "items" (.list .any) <*> Fields.optional "next_page" .text)

/-! ## Entries

An entry without an item and an entry with something else in its place are both faults, but they are
reported differently: of the second one, the tag of its revision is looked for in whatever the value
is, so that an observer can tell which revision was lost. -/

/-- The reader of what an entry holds. -/
def entryDecoder : Decoder (Option Value) :=
  Fields.record "FeedEntry" (Fields.optional "item" .any)

/-- What is wrong with an entry: it holds nothing, or something that is no item. -/
inductive EntryFault where
  | missing
  | malformed (revision : Option String) (mismatch : Mismatch)
  deriving DecidableEq, Repr

/-- The tag of the revision in a value that need not be an item. -/
def revisionOf (v : Value) : Option String :=
  ((v.member? "altids").bind (Value.member? "etag")).bind Value.string?

/-- The item of an entry. -/
def readEntry (entry : Value) : Except EntryFault Item :=
  match entryDecoder.ofValue entry with
  | .ok (some v) =>
    match Item.decoder.ofValue v with
    | .ok item => .ok item
    | .error m => .error (.malformed (revisionOf v) m)
  | _ => .error .missing

/-- A page: the items that could be read, the cursor after it, and the number of entries without
one. -/
structure Page where
  items : List Item
  nextCursor : String
  skipped : Nat
  deriving DecidableEq, Repr

/-- The items among what was read from the entries, in order. -/
def readItems (read : List (Except EntryFault Item)) : List Item :=
  read.filterMap Except.toOption

/-- The faults among what was read from the entries, in order. -/
def readFaults (read : List (Except EntryFault Item)) : List EntryFault :=
  read.filterMap fun r ↦ match r with
    | .ok _ => none
    | .error fault => some fault

/-- Every entry is an item or a fault. -/
theorem length_readItems_add_readFaults (read : List (Except EntryFault Item)) :
    (readItems read).length + (readFaults read).length = read.length := by
  induction read with
  | nil => rfl
  | cons r rest ih =>
    cases r with
    | ok item =>
      have h1 : readItems (.ok item :: rest) = item :: readItems rest := rfl
      have h2 : readFaults (.ok item :: rest) = readFaults rest := rfl
      simp only [h1, h2, List.length_cons]
      omega
    | error fault =>
      have h1 : readItems (.error fault :: rest) = readItems rest := rfl
      have h2 : readFaults (.error fault :: rest) = fault :: readFaults rest := rfl
      simp only [h1, h2, List.length_cons]
      omega

end NewsWire.Feed

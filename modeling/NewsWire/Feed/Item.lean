import NewsWire.Json.Decoder

/-!
# Items of the feed

An item is one revision of a story or picture as a page of the feed lists it. Every field may be
left out, and lists and maps are then empty. The order of the associations is the order of the page.

`Item.decoder` reads items, `Item.encode` writes them with all their fields.

A record holds only the fields that are of use here. The feed sends many more, which are passed over
as unknown members, so a feed that changes them changes nothing. The names of the fields are those
of the feed only in the readers and writers; elsewhere they are called by what they mean.
-/

namespace NewsWire.Feed

open NewsWire.Json

/-! ## The parts of an item -/

/-- The other names of an item: the tag of its revision and the name of the item itself. -/
structure AltIds where
  etag : Option String
  itemId : Option String
  deriving DecidableEq, Repr, Inhabited

/-- A credited author. -/
structure Byline where
  author : Option String
  deriving DecidableEq, Repr, Inhabited

/-- What an item is about, and how it relates to that. -/
structure Subject where
  name : Option String
  relations : List String
  deriving DecidableEq, Repr, Inhabited

/-- Another item that goes with this one. -/
structure Association where
  kind : Option String
  itemId : Option String
  altIds : Option AltIds
  deriving DecidableEq, Repr, Inhabited

/-- Where the item can be fetched in one format. -/
structure Rendition where
  href : Option String
  deriving DecidableEq, Repr, Inhabited

/-- One revision as a page of the feed lists it. -/
structure Item where
  altIds : Option AltIds
  version : Option UInt64
  kind : Option String
  status : Option String
  firstCreated : Option String
  versionCreated : Option String
  title : Option String
  headline : Option String
  urgency : Option Int64
  editorNote : Option String
  bylines : List Byline
  subjects : List Subject
  keywords : List String
  associations : List (String × Association)
  renditions : List (String × Rendition)
  deriving DecidableEq, Repr, Inhabited

/-! ## What items say

What an item says about itself is found in several places, and these functions say which one counts.
They are all that the rest of the program asks of an item besides its plain fields. -/

/-- The name of the associated item: the other names come first. -/
def Association.mediaId (a : Association) : Option String :=
  (a.altIds.bind AltIds.itemId).or a.itemId

def Item.revision (item : Item) : Option String :=
  item.altIds.bind AltIds.etag

/-- Where the item can be fetched in a format. An empty address counts as none. -/
def Item.rendition? (item : Item) (format : String) : Option String :=
  ((item.renditions.lookup format).bind Rendition.href).filter fun href ↦ !href.isEmpty

theorem Item.rendition?_eq_some_iff {item : Item} {format href : String} :
    item.rendition? format = some href ↔
      (∃ r, item.renditions.lookup format = some r ∧ r.href = some href) ∧ href ≠ "" := by
  rw [rendition?, Option.filter_eq_some_iff, Option.bind_eq_some_iff]
  simp

/-! ## Reading items

A field of a single value is `optional`: it may be left out or null. A list or a map has a default
instead, which stands for a field that is left out and for nothing else. The version and the urgency
are lenient: a feed writes them as numbers or as texts, and a text that is no number is no reason to
lose the item. -/

def AltIds.decoder : Decoder AltIds :=
  Fields.record "AltIds"
    (AltIds.mk <$> Fields.optional "etag" .text <*> Fields.optional "itemid" .text)

def Byline.decoder : Decoder Byline :=
  Fields.record "Byline" (Byline.mk <$> Fields.optional "by" .text)

def Subject.decoder : Decoder Subject :=
  Fields.record "Subject"
    (Subject.mk <$> Fields.optional "name" .text <*> Fields.withDefault "rels" [] (.list .text))

def Association.decoder : Decoder Association :=
  Fields.record "Association"
    (Association.mk <$> Fields.optional "type" .text <*> Fields.optional "itemid" .text <*>
      Fields.optional "altids" AltIds.decoder)

def Rendition.decoder : Decoder Rendition :=
  Fields.record "Rendition" (Rendition.mk <$> Fields.optional "href" .text)

def Item.fields : Fields Item :=
  Item.mk <$> Fields.optional "altids" AltIds.decoder <*>
    Fields.withDefault "version" none .lenientWord64 <*>
    Fields.optional "type" .text <*>
    Fields.optional "pubstatus" .text <*>
    Fields.optional "firstcreated" .text <*>
    Fields.optional "versioncreated" .text <*>
    Fields.optional "title" .text <*>
    Fields.optional "headline" .text <*>
    Fields.withDefault "urgency" none .lenientInt64 <*>
    Fields.optional "ednote" .text <*>
    Fields.withDefault "bylines" [] (.list Byline.decoder) <*>
    Fields.withDefault "subject" [] (.list Subject.decoder) <*>
    Fields.withDefault "keywords" [] (.list .text) <*>
    Fields.withDefault "associations" [] (.map Association.decoder) <*>
    Fields.withDefault "renditions" [] (.map Rendition.decoder)

def Item.decoder : Decoder Item := Fields.record "RawFeedItem" Item.fields

/-! ## Writing items

The writers list every field of a record, with null for what is absent and empty lists for lists
that are empty. They are what the reader is measured against: it gives back every item that they
wrote. -/

def AltIds.encode (ids : AltIds) : Value :=
  .object [("etag", .ofText? ids.etag), ("itemid", .ofText? ids.itemId)]

def Byline.encode (b : Byline) : Value :=
  .object [("by", .ofText? b.author)]

def Subject.encode (s : Subject) : Value :=
  .object [("name", .ofText? s.name), ("rels", .ofTexts s.relations)]

def Association.encode (a : Association) : Value :=
  .object [("type", .ofText? a.kind), ("itemid", .ofText? a.itemId),
    ("altids", a.altIds.elim .null AltIds.encode)]

def Rendition.encode (r : Rendition) : Value :=
  .object [("href", .ofText? r.href)]

/-- An item as JSON, with all its fields. -/
def Item.encode (item : Item) : Value :=
  .object [
    ("altids", item.altIds.elim .null AltIds.encode),
    ("version", .ofWord64? item.version),
    ("type", .ofText? item.kind),
    ("pubstatus", .ofText? item.status),
    ("firstcreated", .ofText? item.firstCreated),
    ("versioncreated", .ofText? item.versionCreated),
    ("title", .ofText? item.title),
    ("headline", .ofText? item.headline),
    ("urgency", .ofInt64? item.urgency),
    ("ednote", .ofText? item.editorNote),
    ("bylines", .array (item.bylines.map Byline.encode)),
    ("subject", .array (item.subjects.map Subject.encode)),
    ("keywords", .ofTexts item.keywords),
    ("associations", .object (item.associations.map fun (k, a) ↦ (k, a.encode))),
    ("renditions", .object (item.renditions.map fun (k, r) ↦ (k, r.encode)))]

end NewsWire.Feed

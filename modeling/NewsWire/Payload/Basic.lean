import NewsWire.Json.Decoder

/-!
# Payloads

A payload is one ingested revision in the form that is handed downstream, the same for every news
wire. It is named for the revision, not for the item: a revision may be delivered more than once,
and consumers recognise repetitions by that name.

Written as JSON, a payload leaves out the fields it does not have; read from JSON, such a field may
also be null. Lists are always there.

The record is a contract between programs that are not changed at the same time, so its fields are
named here once, in the reader and in the writer, and what ties the two together is the theorem that
the reader undoes the writer.
-/

namespace NewsWire

open NewsWire.Json

/-- What a payload says about its revision. -/
structure Payload.Body where
  source : String
  version : String
  kind : Option String
  status : Option String
  firstVersion : Option String
  versionCreated : Option String
  headline : Option String
  byline : Option String
  priority : Option Int64
  keywords : List String
  bodyText : Option String
  summary : Option String
  originalText : Option String
  editorNote : Option String
  imageIds : List String
  deriving DecidableEq, Repr, Inhabited

/-- One revision as it is handed downstream. -/
structure Payload where
  externalId : String
  body : Payload.Body
  deriving DecidableEq, Repr, Inhabited

namespace Payload

def Body.fields : Fields Body :=
  Body.mk <$> Fields.required "source" .text <*>
    Fields.required "version" .text <*>
    Fields.nullable "type" .text <*>
    Fields.nullable "status" .text <*>
    Fields.nullable "firstVersion" .text <*>
    Fields.nullable "versionCreated" .text <*>
    Fields.nullable "headline" .text <*>
    Fields.nullable "byline" .text <*>
    Fields.nullable "priority" .int64 <*>
    Fields.required "keywords" (.list .text) <*>
    Fields.nullable "bodyText" .text <*>
    Fields.nullable "abstract" .text <*>
    Fields.nullable "originalContentText" .text <*>
    Fields.nullable "ednote" .text <*>
    Fields.required "imageIds" (.list .text)

def Body.decoder : Decoder Body := Fields.record "PayloadBody" Body.fields

def decoder : Decoder Payload :=
  Fields.record "CanonicalPayload"
    (Payload.mk <$> Fields.required "externalId" .text <*> Fields.required "body" Body.decoder)

def Body.encode (b : Body) : Value :=
  present [
    ("source", some (.string b.source)),
    ("version", some (.string b.version)),
    ("type", b.kind.map .string),
    ("status", b.status.map .string),
    ("firstVersion", b.firstVersion.map .string),
    ("versionCreated", b.versionCreated.map .string),
    ("headline", b.headline.map .string),
    ("byline", b.byline.map .string),
    ("priority", b.priority.map fun i ↦ .ofInt i.toInt),
    ("keywords", some (.ofTexts b.keywords)),
    ("bodyText", b.bodyText.map .string),
    ("abstract", b.summary.map .string),
    ("originalContentText", b.originalText.map .string),
    ("ednote", b.editorNote.map .string),
    ("imageIds", some (.ofTexts b.imageIds))]

def encode (p : Payload) : Value :=
  .object [("externalId", .string p.externalId), ("body", p.body.encode)]

end Payload

end NewsWire

import NewsWire.Article.Content
import NewsWire.Feed.Item
import NewsWire.Payload.Basic
import NewsWire.Text.Blank

/-!
# From items to payloads

The payload of an item, given the document it was rendered as and the content of that document. The
item has precedence over its document: the document's headline and byline are used only when the
item has none.

Keywords are the names of the subjects that the item is directly about, unsplit, and then the words
of its free-text keywords. Image names are those of the associated pictures, in the order of the
page. Neither list is rid of repetitions.

The payload is a function of its item and document, so a revision that is polled again gives an
equal payload. Delivery is at least once, and consumers rely on this to recognise what they have. An
item without a revision still becomes a payload, under a name that names nothing.
-/

namespace NewsWire

open NewsWire.Feed

namespace Payload

/-- The name of a payload whose item has no revision. It names nothing. -/
def unidentified : String := "NO_ETAG"

/-- The relation of an item to a subject that it is directly about. -/
def directRelation : String := "direct"

/-- The kind of an associated picture. -/
def pictureKind : String := "picture"

/-- The credited authors with commas between them, if any is named. -/
def byline? (item : Item) : Option String :=
  match item.bylines.filterMap Byline.author with
  | [] => none
  | names => some (", ".intercalate names)

def subjectNames (item : Item) : List String :=
  (item.subjects.filter fun s ↦ s.relations.contains directRelation).filterMap Subject.name

/-- The words of the free-text keywords. -/
def keywordTokens (keywords : List String) : List String :=
  keywords.flatMap fun k ↦ (Text.words k.toList).map String.ofList

def keywords (item : Item) : List String :=
  subjectNames item ++ keywordTokens item.keywords

def imageIds (associations : List (String × Association)) : List String :=
  ((associations.map Prod.snd).filter fun a ↦ a.kind == some pictureKind).filterMap
    Association.mediaId

/-- The payload of an item with its document and the content of the document. -/
def ofItem (feedTag : String) (item : Item) (document : String) (content : Article.Content) :
    Payload where
  externalId := item.revision.getD unidentified
  body := {
    source := feedTag
    version := String.ofList (Nat.toDigits 10 (item.version.getD 0).toNat)
    kind := item.kind
    status := item.status
    firstVersion := item.firstCreated
    versionCreated := item.versionCreated
    headline := item.title.or (item.headline.or content.headline)
    byline := (byline? item).or content.byline
    priority := item.urgency
    keywords := keywords item
    bodyText := content.body
    summary := content.summary
    originalText := some document
    editorNote := item.editorNote
    imageIds := imageIds item.associations }

end Payload

end NewsWire

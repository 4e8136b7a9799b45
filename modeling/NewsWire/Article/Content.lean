import NewsWire.Json.Decoder

/-!
# The content of an article

What a rendition document says about its article. Each field stands for itself: a document may have
a byline and no headline, and a field that was not found is absent.

Nothing is put in the place of an absent field. Whether the item knows better than its document is
decided when a payload is made of both, and there a field that was not found must be told from one
that was found empty. A body is absent when the document has no finished block, and empty when its
blocks hold nothing.

Content has a JSON form with all six fields, which is how extraction is seen from outside.
-/

namespace NewsWire.Article

open NewsWire.Json

/-- The fields found in one rendition document. -/
structure Content where
  body : Option String
  issueDate : Option String
  byline : Option String
  headline : Option String
  summary : Option String
  editorMessage : Option String
  deriving DecidableEq, Repr, Inhabited

def Content.empty : Content := ⟨none, none, none, none, none, none⟩

/-- The reader of content. An array must have all six fields. -/
def Content.decoder : Decoder Content :=
  Fields.record "ExtractedContent"
    (Content.mk <$> Fields.nullable "body_content_html" .text <*>
      Fields.nullable "issue_date" .text <*>
      Fields.nullable "byline" .text <*>
      Fields.nullable "headline" .text <*>
      Fields.nullable "summary" .text <*>
      Fields.nullable "ed_message" .text)

def Content.encode (c : Content) : Value :=
  .object [
    ("body_content_html", .ofText? c.body),
    ("issue_date", .ofText? c.issueDate),
    ("byline", .ofText? c.byline),
    ("headline", .ofText? c.headline),
    ("summary", .ofText? c.summary),
    ("ed_message", .ofText? c.editorMessage)]

end NewsWire.Article

import NewsWire.Text.Blank

/-!
# News wires

A source describes one news wire: where its feed starts, how the next page is addressed, which
header field carries the key, and in which format items are fetched. What differs between wires is
in this record, so another wire is another value of it.

A cursor is the text of a URL. It is kept as it came: whether it can be fetched is found out when it
is used. So a page whose continuation is no URL is a page all the same, its items are handed on, and
only the next poll fails. A cursor is blank before the first poll, and then the feed begins where
the wire says; a caller need not know the address of any wire.

Fields that a feed sends only on demand are asked for by a text that is put at the end of every
continuation. It is put there without a look at the continuation, which must therefore be a URL with
a query for the text to become a part of the query.
-/

namespace NewsWire.Feed

structure Source where
  feedTag : String
  startUrl : String
  cursorSuffix : String
  keyField : String
  renditionFormat : String
  deriving DecidableEq, Repr

namespace Source

/-- The media feed of the Associated Press. -/
def associatedPress : Source where
  feedTag := "AP"
  startUrl := "https://api.ap.org/media/v/content/feed?in_my_plan=true"
  cursorSuffix := "&include=*"
  keyField := "x-api-key"
  renditionFormat := "nitf"

/-- The cursor to hand back after a page: the continuation it names, or the start of the feed, with
the suffix that asks for all optional fields. -/
def nextCursor (s : Source) (nextPage : Option String) : String :=
  (nextPage.filter fun page ↦ !page.isEmpty).getD s.startUrl ++ s.cursorSuffix

/-- The URL that a cursor means: a blank one means the start of the feed. -/
def pageUrl (s : Source) (cursor : String) : String :=
  if Text.isBlankText cursor.toList then s.startUrl else cursor

theorem pageUrl_of_blank (s : Source) {cursor : String}
    (h : ∀ c ∈ cursor.toList, Text.isBlank c = true) : s.pageUrl cursor = s.startUrl :=
  if_pos (List.all_eq_true.mpr h)

theorem pageUrl_of_not_blank (s : Source) {cursor : String}
    (h : ∃ c ∈ cursor.toList, Text.isBlank c = false) : s.pageUrl cursor = cursor := by
  refine if_neg fun hblank ↦ ?_
  obtain ⟨c, hmem, hc⟩ := h
  rw [List.all_eq_true.mp hblank c hmem] at hc
  cases hc

end Source

end NewsWire.Feed

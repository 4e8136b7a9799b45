import NewsWire.Proofs.Query

/-!
# What a cursor asks for

The suffix of a source is to make the next page carry all optional fields, as one more parameter of
the query. It is appended to the text of a URL, so it becomes one exactly when the URL has a query,
no fragment, and nothing behind it that counts (`ofString_nextCursor_iff`). A URL without a query is
turned into one with another path or another host, and to a fragment the suffix is lost.

The condition is exact, for continuations of any form and for the start of the feed alike. The feed
itself names continuations with a query, and then all is well; but nothing checks that it does, and
a page whose continuation has none is followed by a request for another resource.
-/

namespace NewsWire.Feed.Source

open NewsWire.Text NewsWire.Url

/-- The text that a cursor extends: the continuation that a page names, or the start of the feed. -/
def basis (s : Source) (nextPage : Option String) : String :=
  (nextPage.filter fun page ↦ !page.isEmpty).getD s.startUrl

theorem nextCursor_eq (s : Source) (nextPage : Option String) :
    s.nextCursor nextPage = s.basis nextPage ++ s.cursorSuffix := rfl

theorem extensible_basis {s : Source} {nextPage : Option String}
    (hpages : ∀ page ∈ nextPage, page ≠ "" → Extensible page) (hstart : Extensible s.startUrl) :
    Extensible (s.basis nextPage) := by
  rw [basis]
  cases hpage : nextPage.filter fun page ↦ !page.isEmpty with
  | none => exact hstart
  | some page =>
    obtain ⟨hmem, hne⟩ := Option.filter_eq_some_iff.mp hpage
    refine hpages page hmem ?_
    rintro rfl
    cases hne

theorem exists_ofString_pageUrl {s : Source} {cursor : String}
    (hstart : ∃ u, Url.ofString s.startUrl = .ok u) (hcursor : ∃ u, Url.ofString cursor = .ok u) :
    ∃ u, Url.ofString (s.pageUrl cursor) = .ok u := by
  by_cases hblank : ∀ c ∈ cursor.toList, isBlank c = true
  · rw [s.pageUrl_of_blank hblank]
    exact hstart
  · rw [s.pageUrl_of_not_blank (by simpa using hblank)]
    exact hcursor

/-- **Where a cursor carries the parameter.** Of web addresses, those with a query and without a
fragment that nothing but line breaks and tabs follows. -/
theorem ofString_nextCursor_iff {s : Source} (hsuffix : s.cursorSuffix = "&include=*")
    {nextPage : Option String} {u : Url} (h : Url.ofString (s.basis nextPage) = .ok u)
    (hweb : u.isWeb = true) :
    (∃ query, u.query = some query ∧ Url.ofString (s.nextCursor nextPage) =
        .ok { u with query := some (query ++ "&include=*".toList) }) ↔
      u.query ≠ none ∧ u.fragment = none ∧
        withoutBreaks (trailing (s.basis nextPage).toList) = [] := by
  have hquery : QueryText "&include=*".toList := ⟨by decide, eq_false_of_any (by decide)⟩
  rw [nextCursor_eq, hsuffix, ofString_append]
  exact parse_append_iff h hweb hquery

def samplePage (segment : String) : Url where
  scheme := "http".toList
  username := []
  password := []
  host := some (.name "wire.test".toList)
  port := none
  path := .segments [segment.toList]
  query := none
  fragment := none

theorem ofString_nextCursor_sample :
    ∃ query, some "a=b".toList = some query ∧
      Url.ofString (associatedPress.nextCursor (some "http://wire.test/feed?a=b")) =
        .ok { samplePage "feed" with query := some (query ++ "&include=*".toList) } :=
  (@ofString_nextCursor_iff associatedPress rfl (some "http://wire.test/feed?a=b")
    { samplePage "feed" with query := some "a=b".toList } (by decide +kernel)
    (by decide +kernel)).mpr (by decide +kernel)

/-- Without a query the next page is another one, and it is asked for without the parameter. -/
theorem ofString_nextCursor_without_query :
    Url.ofString "http://wire.test/feed" = .ok (samplePage "feed") ∧
      associatedPress.nextCursor (some "http://wire.test/feed") =
        "http://wire.test/feed&include=*" ∧
      Url.ofString "http://wire.test/feed&include=*" = .ok (samplePage "feed&include=*") := by
  decide +kernel

end NewsWire.Feed.Source

import NewsWire.Proofs.Account

/-!
# What a poll hands back

A reference for polls that drop what they cannot use: the payload of an entry is worked out from the
entry and the outcome of its document, one entry after another, with nothing under way besides.

A poll has two stages in which entries are dropped, resolves items in any order, and takes a way of
its own where there are no items. All the same it hands back the payloads of the reference, in the
order of the page (`run_pollOnce_eq_reference`). As the payload of an entry depends on no other
entry, so do the payloads of a poll.

The reference is a `filterMap`, and it is given the documents as a function of their addresses. It
could be carried out with paper and pencil from a page and its documents, which is what it is for:
it says what a poll is to achieve, and the stages of the poll are how.
-/

namespace NewsWire.Poll

open NewsWire.Feed NewsWire.Http

variable {c : Config} {cursor credential : String} {n : Network} {s : Schedule} {t u : Trace}
  {value : Json.Value} {data : PageData} {document : String → Except TransportFault String}

/-! ## The reference -/

/-- The item that an entry holds, if it holds one that can be read. -/
def entryItem? (entry : Json.Value) : Option Item := do
  let held ← (entryDecoder.ofValue entry).toOption
  let value ← held
  (Item.decoder.ofValue value).toOption

/-- The payload of an item, if it has a rendition and its document can be fetched. -/
def itemPayload? (c : Config) (document : String → Except TransportFault String) (item : Item) :
    Option Payload := do
  let href ← item.rendition? c.source.renditionFormat
  let text ← (document href).toOption
  return Payload.ofItem c.source.feedTag item text (Article.extract text)

def payload? (c : Config) (document : String → Except TransportFault String)
    (entry : Json.Value) : Option Payload :=
  (entryItem? entry).bind (itemPayload? c document)

theorem toOption_readEntry (entry : Json.Value) :
    (readEntry entry).toOption = entryItem? entry := by
  rw [readEntry, entryItem?]
  rcases entryDecoder.ofValue entry with m | _ | value
  · rfl
  · rfl
  · cases hitem : Item.decoder.ofValue value with
    | error m => simp [hitem, Except.toOption]
    | ok item => simp [hitem, Except.toOption]

theorem itemsOf_eq_filterMap (data : PageData) :
    itemsOf data = (entriesOf data).filterMap entryItem? := by
  rw [itemsOf, readItems, List.filterMap_map]
  exact congrArg (List.filterMap · _) (funext toOption_readEntry)

theorem filterMap_payload? (c : Config) (document : String → Except TransportFault String)
    (data : PageData) :
    (entriesOf data).filterMap (payload? c document) =
      (itemsOf data).filterMap (itemPayload? c document) := by
  rw [itemsOf_eq_filterMap, List.filterMap_filterMap]
  rfl

/-! ## Polls that drop what they cannot use -/

theorem map_payload_resolvedItems (items : List Item) :
    (resolvedItems (items.map (settledFor c document))).map (·.payload c.source.feedTag) =
      items.filterMap (itemPayload? c document) := by
  rw [resolvedItems, List.filterMap_map, List.map_filterMap]
  congr 1
  funext item
  rw [Function.comp_apply, settledFor, itemPayload?]
  cases hrendition : item.rendition? c.source.renditionFormat with
  | none => rfl
  | some href =>
    cases hdocument : document href with
    | error fault => simp [Resolved.of, Except.toOption, hdocument]
    | ok text =>
      simp [Resolved.of, Except.toOption, hdocument]
      rfl

/-- **A poll is its reference.** Whatever page is fetched and whatever becomes of its documents, a
poll that drops what it cannot use succeeds, and hands back the payloads of the entries, in order,
and the cursor after the page. -/
theorem run_pollOnce_eq_reference (hdrop : c.itemFailure = .drop)
    (hfetch : (fetchAt c cursor credential).run.run n s t = (.ok value, u))
    (hdata : PageData.decoder.ofValue value = .ok data)
    (hserves : Serves c n u.seen document (itemsOf data)) :
    ((pollOnce c credential cursor).run n s t).1 =
      ⟨.done, .ok ⟨(entriesOf data).filterMap (payload? c document),
        c.source.nextCursor data.nextPage⟩⟩ := by
  have hrun := run_pollOnce_of_page (run_readPage_of_data hfetch hdata)
  rw [items_pageOf] at hrun
  have hfound : foundFor c (itemsOf data) n s (u.tell (entryDrops data)) =
      (itemsOf data).map (settledFor c document) := foundFor_eq_map hserves List.prefix_rfl
  obtain ⟨hpropagate, -⟩ | ⟨-, v, hresolve, -⟩ :=
    run_resolveAll_cases c (itemsOf data) n s (u.tell (entryDrops data))
  · rw [hdrop] at hpropagate
    cases hpropagate
  · rw [hresolve, hfound] at hrun
    rw [hrun, conclude, run_complete, map_payload_resolvedItems, filterMap_payload?]
    rfl

/-- The entry of a story with a revision and an address for its document. -/
def taggedStory (etag href : String) : Json.Value :=
  .object [("item", .object [("altids", .object [("etag", .string etag)]),
    ("renditions", .object [("nitf", .object [("href", .string href)])])])]

/-- Two stories that can be used, and between them an entry that holds nothing, a story without an
address and one whose document cannot be fetched. -/
def taggedEntries : List Json.Value :=
  [taggedStory "a:1" "http://wire.test/1", .object [], taggedStory "b:1" "",
    taggedStory "c:1" "http://wire.test/gone", taggedStory "d:2" "http://wire.test/2"]

def taggedReply (url : Url) : Outcome :=
  if url = sampleUrl then
    .reply (sampleReplyOf
      (Json.Value.object [("data", .object [("items", .array taggedEntries)])]).compact)
  else if url.path = .segments ["1".toList] then
    .reply (sampleReplyOf "<hl1 id='headline'>One</hl1>".toList)
  else if url.path = .segments ["2".toList] then
    .reply (sampleReplyOf "<hl1 id='headline'>Two</hl1>".toList)
  else .failed

def taggedNetwork : Network := ⟨fun _ ↦ true, fun _ r ↦ taggedReply r.url⟩

theorem run_pollOnce_eq_reference_sample :
    ∃ first second : Payload,
      ((pollOnce sampleConfig "key" "").run taggedNetwork List.range .empty).1 =
        ⟨.done, .ok ⟨[first, second], "http://wire.test/feed&include=*"⟩⟩ ∧
      (first.externalId = "a:1" ∧ first.body.headline = some "One") ∧
      second.externalId = "d:2" ∧ second.body.headline = some "Two" := by
  have hjson : bodyJson? (sampleReplyOf
      (Json.Value.object [("data", .object [("items", .array taggedEntries)])]).compact) =
        some (.object [("data", .object [("items", .array taggedEntries)])]) :=
    bodyJson?_sampleReplyOf (by decide +kernel) (by decide +kernel)
  obtain ⟨u, hfetch⟩ : ∃ u, (fetchAt sampleConfig "" "key").run.run taggedNetwork List.range
      .empty = (.ok (.object [("items", .array taggedEntries)]), u) :=
    exists_run_fetchAt_of_reply target_sampleUrl keyField_sample rfl hjson rfl
  have hdata : PageData.decoder.ofValue (.object [("items", .array taggedEntries)]) =
      .ok ⟨none, some taggedEntries, none⟩ := by decide +kernel
  have hserves := serves_documentOf (c := sampleConfig) (n := taggedNetwork)
    (fun _ _ ↦ rfl : ∀ seen url, taggedNetwork.answer seen ⟨url, standardFields sampleConfig⟩ =
      taggedReply url)
    u.seen (itemsOf ⟨none, some taggedEntries, none⟩)
  have hcursor : sampleConfig.source.nextCursor none = "http://wire.test/feed&include=*" := by
    decide +kernel
  have hpayloads : ((entriesOf ⟨none, some taggedEntries, none⟩).filterMap (payload? sampleConfig
      (documentOf sampleConfig taggedNetwork taggedReply))).map
        (fun p ↦ (p.externalId, p.body.headline)) =
      [("a:1", some "One"), ("d:2", some "Two")] := by decide +kernel
  obtain ⟨first, rest, hentries, hfirst, hrest⟩ := List.map_eq_cons_iff.mp hpayloads
  obtain ⟨second, rest, rfl, hsecond, hrest⟩ := List.map_eq_cons_iff.mp hrest
  rw [List.map_eq_nil_iff.mp hrest] at hentries
  refine ⟨first, second, ?_, Prod.mk.inj hfirst, Prod.mk.inj hsecond⟩
  rw [← hentries, ← hcursor]
  exact run_pollOnce_eq_reference rfl hfetch hdata hserves

end NewsWire.Poll

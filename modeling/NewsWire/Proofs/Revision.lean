import NewsWire.Proofs.Account

/-!
# The revisions of dropped items

An item that is dropped is told with a revision, by which observers know it. The revision takes two
ways. An item without a rendition is told by its own strand, which has the item at hand. An item
whose document could not be fetched is told later, when the results are gone through, and by then
there is only the failure, which carries the name of a revision and not the item.

An item that has a revision is told by it, on both ways. They differ for an item that has none. The
first way tells no revision. The second one tells the dash that stands in the wording of the
failure, as if it were a revision (`toldRevisions_run_pollOnce`).

In a log the two look alike, because there no revision is written as a dash as well. An observer
that is handed the event cannot tell an item without a revision from one whose revision is a dash.
-/

namespace NewsWire.Poll

open NewsWire.Feed NewsWire.Http

variable {c : Config} {cursor credential : String} {items : List Item} {found : List Resolved}
  {n : Network} {s : Schedule} {t u : Trace} {of : DropReason → Bool}

/-! ## What events tell -/

def DropReason.isMissingRendition : DropReason → Bool
  | .missingRendition => true
  | _ => false

def DropReason.isFetchFailure : DropReason → Bool
  | .contentFetchFailed _ => true
  | _ => false

/-- The revision that an event tells of a drop, for reasons of some kind. -/
def toldRevision? (of : DropReason → Bool) : Event → Option (Option String)
  | .itemDropped revision reason => if of reason then some revision else none
  | _ => none

/-- The revisions that events tell of drops, for reasons of some kind, in order. -/
def toldRevisions (of : DropReason → Bool) (events : List Event) : List (Option String) :=
  events.filterMap (toldRevision? of)

theorem toldRevisions_append (of : DropReason → Bool) (events more : List Event) :
    toldRevisions of (events ++ more) = toldRevisions of events ++ toldRevisions of more :=
  List.filterMap_append

theorem toldRevisions_retryEvents (of : DropReason → Bool) (c : Config) (rawUrl : String)
    (attempt : ℕ) (failures : List Failure) :
    toldRevisions of (retryEvents c rawUrl attempt failures) = [] := by
  rw [toldRevisions, retryEvents, List.mapIdx_eq_zipIdx_map, List.filterMap_map]
  exact List.filterMap_eq_nil_iff.mpr fun _ _ ↦ rfl

/-- An entry that holds no item is told for reasons of its own. -/
theorem toldRevisions_entryDrops (hmissing : of .missingItem = false)
    (hmalformed : ∀ m, of (.malformedItem m) = false) (data : PageData) :
    toldRevisions of (entryDrops data) = [] := by
  rw [toldRevisions, entryDrops, List.filterMap_map]
  refine List.filterMap_eq_nil_iff.mpr fun fault _ ↦ ?_
  cases fault with
  | missing => simp [faultEvent, toldRevision?, hmissing]
  | malformed revision m => simp [faultEvent, toldRevision?, hmalformed]

/-! ## Items that are dropped -/

/-- The items that have no rendition, in order. -/
def unrendered (c : Config) (items : List Item) : List Item :=
  items.filter fun item ↦ (item.rendition? c.source.renditionFormat).isNone

/-- The items whose strands came to a failure, in order. -/
def unfetched (items : List Item) (found : List Resolved) : List Item :=
  (items.zip found).filterMap fun (item, r) ↦ match r with
    | .ok _ => none
    | .error _ => some item

theorem unfetched_map {settled : Item → Resolved}
    (h : ∀ item ∈ items, (settled item).toOption.isNone) :
    unfetched items (items.map settled) = items := by
  induction items with
  | nil => rfl
  | cons item items ih =>
    rw [List.forall_mem_cons] at h
    rw [unfetched, List.map_cons, List.zip_cons_cons, List.filterMap_cons, ← unfetched, ih h.2]
    cases hsettled : settled item with
    | ok resolved =>
      rw [hsettled] at h
      cases h.1
    | error fault => rfl

theorem toldRevisions_renditionDrops (c : Config) (items : List Item) :
    toldRevisions DropReason.isMissingRendition (renditionDrops c items) =
        (unrendered c items).map Item.revision ∧
      toldRevisions DropReason.isFetchFailure (renditionDrops c items) = [] := by
  rw [toldRevisions, toldRevisions, renditionDrops, unrendered, List.filterMap_map,
    List.filterMap_map, ← List.filterMap_eq_map]
  exact ⟨rfl, List.filterMap_eq_nil_iff.mpr fun _ _ ↦ rfl⟩

theorem toldRevisions_fetchDrops (h : List.Forall₂ (FoundFor c) items found) :
    toldRevisions DropReason.isMissingRendition (fetchDrops found) = [] ∧
      toldRevisions DropReason.isFetchFailure (fetchDrops found) =
        (unfetched items found).map fun item ↦ some (item.revision.getD "-") := by
  induction h with
  | nil => exact ⟨rfl, rfl⟩
  | @cons item r items found hr _ ih =>
    cases hr with
    | missing hrendition => exact ih
    | fetched document hrendition => exact ih
    | failed fault hrendition => exact ⟨ih.1, congrArg (some (item.revision.getD "-") :: ·) ih.2⟩

/-! ## Polls -/

/-- The items of a page that was read. -/
def itemsRead : Except Failure Page → List Item
  | .ok page => page.items
  | .error _ => []

/-- The items of a poll: those of its page, if it has one. -/
def itemsOfPoll (c : Config) (credential cursor : String) (n : Network) (s : Schedule) (t : Trace) :
    List Item :=
  itemsRead ((readPage c cursor credential).run.run n s t).1

/-- The items that a poll drops because their documents could not be fetched. -/
def unfetchedOfPoll (c : Config) (credential cursor : String) (n : Network) (s : Schedule)
    (t : Trace) : List Item :=
  let (result, u) := (readPage c cursor credential).run.run n s t
  match c.itemFailure with
  | .drop => unfetched (itemsRead result) (foundFor c (itemsRead result) n s u)
  | .propagate => []

theorem toldRevisions_of_accounted {data : PageData} {report : Report} {told : List Event}
    (h : Accounted c cursor data found report told)
    (hfound : List.Forall₂ (FoundFor c) (itemsOf data) found) :
    toldRevisions DropReason.isMissingRendition told =
        (unrendered c (itemsOf data)).map Item.revision ∧
      toldRevisions DropReason.isFetchFailure told =
        match c.itemFailure with
        | .drop => (unfetched (itemsOf data) found).map fun item ↦ some (item.revision.getD "-")
        | .propagate => [] := by
  have hmissing : toldRevisions DropReason.isMissingRendition (entryDrops data) = [] :=
    toldRevisions_entryDrops rfl (fun _ ↦ rfl) data
  have hfailed : toldRevisions DropReason.isFetchFailure (entryDrops data) = [] :=
    toldRevisions_entryDrops rfl (fun _ ↦ rfl) data
  obtain ⟨hrendition, hrendition'⟩ := toldRevisions_renditionDrops c (itemsOf data)
  obtain ⟨hfetch, hfetch'⟩ := toldRevisions_fetchDrops hfound
  cases h with
  | completed hpolicy _ _ =>
    simp only [toldRevisions_append, hmissing, hfailed, hrendition, hrendition', hfetch,
      List.nil_append, List.append_nil]
    refine ⟨List.append_nil _, ?_⟩
    cases hfailure : c.itemFailure with
    | drop => exact (List.append_nil _).trans hfetch'
    | propagate =>
      rw [hpolicy hfailure]
      rfl
  | failed hpolicy _ =>
    simp only [toldRevisions_append, hmissing, hfailed, hrendition, hrendition', hpolicy,
      List.nil_append]
    exact ⟨trivial, trivial⟩

theorem toldRevisions_pollOnce (c : Config) (credential cursor : String) (n : Network)
    (s : Schedule) (t : Trace) :
    ∃ told, ((pollOnce c credential cursor).run n s t).2.events = t.events ++ told ∧
      toldRevisions DropReason.isMissingRendition told =
        (unrendered c (itemsOfPoll c credential cursor n s t)).map Item.revision ∧
      toldRevisions DropReason.isFetchFailure told =
        (unfetchedOfPoll c credential cursor n s t).map fun item ↦
          some (item.revision.getD "-") := by
  obtain ⟨failures, hretries⟩ := exists_events_fetchAt c cursor credential n s t
  obtain ⟨e, u, hu, hpage⟩ | ⟨value, data, u, hfetch, hdata, hpage⟩ :=
    run_readPage_cases c cursor credential n s t
  · rw [hu] at hretries
    refine ⟨retryEvents c (c.source.pageUrl cursor) 0 failures, ?_, ?_⟩
    · rw [run_pollOnce_of_no_page hpage]
      exact hretries
    · rw [toldRevisions_retryEvents, toldRevisions_retryEvents, itemsOfPoll, unfetchedOfPoll, hpage]
      cases c.itemFailure <;> exact ⟨rfl, rfl⟩
  · rw [hfetch] at hretries
    obtain ⟨report, v, told, hconclude, hevents, haccounted⟩ := exists_accounted c cursor data n s u
    have htold := toldRevisions_of_accounted haccounted
      (forall₂_foundFor c (itemsOf data) n s (u.tell (entryDrops data)))
    have hrun := (run_pollOnce_of_page hpage).trans hconclude
    refine ⟨retryEvents c (c.source.pageUrl cursor) 0 failures ++ told, ?_, ?_⟩
    · rw [hrun, ← List.append_assoc]
      exact hevents.trans (congrArg (· ++ told) hretries)
    · rw [toldRevisions_append, toldRevisions_append, toldRevisions_retryEvents,
        toldRevisions_retryEvents, List.nil_append, List.nil_append, htold.1, htold.2, itemsOfPoll,
        unfetchedOfPoll, hpage]
      cases c.itemFailure <;> exact ⟨rfl, rfl⟩

/-- The dash is told of items that have no revision, and else the revision is. -/
theorem map_getD_eq_map_revision_iff (items : List Item) :
    (items.map fun item ↦ some (item.revision.getD "-")) = items.map Item.revision ↔
      ∀ item ∈ items, item.revision.isSome := by
  rw [List.map_inj_left]
  refine forall₂_congr fun item _ ↦ ?_
  cases item.revision with
  | none => simp
  | some revision => simp

/-- **The revisions of dropped items.** The revisions that a poll tells of items without a rendition
are theirs. Those that it tells of items whose documents could not be fetched have a dash in place
of none, so they are those of the items if and only if each of them has one. -/
theorem toldRevisions_run_pollOnce (c : Config) (credential cursor : String) (n : Network)
    (s : Schedule) (t : Trace) :
    ∃ told, ((pollOnce c credential cursor).run n s t).2.events = t.events ++ told ∧
      toldRevisions DropReason.isMissingRendition told =
        (unrendered c (itemsOfPoll c credential cursor n s t)).map Item.revision ∧
      toldRevisions DropReason.isFetchFailure told =
        (unfetchedOfPoll c credential cursor n s t).map (fun item ↦
          some (item.revision.getD "-")) ∧
      (toldRevisions DropReason.isFetchFailure told =
          (unfetchedOfPoll c credential cursor n s t).map Item.revision ↔
        ∀ item ∈ unfetchedOfPoll c credential cursor n s t, item.revision.isSome) := by
  obtain ⟨told, hevents, hmissing, hfetch⟩ := toldRevisions_pollOnce c credential cursor n s t
  refine ⟨told, hevents, hmissing, hfetch, ?_⟩
  rw [hfetch, map_getD_eq_map_revision_iff]

def forgetfulNetwork : Network where
  reaches _ := true
  answer _ r := if r.field? "x-api-key" = some "key" then sampleReply r.url else .failed

/-- The stories of the sample page have no revisions, but dashes are told of them. -/
theorem toldRevisions_of_untagged_stories :
    (unfetchedOfPoll sampleConfig "key" "" forgetfulNetwork List.range .empty).map Item.revision =
      [none, none] ∧
    toldRevisions DropReason.isFetchFailure
        ((pollOnce sampleConfig "key" "").run forgetfulNetwork List.range .empty).2.events =
      [some "-", some "-"] := by
  obtain ⟨u, hfetch⟩ := run_fetchAt_of_sampleReply (n := forgetfulNetwork) rfl List.range
  have hpage := run_readPage_of_data hfetch ofValue_sampleEntries
  generalize hdata : (⟨none, some sampleEntries, none⟩ : PageData) = data at hpage
  have hserves : Serves sampleConfig forgetfulNetwork u.seen
      (documentOf sampleConfig forgetfulNetwork fun _ ↦ .failed) (itemsOf data) :=
    serves_documentOf (fun _ _ ↦ rfl) u.seen (itemsOf data)
  have hfound : foundFor sampleConfig (itemsOf data) forgetfulNetwork List.range
      (u.tell (entryDrops data)) = (itemsOf data).map (settledFor sampleConfig
        (documentOf sampleConfig forgetfulNetwork fun _ ↦ .failed)) :=
    foundFor_eq_map hserves List.prefix_rfl
  have hunfetched : unfetchedOfPoll sampleConfig "key" "" forgetfulNetwork List.range .empty =
      itemsOf data := by
    have hdrop : sampleConfig.itemFailure = .drop := rfl
    simp only [unfetchedOfPoll, hdrop, hpage, itemsRead, items_pageOf]
    rw [hfound, ← hdata]
    exact unfetched_map (by decide +kernel)
  obtain ⟨told, hevents, -, htold⟩ :=
    toldRevisions_pollOnce sampleConfig "key" "" forgetfulNetwork List.range .empty
  rw [hevents, toldRevisions_append, htold, hunfetched, ← hdata]
  exact ⟨by decide +kernel, by decide +kernel⟩

end NewsWire.Poll

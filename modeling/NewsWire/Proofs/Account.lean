import NewsWire.Poll.Run
import NewsWire.Proofs.Page
import NewsWire.Proofs.Resolve

/-!
# The account of a poll

What a poll tells its observers accounts for what it hands back. The events of a poll come in parts,
in this order:

1. the page was asked for again, once for each failure before the last attempt;
2. entries without an item, in the order of the page;
3. items without a rendition, in the order of the page;
4. items whose documents could not be fetched, in the order of the page;
5. the page is completed.

A poll that fails while it reads the page tells the first part alone, and one that fails while it
resolves items tells the first three. A poll that succeeds tells all five, and its payloads and the
drops together are as many as the entries of the page.

The page without items takes a way of its own, but that way comes to what the other would come to
(`run_pollOnce_of_page`).

Items are resolved side by side, so it is not plain that their events come in the order of the page.
Those of the third part do because they are told before a strand asks for anything, and strands are
begun in order; those of the fourth because they are told afterwards, when what the strands came to
is gone through. Nothing is told in between, and that is all that the network could have disturbed.
-/

namespace NewsWire.Poll

open NewsWire.Feed

variable {c : Config} {cursor credential : String} {n : Network} {s : Schedule} {t u : Trace}

/-! ## The stages of a poll -/

theorem run_pollOnce_of_no_page {e : Failure}
    (h : (readPage c cursor credential).run.run n s t = (.error e, u)) :
    (pollOnce c credential cursor).run n s t = (⟨.fetchingPage, .error e⟩, u) := by
  rw [pollOnce, Dialogue.run_bind, h]
  rfl

/-- What a poll does once its items are resolved, or one of them has made it fail. -/
def conclude (c : Config) (cursor : String) (page : Page) :
    Except Failure Resolution → Dialogue Report
  | .error e => .done ⟨.resolvingItems, .error e⟩
  | .ok resolution =>
    complete cursor page (resolution.items.map (·.payload c.source.feedTag)) resolution.dropped

/-- Whether or not a page has items, they are resolved, and then the poll is concluded. -/
theorem run_pollOnce_of_page {page : Page}
    (h : (readPage c cursor credential).run.run n s t = (.ok page, u)) :
    (pollOnce c credential cursor).run n s t =
      (conclude c cursor page ((resolveAll c page.items).run.run n s u).1).run n s
        ((resolveAll c page.items).run.run n s u).2 := by
  rw [pollOnce, Dialogue.run_bind, h]
  cases hitems : page.items with
  | nil =>
    simp only [hitems, List.isEmpty_nil, if_true, run_resolveAll_nil, conclude, List.map_nil]
  | cons item items =>
    simp only [hitems, List.isEmpty_cons, Bool.false_eq_true, if_false, Dialogue.run_bind]
    congr 1

/-! ## What is told

`Accounted` has a constructor for each way in which a poll may end once its page has been fetched,
with the events of that way. It speaks of what the strands came to, and neither of a network nor of
a schedule, so whoever knows what the documents were knows what was told. -/

/-- What a poll comes to, and what it tells after its page has been fetched, given the data of the
page and what the strands of its items came to. -/
inductive Accounted (c : Config) (cursor : String) (data : PageData) (found : List Resolved) :
    Report → List Event → Prop
  | completed {payloads : List Payload} {dropped : ℕ} :
      (c.itemFailure = .propagate → fetchDrops found = []) →
      dropped = (entryDrops data).length + (renditionDrops c (itemsOf data)).length +
        (fetchDrops found).length →
      payloads.length + dropped = (entriesOf data).length →
      Accounted c cursor data found
        ⟨.done, .ok ⟨payloads, c.source.nextCursor data.nextPage⟩⟩
        (entryDrops data ++ renditionDrops c (itemsOf data) ++ fetchDrops found ++
          [.pageCompleted cursor (c.source.nextCursor data.nextPage) payloads.length dropped])
  | failed {revision : String} {fault : Http.TransportFault} :
      c.itemFailure = .propagate →
      (fetchDrops found).head? =
        some (.itemDropped (some revision) (.contentFetchFailed fault)) →
      Accounted c cursor data found
        ⟨.resolvingItems, .error (.itemFetch revision fault)⟩
        (entryDrops data ++ renditionDrops c (itemsOf data))

theorem run_complete (cursor : String) (page : Page) (payloads : List Payload) (dropped : ℕ)
    (t : Trace) :
    (complete cursor page payloads dropped).run n s t =
      (⟨.done, .ok ⟨payloads, page.nextCursor⟩⟩,
        t.tell [.pageCompleted cursor page.nextCursor payloads.length
          (page.skipped + dropped)]) := rfl

theorem onlyTells_conclude (c : Config) (cursor : String) (page : Page)
    (resolved : Except Failure Resolution) : (conclude c cursor page resolved).OnlyTells := by
  cases resolved with
  | error e => exact .done _
  | ok resolution => exact .tell (.done _)

theorem exists_accounted (c : Config) (cursor : String) (data : PageData) (n : Network)
    (s : Schedule) (u : Trace) :
    ∃ report v told,
      (conclude c cursor (pageOf c.source data)
        ((resolveAll c (itemsOf data)).run.run n s (u.tell (entryDrops data))).1).run n s
          ((resolveAll c (itemsOf data)).run.run n s (u.tell (entryDrops data))).2 =
        (report, v) ∧
      v.events = u.events ++ told ∧
      Accounted c cursor data (foundFor c (itemsOf data) n s (u.tell (entryDrops data)))
        report told := by
  have hfound := forall₂_foundFor c (itemsOf data) n s (u.tell (entryDrops data))
  have hcases := run_resolveAll_cases c (itemsOf data) n s (u.tell (entryDrops data))
  generalize foundFor c (itemsOf data) n s (u.tell (entryDrops data)) = found at hfound hcases ⊢
  obtain ⟨hpolicy, revision, fault, v, hfirst, hresolve, hevents⟩ |
    ⟨hpolicy, v, hresolve, hevents⟩ := hcases
  · rw [hresolve, conclude, Dialogue.run_done]
    refine ⟨_, v, _, rfl, ?_, .failed hpolicy hfirst⟩
    rw [hevents, Trace.events_tell, List.append_assoc]
  · rw [hresolve, conclude, run_complete, skipped_pageOf, ← Nat.add_assoc]
    refine ⟨_, _, _, rfl, ?_, .completed hpolicy rfl ?_⟩
    · simp only [Trace.events_tell, hevents, List.append_assoc, nextCursor_pageOf]
    · -- Each entry is an item or a drop, and each item is a payload or a drop.
      have hentries := length_itemsOf_add_length_entryDrops data
      have hitems := length_resolvedItems_add hfound
      simp only [List.length_map]
      omega

/-- **The account of a poll.** Whatever the network answers, the events of a poll are those of
`k` retries, counted from one to `k`, and then those that account for its entries and its result. -/
theorem events_run_pollOnce (c : Config) (credential cursor : String) (n : Network) (s : Schedule)
    (t : Trace) :
    ∃ (failures : List Failure) (told : List Event),
      ((pollOnce c credential cursor).run n s t).2.events =
        t.events ++
          (failures.mapIdx fun i e ↦
            .pageRetried (c.source.pageUrl cursor) (i + 1) e c.retryDelayMs) ++ told ∧
      ((∃ e u, (readPage c cursor credential).run.run n s t = (.error e, u) ∧
          ((pollOnce c credential cursor).run n s t).1 = ⟨.fetchingPage, .error e⟩ ∧ told = []) ∨
        ∃ value data u found, (fetchAt c cursor credential).run.run n s t = (.ok value, u) ∧
          PageData.decoder.ofValue value = .ok data ∧
          found = foundFor c (itemsOf data) n s (u.tell (entryDrops data)) ∧
          List.Forall₂ (FoundFor c) (itemsOf data) found ∧
          Accounted c cursor data found ((pollOnce c credential cursor).run n s t).1 told) := by
  obtain ⟨failures, hretries⟩ := exists_events_fetchAt c cursor credential n s t
  rw [retryEvents_zero] at hretries
  obtain ⟨e, u, hu, hpage⟩ | ⟨value, data, u, hfetch, hdata, hpage⟩ :=
    run_readPage_cases c cursor credential n s t
  · rw [hu] at hretries
    rw [run_pollOnce_of_no_page hpage]
    refine ⟨failures, [], ?_, Or.inl ⟨e, u, hpage, rfl, rfl⟩⟩
    rw [List.append_nil]
    exact hretries
  · rw [hfetch] at hretries
    obtain ⟨report, v, told, hconclude, hevents, haccounted⟩ :=
      exists_accounted c cursor data n s u
    have hrun := (run_pollOnce_of_page hpage).trans hconclude
    rw [hrun]
    refine ⟨failures, told, ?_, Or.inr ⟨value, data, u, _, hfetch, hdata, rfl,
      forall₂_foundFor c (itemsOf data) n s (u.tell (entryDrops data)), haccounted⟩⟩
    rw [hevents]
    exact congrArg (· ++ told) hretries

end NewsWire.Poll

import NewsWire.Proofs.Requests

/-!
# Documents that cannot be fetched

What becomes of a poll when the document of an item cannot be fetched is a matter of its
configuration: the item is dropped, or the poll fails. Either way every document is asked for, and
only once, since failures are looked at when all documents are in (`run_resolveAll_policy`).

A poll that fails does so on account of the first item of the page whose document failed, whichever
came in first. Where no document fails, the results that are gone through are all successes, so that
there is nothing on which the two policies could disagree (`run_pollOnce_of_no_fault`). The page is
read before any item is, and does not depend on the policy either.

So the policy is no means to save requests or time. Under the one that fails, a page with one broken
document is fetched whole, again and again, and its caller does not move until the document can be
had; under the other the item is lost and the caller moves on.
-/

namespace NewsWire.Poll

open NewsWire.Feed NewsWire.Http

variable {c : Config} {cursor credential : String} {item : Item} {items : List Item} {n : Network}
  {s : Schedule} {t : Trace} {document : String → Except TransportFault String}

/-! ## Failed documents -/

def fetchFault? (c : Config) (document : String → Except TransportFault String) (item : Item) :
    Option TransportFault :=
  (item.rendition? c.source.renditionFormat).bind fun href ↦
    match document href with
    | .ok _ => none
    | .error fault => some fault

theorem fetchDrop?_settledFor (c : Config) (document : String → Except TransportFault String)
    (item : Item) :
    fetchDrop? (settledFor c document item) = (fetchFault? c document item).map fun fault ↦
      .itemDropped (some (reportedRevision item)) (.contentFetchFailed fault) := by
  rw [settledFor, fetchFault?]
  cases item.rendition? c.source.renditionFormat with
  | none => rfl
  | some href =>
    cases hdocument : document href with
    | ok text => simp [hdocument, Resolved.of, fetchDrop?]
    | error fault => simp [hdocument, Resolved.of, fetchDrop?]

theorem exists_settledFor_eq_ok (h : fetchFault? c document item = none) :
    ∃ resolved, settledFor c document item = .ok resolved := by
  rw [fetchFault?] at h
  rw [settledFor]
  cases hrendition : item.rendition? c.source.renditionFormat with
  | none => exact ⟨none, rfl⟩
  | some href =>
    cases hdocument : document href with
    | ok text => exact ⟨some (.of item text), by simp [hdocument, Resolved.of]⟩
    | error fault => simp [hrendition, hdocument] at h

/-- The failures that are told, or that make a poll fail, are those of the items in order. -/
theorem fetchDrops_settledFor (c : Config) (document : String → Except TransportFault String)
    (items : List Item) :
    fetchDrops (items.map (settledFor c document)) = items.filterMap fun item ↦
      (fetchFault? c document item).map fun fault ↦
        .itemDropped (some (reportedRevision item)) (.contentFetchFailed fault) := by
  rw [fetchDrops, List.filterMap_map]
  exact congrArg (List.filterMap · items) (funext (fetchDrop?_settledFor c document))

theorem head?_fetchDrops_settledFor {e : Event} :
    (fetchDrops (items.map (settledFor c document))).head? = some e ↔
      ∃ earlier item later fault, items = earlier ++ item :: later ∧
        (∀ other ∈ earlier, fetchFault? c document other = none) ∧
        fetchFault? c document item = some fault ∧
        e = .itemDropped (some (reportedRevision item)) (.contentFetchFailed fault) := by
  rw [fetchDrops_settledFor, List.head?_filterMap, List.findSome?_eq_some_iff]
  constructor
  · rintro ⟨earlier, item, later, hitems, hitem, hearlier⟩
    obtain ⟨fault, hfault, rfl⟩ := Option.map_eq_some_iff.mp hitem
    exact ⟨earlier, item, later, fault, hitems,
      fun other hother ↦ Option.map_eq_none_iff.mp (hearlier other hother), hfault, rfl⟩
  · rintro ⟨earlier, item, later, fault, hitems, hearlier, hfault, rfl⟩
    refine ⟨earlier, item, later, hitems, ?_, fun other hother ↦ ?_⟩
    · rw [hfault, Option.map_some]
    · rw [hearlier other hother, Option.map_none]

theorem fetchDrops_settledFor_eq_nil_iff :
    fetchDrops (items.map (settledFor c document)) = [] ↔
      ∀ item ∈ items, fetchFault? c document item = none := by
  rw [fetchDrops_settledFor, List.filterMap_eq_nil_iff]
  exact forall₂_congr fun item _ ↦ Option.map_eq_none_iff

/-! ## Polls under two policies -/

theorem fetchPageFrom_policy (c : Config) (policy : ItemFailure) (rawUrl : String)
    (key : Option KeyField) (attempt : ℕ) :
    fetchPageFrom { c with itemFailure := policy } rawUrl key attempt =
      fetchPageFrom c rawUrl key attempt := by
  induction attempt using fetchPageFrom.induct c with
  | case1 attempt ih =>
    conv_lhs => rw [fetchPageFrom]
    conv_rhs => rw [fetchPageFrom]
    refine congrArg (Dialogue.bind _) (funext fun result ↦ ?_)
    rcases result with e | v
    · by_cases hretry : e.isRetryable && c.retryMode.shouldRetry attempt c.attemptBudget.toNat
      · simp only [dif_pos hretry, ih e hretry]
      · simp only [dif_neg hretry]
    · rfl

/-- Of a configuration, reading a page depends on the source and on how pages are fetched. -/
theorem readPage_eq_of_fetchPage {c' : Config} (hsource : c'.source = c.source)
    (hfetch : fetchPage c' = fetchPage c) (cursor credential : String) :
    readPage c' cursor credential = readPage c cursor credential := by
  rw [readPage, readPage, fetchAt, fetchAt, hsource, hfetch]

theorem readPage_policy (c : Config) (policy : ItemFailure) (cursor credential : String) :
    readPage { c with itemFailure := policy } cursor credential = readPage c cursor credential := by
  refine readPage_eq_of_fetchPage ?_ ?_ cursor credential
  · rfl
  · funext rawUrl key
    rw [fetchPage, fetchPage, fetchPageFrom_policy]

theorem settle_policy {found : List Resolved} (h : ∀ r ∈ found, ∃ resolved, r = .ok resolved)
    (policy policy' : ItemFailure) (sofar : Resolution) :
    settle policy sofar found = settle policy' sofar found := by
  induction found generalizing sofar with
  | nil => rfl
  | cons r found ih =>
    rw [List.forall_mem_cons] at h
    obtain ⟨⟨resolved, rfl⟩, hfound⟩ := h
    cases resolved with
    | none => exact ih hfound { sofar with dropped := sofar.dropped + 1 }
    | some resolved => exact ih hfound { sofar with items := sofar.items ++ [resolved] }

theorem run_resolveAll_of_no_fault (hserves : Serves c n t.seen document items)
    (hfaults : ∀ item ∈ items, fetchFault? c document item = none) (policy : ItemFailure) :
    (resolveAll { c with itemFailure := policy } items).run.run n s t =
      (resolveAll c items).run.run n s t := by
  have hfound : foundFor c items n s t = items.map (settledFor c document) :=
    foundFor_eq_map hserves List.prefix_rfl
  have hok : ∀ r ∈ foundFor c items n s t, ∃ resolved, r = .ok resolved := by
    rw [hfound]
    exact List.forall_mem_map.mpr fun item hitem ↦ exists_settledFor_eq_ok (hfaults item hitem)
  -- The documents are asked for in the same way, and only then does the policy come into play.
  rw [run_resolveAll, run_resolveAll]
  exact congrArg (fun attempt : Attempt Resolution ↦ attempt.run.run n s (traceFor c items n s t))
    (settle_policy hok policy c.itemFailure ⟨[], 0⟩)

/-- Where no document of a page fails, a poll is the same under both policies. -/
theorem run_pollOnce_of_no_fault {page : Page} {before : Trace}
    (hpage : (readPage c cursor credential).run.run n s before = (.ok page, t))
    (hserves : Serves c n t.seen document page.items)
    (hfaults : ∀ item ∈ page.items, fetchFault? c document item = none) (policy : ItemFailure) :
    (pollOnce { c with itemFailure := policy } credential cursor).run n s before =
      (pollOnce c credential cursor).run n s before := by
  have hpage' : (readPage { c with itemFailure := policy } cursor credential).run.run n s before =
      (.ok page, t) := by
    rw [readPage_policy, hpage]
  rw [run_pollOnce_of_page hpage', run_pollOnce_of_page hpage,
    run_resolveAll_of_no_fault hserves hfaults]
  rcases (resolveAll c page.items).run.run n s t with ⟨e | resolution, u⟩ <;> rfl

/-! ## What the policy decides -/

/-- **The policy for failed documents.** Each document of a page is asked for once, whatever the
policy is and whatever becomes of the others. Items are resolved under one policy; under the other
they are not if and only if some document fails, and then on account of the first item whose
document does. Where none does, the policy makes no difference to the poll. -/
theorem run_resolveAll_policy (hserves : Serves c n t.seen document items) (s : Schedule) :
    (∃ asked, ((resolveAll c items).run.run n s t).2.seen = t.seen ++ asked ∧
      asked.Perm ((items.filterMap (documentRequest? c)).filter n.reaches)) ∧
    (c.itemFailure = .drop →
      ∃ resolution, ((resolveAll c items).run.run n s t).1 = .ok resolution) ∧
    (c.itemFailure = .propagate →
      ((∃ e, ((resolveAll c items).run.run n s t).1 = .error e) ↔
        ∃ item ∈ items, ∃ fault, fetchFault? c document item = some fault) ∧
      ∀ e, ((resolveAll c items).run.run n s t).1 = .error e →
        ∃ earlier item later fault, items = earlier ++ item :: later ∧
          (∀ other ∈ earlier, fetchFault? c document other = none) ∧
          fetchFault? c document item = some fault ∧
          e = .itemFetch (item.revision.getD "-") fault) ∧
    ((∀ item ∈ items, fetchFault? c document item = none) →
      ∀ credential cursor before page, page.items = items →
        (readPage c cursor credential).run.run n s before = (.ok page, t) →
        (pollOnce { c with itemFailure := .drop } credential cursor).run n s before =
          (pollOnce { c with itemFailure := .propagate } credential cursor).run n s before) := by
  have hfound : foundFor c items n s t = items.map (settledFor c document) :=
    foundFor_eq_map hserves List.prefix_rfl
  have hcases := run_resolveAll_cases c items n s t
  rw [hfound] at hcases
  refine ⟨?_, fun hdrop ↦ ?_, fun hpropagate ↦ ?_, ?_⟩
  · rw [seen_resolveAll]
    exact seen_traceFor c items n s t
  · rcases hcases with ⟨hpolicy, -⟩ | ⟨-, u, hrun, -⟩
    · rw [hdrop] at hpolicy
      cases hpolicy
    · exact ⟨_, congrArg Prod.fst hrun⟩
  · rcases hcases with ⟨-, revision, fault, u, hfirst, hrun, -⟩ | ⟨hnone, u, hrun, -⟩
    · obtain ⟨earlier, item, later, fault', hitems, hearlier, hfault, hevent⟩ :=
        head?_fetchDrops_settledFor.mp hfirst
      obtain ⟨rfl, rfl⟩ : revision = reportedRevision item ∧ fault = fault' := by
        simpa using hevent
      rw [hrun]
      constructor
      · have hmem : item ∈ items := by
          rw [hitems]
          exact List.mem_append_right earlier List.mem_cons_self
        exact iff_of_true ⟨_, rfl⟩ ⟨item, hmem, fault, hfault⟩
      · intro e he
        obtain rfl := Except.error.inj he
        exact ⟨earlier, item, later, fault, hitems, hearlier, hfault, rfl⟩
    · have hfaults := fetchDrops_settledFor_eq_nil_iff.mp (hnone hpropagate)
      rw [hrun]
      constructor
      · refine iff_of_false ?_ ?_
        · rintro ⟨e, ⟨⟩⟩
        · rintro ⟨item, hitem, fault, hfault⟩
          rw [hfaults item hitem] at hfault
          cases hfault
      · intro e he
        cases he
  · rintro hfaults credential cursor before page rfl hpage
    exact (run_pollOnce_of_no_fault hpage hserves hfaults .drop).trans
      (run_pollOnce_of_no_fault hpage hserves hfaults .propagate).symm

theorem run_resolveAll_policy_sample :
    ∃ item ∈ itemsOf ⟨none, some sampleEntries, none⟩, ∃ fault,
      ((resolveAll { sampleConfig with itemFailure := .propagate }
        (itemsOf ⟨none, some sampleEntries, none⟩)).run.run ⟨fun _ ↦ true, fun _ _ ↦ .failed⟩
          List.range .empty).1 = .error (.itemFetch (item.revision.getD "-") fault) := by
  have hreply : ∀ (seen : List Http.Request) (url : Url),
      (Network.mk (fun _ ↦ true) fun _ _ ↦ .failed).answer seen
        ⟨url, standardFields { sampleConfig with itemFailure := .propagate }⟩ = .failed :=
    fun _ _ ↦ rfl
  have hserves := serves_documentOf hreply Trace.empty.seen
    (itemsOf ⟨none, some sampleEntries, none⟩)
  obtain ⟨hfails, hfirst⟩ := (run_resolveAll_policy hserves List.range).2.2.1 rfl
  obtain ⟨e, herror⟩ := hfails.mpr (by
    simp only [← Option.isSome_iff_exists]
    decide +kernel)
  obtain ⟨earlier, item, later, fault, hitems, -, -, rfl⟩ := hfirst e herror
  refine ⟨item, ?_, fault, herror⟩
  rw [hitems]
  exact List.mem_append_right earlier List.mem_cons_self

end NewsWire.Poll

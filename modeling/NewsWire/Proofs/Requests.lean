import NewsWire.Proofs.Account

/-!
# What a poll asks for

A poll asks for the page of its cursor, perhaps more than once, and then for the documents of the
items. The two are told apart by what is under way: a request for a page is made alone, a request
for a document by a strand besides others. So `Dialogue.askedAlone`, which lists the requests that a
dialogue makes alone, lists those for the page, whether or not they reach the network.

Every request for the page is for the URL that the cursor means, with the key
(`asksForPage_of_mem_pollOnce`). Each document is asked for once, whatever becomes of it and of the
others (`seen_traceFor`). The network sees the requests for the page first and those for documents
after them (`seen_run_pollOnce`).
-/

namespace NewsWire.Poll

open NewsWire.Feed NewsWire.Http

variable {α β : Type} {c : Config} {rawUrl cursor credential : String} {key : Option KeyField}
  {items : List Item} {request : Http.Request} {n : Network} {s : Schedule} {t u : Trace}

/-! ## Requests made alone

That a request is made alone can be seen in the dialogue, and needs no mark on the request. It
cannot be seen in the trace, where the network has seen requests of both kinds one after another; so
`askedAlone` follows the run instead of reading what the run has left behind. -/

namespace Dialogue

/-- The requests that are made in a run while no strands are under way, in order. They count whether
or not they reach the network. -/
def askedAlone (n : Network) (s : Schedule) : Dialogue α → Trace → List Http.Request
  | .done _, _ => []
  | .tell e next, t => next.askedAlone n s (t.tell [e])
  | .wait d next, t => next.askedAlone n s { t with waits := t.waits ++ [d] }
  | .ask r next, t =>
    let (o, seen) := n.send t.seen r
    r :: (next o).askedAlone n s { t with seen }
  | .join strands next, t =>
    let (found, t) := n.join (s strands.length) strands t
    (next found).askedAlone n s t

theorem askedAlone_bind (d : Dialogue α) (f : α → Dialogue β) (t : Trace) :
    (d.bind f).askedAlone n s t =
      d.askedAlone n s t ++ (f (d.run n s t).1).askedAlone n s (d.run n s t).2 := by
  induction d generalizing t with
  | done a => rfl
  | tell e next ih => exact ih (t.tell [e])
  | wait w next ih => exact ih { t with waits := t.waits ++ [w] }
  | ask r next ih =>
    have hnext := ih (n.send t.seen r).1 { t with seen := (n.send t.seen r).2 }
    exact congrArg (r :: ·) hnext
  | join strands next ih => exact ih _ _

/-- Where no strands are joined, the network sees the requests made alone and no others. -/
theorem Joinless.seen_run {d : Dialogue α} (h : d.Joinless) (t : Trace) :
    (d.run n s t).2.seen = t.seen ++ (d.askedAlone n s t).filter n.reaches := by
  induction h generalizing t with
  | done a => exact (List.append_nil t.seen).symm
  | tell _ ih => exact ih _
  | wait _ ih => exact ih _
  | @ask r next _ ih =>
    have hnext := ih (n.send t.seen r).1 { t with seen := (n.send t.seen r).2 }
    have hfilter : ∀ rest, t.seen ++ (r :: rest).filter n.reaches =
        (n.send t.seen r).2 ++ rest.filter n.reaches := by
      intro rest
      rw [n.seen_send, List.append_assoc, ← List.filter_append, List.singleton_append]
    exact hnext.trans (hfilter _).symm

theorem OnlyTells.askedAlone_eq {d : Dialogue α} (h : d.OnlyTells) (t : Trace) :
    d.askedAlone n s t = [] := by
  induction h generalizing t with
  | done a => rfl
  | tell _ ih => exact ih _

end Dialogue

namespace Attempt

theorem askedAlone_bind_of_ok {x : Attempt α} {a : α} (h : x.run.run n s t = (.ok a, u))
    (f : α → Attempt β) :
    (x >>= f).run.askedAlone n s t = x.run.askedAlone n s t ++ (f a).run.askedAlone n s u := by
  rw [ExceptT.run_bind, Dialogue.bind_eq, Dialogue.askedAlone_bind, h]

theorem askedAlone_bind_of_error {x : Attempt α} {e : Failure}
    (h : x.run.run n s t = (.error e, u)) (f : α → Attempt β) :
    (x >>= f).run.askedAlone n s t = x.run.askedAlone n s t := by
  rw [ExceptT.run_bind, Dialogue.bind_eq, Dialogue.askedAlone_bind, h]
  exact List.append_nil _

end Attempt

/-! ## Requests for the page -/

/-- The request is one for the page of a URL, with a key. -/
structure AsksForPage (c : Config) (rawUrl : String) (key : Option KeyField)
    (request : Http.Request) : Prop where
  target_eq : Http.target rawUrl = .ok request.url
  fields_eq : request.fields = pageFields c key

theorem asksForPage_of_mem_attemptPage
    (h : request ∈ (attemptPage c rawUrl key).run.askedAlone n s t) :
    AsksForPage c rawUrl key request := by
  cases htarget : Http.target rawUrl with
  | error fault =>
    rw [attemptPage, htarget] at h
    cases h
  | ok url =>
    rw [attemptPage, htarget] at h
    obtain rfl := List.mem_singleton.mp h
    exact ⟨htarget, rfl⟩

/-- However often the page is asked for, it is the same request. -/
theorem asksForPage_of_mem_fetchPageFrom {attempt : ℕ}
    (h : request ∈ (fetchPageFrom c rawUrl key attempt).askedAlone n s t) :
    AsksForPage c rawUrl key request := by
  induction attempt using fetchPageFrom.induct c generalizing t with
  | case1 attempt ih =>
    rw [fetchPageFrom, Dialogue.askedAlone_bind, List.mem_append] at h
    rcases h with hfirst | hrest
    · exact asksForPage_of_mem_attemptPage hfirst
    · rcases hrun : (attemptPage c rawUrl key).run.run n s t with ⟨e | v, u⟩
      · rw [hrun] at hrest
        -- The next attempt is made with the same URL and key, so that the induction covers it.
        by_cases hretry : e.isRetryable && c.retryMode.shouldRetry attempt c.attemptBudget.toNat
        · simp only [dif_pos hretry] at hrest
          exact ih e hretry hrest
        · simp only [dif_neg hretry] at hrest
          cases hrest
      · rw [hrun] at hrest
        cases hrest

theorem asksForPage_of_mem_fetchAt
    (h : request ∈ (fetchAt c cursor credential).run.askedAlone n s t) :
    ∃ key, keyField c.source credential = .ok key ∧
      AsksForPage c (c.source.pageUrl cursor) (some key) request := by
  cases hurl : Url.ofString (c.source.pageUrl cursor) with
  | error fault =>
    rw [fetchAt, hurl] at h
    cases h
  | ok url =>
    cases hkey : keyField c.source credential with
    | error fault =>
      rw [fetchAt, hurl, hkey] at h
      cases h
    | ok key =>
      rw [fetchAt_of_ok hurl hkey] at h
      exact ⟨key, rfl, asksForPage_of_mem_fetchPageFrom h⟩

theorem askedAlone_readPage (c : Config) (cursor credential : String) (n : Network) (s : Schedule)
    (t : Trace) :
    (readPage c cursor credential).run.askedAlone n s t =
      (fetchAt c cursor credential).run.askedAlone n s t := by
  rcases hfetch : (fetchAt c cursor credential).run.run n s t with ⟨e | value, u⟩
  · rw [readPage, Attempt.askedAlone_bind_of_error hfetch]
  · rw [readPage, Attempt.askedAlone_bind_of_ok hfetch]
    cases hdata : PageData.decoder.ofValue value with
    | error m => exact List.append_nil _
    | ok data =>
      have htell := Attempt.onlyTells_bind
        (f := fun _ ↦ Attempt.ofExcept (.ok (pageOf c.source data)))
        (Attempt.onlyTells_lift (Dialogue.onlyTells_tellAll (entryDrops data)))
        (fun _ ↦ Attempt.onlyTells_ofExcept _)
      have hnone := htell.askedAlone_eq (n := n) (s := s) u
      rw [List.append_right_eq_self]
      exact hnone

/-! ## Requests for documents -/

/-- The request for the document of an item, if it has a rendition that can be asked for. -/
def documentRequest? (c : Config) (item : Item) : Option Http.Request :=
  (item.rendition? c.source.renditionFormat).bind fun href ↦
    (target href).toOption.map fun url ↦ ⟨url, standardFields c⟩

theorem requests_resolve (c : Config) (item : Item) :
    (resolve c item).requests = (documentRequest? c item).toList := by
  rw [documentRequest?]
  cases hrendition : item.rendition? c.source.renditionFormat with
  | none =>
    rw [resolve_of_missing hrendition]
    rfl
  | some href =>
    cases htarget : target href with
    | error fault =>
      rw [resolve_of_unfetchable hrendition htarget, Option.bind_some, htarget]
      rfl
    | ok url =>
      rw [resolve_of_fetchable hrendition htarget, Option.bind_some, htarget]
      rfl

theorem asksOnce_resolve (c : Config) (item : Item) : (resolve c item).AsksOnce := by
  cases hrendition : item.rendition? c.source.renditionFormat with
  | none =>
    rw [resolve_of_missing hrendition]
    trivial
  | some href =>
    cases htarget : target href with
    | error fault =>
      rw [resolve_of_unfetchable hrendition htarget]
      trivial
    | ok url =>
      rw [resolve_of_fetchable hrendition htarget]
      exact fun o ↦ rfl

theorem flatMap_requests_resolve (c : Config) (items : List Item) :
    (items.map (resolve c)).flatMap Strand.requests = items.filterMap (documentRequest? c) := by
  induction items with
  | nil => rfl
  | cons item items ih =>
    rw [List.map_cons, List.flatMap_cons, ih, requests_resolve]
    cases hrequest : documentRequest? c item with
    | none => rw [List.filterMap_cons_none hrequest, Option.toList_none, List.nil_append]
    | some request =>
      rw [List.filterMap_cons_some hrequest, Option.toList_some, List.singleton_append]

/-- Each document is asked for once, in whatever order. -/
theorem seen_traceFor (c : Config) (items : List Item) (n : Network) (s : Schedule) (t : Trace) :
    ∃ asked, (traceFor c items n s t).seen = t.seen ++ asked ∧
      asked.Perm ((items.filterMap (documentRequest? c)).filter n.reaches) := by
  have honce : ∀ strand ∈ items.map (resolve c), strand.AsksOnce :=
    List.forall_mem_map.mpr fun item _ ↦ asksOnce_resolve c item
  rw [← flatMap_requests_resolve]
  exact Network.perm_join (s items.length) t honce

theorem seen_resolveAll (c : Config) (items : List Item) (n : Network) (s : Schedule) (t : Trace) :
    ((resolveAll c items).run.run n s t).2.seen = (traceFor c items n s t).seen := by
  obtain ⟨result, told, hsettle⟩ :=
    (onlyTells_settle c.itemFailure ⟨[], 0⟩ (foundFor c items n s t)).exists_run
  rw [run_resolveAll, hsettle, Trace.seen_tell]

/-! ## Requests of a poll -/

theorem askedAlone_resolveAll (c : Config) (items : List Item) (n : Network) (s : Schedule)
    (t : Trace) : (resolveAll c items).run.askedAlone n s t = [] := by
  have hjoin := Attempt.run_lift (n := n) (s := s) (.joining (items.map (resolve c))) t
  rw [resolveAll, Attempt.askedAlone_bind_of_ok hjoin, (onlyTells_settle _ _ _).askedAlone_eq]
  rfl

theorem askedAlone_pollOnce (c : Config) (credential cursor : String) (n : Network) (s : Schedule)
    (t : Trace) :
    (pollOnce c credential cursor).askedAlone n s t =
      (readPage c cursor credential).run.askedAlone n s t := by
  rw [pollOnce, Dialogue.askedAlone_bind]
  rcases hpage : (readPage c cursor credential).run.run n s t with ⟨e | page, u⟩
  · rw [List.append_right_eq_self]
    rfl
  · rw [List.append_right_eq_self]
    dsimp only
    -- The documents are asked for by strands, and nothing is asked for after that.
    by_cases hitems : page.items.isEmpty
    · rw [if_pos hitems]
      rfl
    · rw [if_neg hitems, Dialogue.askedAlone_bind, askedAlone_resolveAll, List.nil_append]
      cases ((resolveAll c page.items).run.run n s u).1 <;> rfl

/-- Every request that a poll makes alone is for the page of its cursor, with its key. -/
theorem asksForPage_of_mem_pollOnce
    (h : request ∈ (pollOnce c credential cursor).askedAlone n s t) :
    ∃ key, keyField c.source credential = .ok key ∧
      AsksForPage c (c.source.pageUrl cursor) (some key) request := by
  rw [askedAlone_pollOnce, askedAlone_readPage] at h
  exact asksForPage_of_mem_fetchAt h

theorem mem_documentRequest? {request : Http.Request}
    (h : request ∈ items.filterMap (documentRequest? c)) : request.fields = standardFields c := by
  obtain ⟨item, -, hrequest⟩ := List.mem_filterMap.mp h
  obtain ⟨href, -, hhref⟩ := Option.bind_eq_some_iff.mp hrequest
  obtain ⟨url, -, rfl⟩ := Option.map_eq_some_iff.mp hhref
  rfl

/-- The network sees the requests for the page, and after them those for the documents of its
items. -/
theorem seen_run_pollOnce (c : Config) (credential cursor : String) (n : Network) (s : Schedule)
    (t : Trace) :
    ∃ documents, ((pollOnce c credential cursor).run n s t).2.seen =
        t.seen ++ ((pollOnce c credential cursor).askedAlone n s t).filter n.reaches ++ documents ∧
      ∀ request ∈ documents, request.fields = standardFields c := by
  have hread := (joinless_readPage c cursor credential).seen_run (n := n) (s := s) t
  rw [askedAlone_pollOnce, ← hread]
  rcases hpage : (readPage c cursor credential).run.run n s t with ⟨e | page, u⟩
  · refine ⟨[], ?_, List.forall_mem_nil _⟩
    rw [run_pollOnce_of_no_page hpage, List.append_nil]
  · obtain ⟨asked, hseen, hperm⟩ := seen_traceFor c page.items n s u
    obtain ⟨report, told, hconclude⟩ := (onlyTells_conclude c cursor page
      ((resolveAll c page.items).run.run n s u).1).exists_run
    refine ⟨asked, ?_, fun request hrequest ↦ ?_⟩
    · rw [run_pollOnce_of_page hpage, hconclude, Trace.seen_tell, seen_resolveAll, hseen]
    · exact mem_documentRequest? (List.mem_of_mem_filter (hperm.mem_iff.mp hrequest))

end NewsWire.Poll

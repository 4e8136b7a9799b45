import NewsWire.Proofs.Account

/-!
# The order in which documents come in

The documents of a page are under way together and come in in any order. Where the network answers a
request for a document by its URL alone, nothing of that order can be told from a poll: two
schedules lead to the same report and to the same events in the same order
(`run_pollOnce_schedule`). What they may disagree on is the order in which the network sees the
requests.

The page is read before any strand is begun, and the results of the strands are gone through after
all of them are done. So the schedule is felt only where the strands are joined, and there it leaves
no trace in their results, which are settled, nor in the events, which are told at the beginning.

The condition on the network cannot be spared. One that answers by how many requests it has seen
gives the documents of a page to whichever strand comes first, and then the order shows. Nothing is
asked of how the page itself is answered, since it is fetched by one request after another.
-/

namespace NewsWire.Poll

open NewsWire.Feed NewsWire.Http

variable {c : Config} {n : Network} {document : String → Except TransportFault String}

theorem run_resolveAll_schedule {t : Trace} {items : List Item}
    (h : Serves c n t.seen document items) (s s' : Schedule) :
    ((resolveAll c items).run.run n s t).1 = ((resolveAll c items).run.run n s' t).1 ∧
      ((resolveAll c items).run.run n s t).2.events =
        ((resolveAll c items).run.run n s' t).2.events := by
  obtain ⟨result, told, hsettle⟩ :=
    (onlyTells_settle c.itemFailure ⟨[], 0⟩ (items.map (settledFor c document))).exists_run
  rw [run_resolveAll, run_resolveAll, foundFor_eq_map h List.prefix_rfl,
    foundFor_eq_map h List.prefix_rfl, hsettle, hsettle]
  refine ⟨rfl, ?_⟩
  rw [Trace.events_tell, Trace.events_tell, events_traceFor, events_traceFor]

/-- **The order of completion cannot be observed.** Where requests for documents are answered by
their URLs alone, a poll comes to the same report and tells the same events in the same order,
whichever of its documents come in first. -/
theorem run_pollOnce_schedule {reply : Url → Outcome}
    (hreply : ∀ seen url, n.answer seen ⟨url, standardFields c⟩ = reply url)
    (credential cursor : String) (s s' : Schedule) (t : Trace) :
    ((pollOnce c credential cursor).run n s t).1 = ((pollOnce c credential cursor).run n s' t).1 ∧
      ((pollOnce c credential cursor).run n s t).2.events =
        ((pollOnce c credential cursor).run n s' t).2.events := by
  have hread := (joinless_readPage c cursor credential).run_eq (n := n) s s' t
  cases hpage : (readPage c cursor credential).run.run n s t with
  | mk result u =>
    have hpage' := hread.symm.trans hpage
    cases result with
    | error e =>
      rw [run_pollOnce_of_no_page hpage, run_pollOnce_of_no_page hpage']
      exact ⟨rfl, rfl⟩
    | ok page =>
      have hserves := serves_documentOf hreply u.seen page.items
      obtain ⟨hresolved, hevents⟩ := run_resolveAll_schedule hserves s s'
      rw [run_pollOnce_of_page hpage, run_pollOnce_of_page hpage', hresolved]
      obtain ⟨report, told, hconclude⟩ := (onlyTells_conclude c cursor page
        ((resolveAll c page.items).run.run n s' u).1).exists_run
      rw [hconclude, hconclude]
      refine ⟨rfl, ?_⟩
      rw [Trace.events_tell, Trace.events_tell, hevents]

theorem run_pollOnce_schedule_sample :
    ((pollOnce sampleConfig "key" "").run sampleNetwork List.range .empty).1 =
        ((pollOnce sampleConfig "key" "").run sampleNetwork
          (fun k ↦ (List.range k).reverse) .empty).1 ∧
      ((pollOnce sampleConfig "key" "").run sampleNetwork List.range .empty).2.events =
        ((pollOnce sampleConfig "key" "").run sampleNetwork
          (fun k ↦ (List.range k).reverse) .empty).2.events :=
  run_pollOnce_schedule (fun _ _ ↦ rfl) "key" "" List.range (fun k ↦ (List.range k).reverse) .empty

end NewsWire.Poll

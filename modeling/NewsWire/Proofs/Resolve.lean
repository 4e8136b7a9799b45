import NewsWire.Poll.Resolve
import NewsWire.Proofs.Run
import NewsWire.Proofs.Strand

/-!
# The items of a poll

Resolving the items of a page is the second stage of a poll. The strands of the items are under way
together, and their results are gone through when all of them are done.

## Accounts

`FoundFor` says what the strand of an item can come to. Of the results, some are resolved items, and
the others are drops: an item without a rendition is told while the strands are under way, an item
whose document could not be fetched when the results are gone through. All three are read off the
results alone, so that whatever the network answers, each item is counted once
(`length_resolvedItems_add`).
-/

namespace NewsWire.Poll

open NewsWire.Feed NewsWire.Http

variable {c : Config} {item : Item} {items : List Item} {href : String} {r : Resolved}
  {found : List Resolved} {n : Network} {s : Schedule} {t : Trace}

/-! ## The strand of an item -/

/-- What the strand of an item can come to. -/
inductive FoundFor (c : Config) (item : Item) : Resolved → Prop
  | missing : item.rendition? c.source.renditionFormat = none → FoundFor c item (.ok none)
  | fetched {href : String} (document : String) :
      item.rendition? c.source.renditionFormat = some href →
      FoundFor c item (.ok (some (.of item document)))
  | failed {href : String} (fault : TransportFault) :
      item.rendition? c.source.renditionFormat = some href →
      FoundFor c item (.error (.itemFetch (reportedRevision item) fault))

theorem FoundFor.of_document (h : item.rendition? c.source.renditionFormat = some href)
    (document : Except TransportFault String) : FoundFor c item (.of item document) := by
  cases document with
  | ok document => exact .fetched document h
  | error fault => exact .failed fault h

theorem resolve_of_missing (h : item.rendition? c.source.renditionFormat = none) :
    resolve c item = .tell (.itemDropped item.revision .missingRendition) (.done (.ok none)) := by
  rw [resolve, h]

theorem resolve_of_unfetchable {fault : TransportFault}
    (h : item.rendition? c.source.renditionFormat = some href)
    (htarget : target href = .error fault) :
    resolve c item = .done (.of item (.error fault)) := by
  simp only [resolve, h, textStrand, htarget]
  rfl

theorem resolve_of_fetchable {url : Url}
    (h : item.rendition? c.source.renditionFormat = some href) (htarget : target href = .ok url) :
    resolve c item = .ask ⟨url, standardFields c⟩ fun o ↦
      .done (.of item (readTextOutcome url o)) := by
  simp only [resolve, h, textStrand, htarget]
  rfl

theorem FoundFor.of_reaches (h : (resolve c item).Reaches r) : FoundFor c item r := by
  cases hrendition : item.rendition? c.source.renditionFormat with
  | none =>
    rw [resolve_of_missing hrendition] at h
    obtain _ | ⟨⟨⟩⟩ := h
    exact .missing hrendition
  | some href =>
    cases htarget : target href with
    | error fault =>
      rw [resolve_of_unfetchable hrendition htarget] at h
      cases h
      exact .of_document hrendition _
    | ok url =>
      rw [resolve_of_fetchable hrendition htarget] at h
      obtain _ | _ | ⟨o, ⟨⟩⟩ := h
      exact .of_document hrendition _

/-- Only an item without a rendition is told, and at once. -/
theorem begun_resolve_quiet (c : Config) (item : Item) : (resolve c item).begun.Quiet := by
  cases hrendition : item.rendition? c.source.renditionFormat with
  | none =>
    rw [resolve_of_missing hrendition]
    trivial
  | some href =>
    cases htarget : target href with
    | error fault =>
      rw [resolve_of_unfetchable hrendition htarget]
      trivial
    | ok url =>
      rw [resolve_of_fetchable hrendition htarget]
      exact fun o ↦ trivial

theorem told_resolve_of_missing (h : item.rendition? c.source.renditionFormat = none) :
    (resolve c item).told = [.itemDropped item.revision .missingRendition] := by
  rw [resolve_of_missing h]
  rfl

theorem told_resolve_of_rendition (h : item.rendition? c.source.renditionFormat = some href) :
    (resolve c item).told = [] := by
  cases htarget : target href with
  | error fault =>
    rw [resolve_of_unfetchable h htarget]
    rfl
  | ok url =>
    rw [resolve_of_fetchable h htarget]
    rfl

/-! ## Results and drops

The events of a stage are recomputed from its results. That they are the events that were told is
shown once, and from then on counting and ordering are questions about lists. -/

/-- What is told of the items without a rendition, in order. -/
def renditionDrops (c : Config) (items : List Item) : List Event :=
  (items.filter fun item ↦ (item.rendition? c.source.renditionFormat).isNone).map fun item ↦
    .itemDropped item.revision .missingRendition

/-- What is told of an item whose document could not be fetched. -/
def fetchDrop? : Resolved → Option Event
  | .error (.itemFetch revision fault) =>
    some (.itemDropped (some revision) (.contentFetchFailed fault))
  | _ => none

/-- What is told of the items whose documents could not be fetched, in order. -/
def fetchDrops (found : List Resolved) : List Event := found.filterMap fetchDrop?

def resolvedItems (found : List Resolved) : List ResolvedItem :=
  found.filterMap fun r ↦ r.toOption.join

@[simp] theorem resolvedItems_cons_some (resolved : ResolvedItem) (found : List Resolved) :
    resolvedItems (.ok (some resolved) :: found) = resolved :: resolvedItems found := rfl

@[simp] theorem resolvedItems_cons_none (found : List Resolved) :
    resolvedItems (.ok none :: found) = resolvedItems found := rfl

@[simp] theorem resolvedItems_cons_error (e : Failure) (found : List Resolved) :
    resolvedItems (.error e :: found) = resolvedItems found := rfl

@[simp] theorem fetchDrops_cons_ok (resolved : Option ResolvedItem) (found : List Resolved) :
    fetchDrops (.ok resolved :: found) = fetchDrops found := rfl

@[simp] theorem fetchDrops_cons_itemFetch (revision : String) (fault : TransportFault)
    (found : List Resolved) :
    fetchDrops (.error (.itemFetch revision fault) :: found) =
      .itemDropped (some revision) (.contentFetchFailed fault) :: fetchDrops found := rfl

theorem renditionDrops_cons_of_missing (h : item.rendition? c.source.renditionFormat = none) :
    renditionDrops c (item :: items) =
      .itemDropped item.revision .missingRendition :: renditionDrops c items := by
  rw [renditionDrops, List.filter_cons_of_pos (by rw [h, Option.isNone_none]), List.map_cons]
  rfl

theorem renditionDrops_cons_of_rendition
    (h : item.rendition? c.source.renditionFormat = some href) :
    renditionDrops c (item :: items) = renditionDrops c items := by
  rw [renditionDrops, List.filter_cons_of_neg (by rw [h]; simp)]
  rfl

theorem flatMap_told_resolve (c : Config) (items : List Item) :
    (items.map (resolve c)).flatMap Strand.told = renditionDrops c items := by
  induction items with
  | nil => rfl
  | cons item items ih =>
    rw [List.map_cons, List.flatMap_cons, ih]
    cases h : item.rendition? c.source.renditionFormat with
    | none =>
      rw [told_resolve_of_missing h, renditionDrops_cons_of_missing h, List.singleton_append]
    | some href =>
      rw [told_resolve_of_rendition h, renditionDrops_cons_of_rendition h, List.nil_append]

/-- Each item is resolved or dropped, and only once. -/
theorem length_resolvedItems_add (h : List.Forall₂ (FoundFor c) items found) :
    (resolvedItems found).length + (renditionDrops c items).length + (fetchDrops found).length =
      items.length := by
  induction h with
  | nil => rfl
  | @cons item r items found hr _ ih =>
    rw [List.length_cons, ← ih]
    cases hr with
    | missing hrendition =>
      rw [renditionDrops_cons_of_missing hrendition, resolvedItems_cons_none, fetchDrops_cons_ok,
        List.length_cons]
      omega
    | fetched document hrendition =>
      rw [renditionDrops_cons_of_rendition hrendition, resolvedItems_cons_some, fetchDrops_cons_ok,
        List.length_cons]
      omega
    | failed fault hrendition =>
      rw [renditionDrops_cons_of_rendition hrendition, resolvedItems_cons_error,
        fetchDrops_cons_itemFetch, List.length_cons]
      omega

/-! ## Going through the results -/

theorem onlyTells_settle (policy : ItemFailure) (sofar : Resolution) (found : List Resolved) :
    (settle policy sofar found).run.OnlyTells := by
  induction found generalizing sofar with
  | nil => exact Attempt.onlyTells_ofExcept _
  | cons r found ih =>
    rcases r with e | _ | resolved
    · by_cases he : ∃ revision fault, e = .itemFetch revision fault
      · obtain ⟨revision, fault, rfl⟩ := he
        cases policy with
        | propagate => exact Attempt.onlyTells_ofExcept _
        | drop =>
          have htell := Dialogue.OnlyTells.tell
            (e := .itemDropped (some revision) (.contentFetchFailed fault)) (.done ())
          exact Attempt.onlyTells_bind (Attempt.onlyTells_lift htell) fun _ ↦ ih _
      · rw [settle]
        · exact Attempt.onlyTells_ofExcept _
        · rintro revision fault rfl
          exact he ⟨revision, fault, rfl⟩
    · exact ih { sofar with dropped := sofar.dropped + 1 }
    · exact ih { sofar with items := sofar.items ++ [resolved] }

/-- Under this policy every item is gone through, and the failures are told. -/
theorem run_settle_drop (h : List.Forall₂ (FoundFor c) items found) (sofar : Resolution)
    (t : Trace) :
    (settle .drop sofar found).run.run n s t =
      (.ok ⟨sofar.items ++ resolvedItems found,
        sofar.dropped + (renditionDrops c items).length + (fetchDrops found).length⟩,
        t.tell (fetchDrops found)) := by
  induction h generalizing sofar t with
  | nil => simp [settle, resolvedItems, renditionDrops, fetchDrops]
  | @cons item r items found hr _ ih =>
    cases hr with
    | missing hrendition =>
      rw [settle, ih, renditionDrops_cons_of_missing hrendition, resolvedItems_cons_none,
        fetchDrops_cons_ok, List.length_cons]
      simp only [Nat.add_assoc, Nat.add_comm, Nat.add_left_comm]
    | fetched document hrendition =>
      rw [settle, ih, renditionDrops_cons_of_rendition hrendition, resolvedItems_cons_some,
        fetchDrops_cons_ok, List.append_assoc, List.singleton_append]
    | failed fault hrendition =>
      rw [settle, Attempt.run_bind_of_ok (Attempt.run_telling _ t), ih,
        renditionDrops_cons_of_rendition hrendition, resolvedItems_cons_error,
        fetchDrops_cons_itemFetch, Trace.tell_tell, List.singleton_append, List.length_cons]
      simp only [Nat.add_assoc, Nat.add_comm, Nat.add_left_comm]

/-- Under this policy nothing is told: the first failure is the result, if there is one. -/
theorem run_settle_propagate (h : List.Forall₂ (FoundFor c) items found) (sofar : Resolution)
    (t : Trace) :
    (∃ revision fault,
      (fetchDrops found).head? =
        some (.itemDropped (some revision) (.contentFetchFailed fault)) ∧
      (settle .propagate sofar found).run.run n s t = (.error (.itemFetch revision fault), t)) ∨
    fetchDrops found = [] ∧
      (settle .propagate sofar found).run.run n s t =
        (.ok ⟨sofar.items ++ resolvedItems found,
          sofar.dropped + (renditionDrops c items).length⟩, t) := by
  induction h generalizing sofar with
  | nil => exact Or.inr ⟨rfl, by simp [settle, resolvedItems, renditionDrops]⟩
  | @cons item r items found hr _ ih =>
    cases hr with
    | missing hrendition =>
      rw [settle, renditionDrops_cons_of_missing hrendition, resolvedItems_cons_none,
        fetchDrops_cons_ok, List.length_cons]
      have hrest := ih { sofar with dropped := sofar.dropped + 1 }
      rwa [Nat.add_right_comm sofar.dropped 1] at hrest
    | fetched document hrendition =>
      rw [settle, renditionDrops_cons_of_rendition hrendition, resolvedItems_cons_some,
        fetchDrops_cons_ok]
      have hrest := ih { sofar with items := sofar.items ++ [.of item document] }
      rwa [List.append_assoc, List.singleton_append] at hrest
    | failed fault hrendition =>
      exact Or.inl ⟨reportedRevision item, fault, rfl, rfl⟩

/-! ## The stage -/

/-- What the strands of items come to, under way together after a trace. -/
def foundFor (c : Config) (items : List Item) (n : Network) (s : Schedule) (t : Trace) :
    List Resolved :=
  (n.join (s items.length) (items.map (resolve c)) t).1

theorem forall₂_foundFor (c : Config) (items : List Item) (n : Network) (s : Schedule)
    (t : Trace) : List.Forall₂ (FoundFor c) items (foundFor c items n s t) := by
  have hreaches : List.Forall₂ Strand.Reaches (items.map (resolve c)) (foundFor c items n s t) :=
    n.forall₂_reaches_join (s items.length) t
  exact (List.forall₂_map_left_iff.mp hreaches).imp fun item r h ↦ .of_reaches h

/-- What has happened when the strands of items are done. -/
def traceFor (c : Config) (items : List Item) (n : Network) (s : Schedule) (t : Trace) : Trace :=
  (n.join (s items.length) (items.map (resolve c)) t).2

theorem events_traceFor (c : Config) (items : List Item) (n : Network) (s : Schedule) (t : Trace) :
    (traceFor c items n s t).events = t.events ++ renditionDrops c items := by
  rw [traceFor, Network.events_join _ _ (List.forall_mem_map.mpr fun item _ ↦
    begun_resolve_quiet c item), flatMap_told_resolve]

theorem run_resolveAll (c : Config) (items : List Item) (n : Network) (s : Schedule) (t : Trace) :
    (resolveAll c items).run.run n s t =
      (settle c.itemFailure ⟨[], 0⟩ (foundFor c items n s t)).run.run n s
        (traceFor c items n s t) := by
  have hjoin : (Attempt.lift (.joining (items.map (resolve c)))).run.run n s t =
      (.ok (foundFor c items n s t), traceFor c items n s t) := by
    rw [Attempt.run_lift, foundFor, traceFor, Dialogue.joining, Dialogue.run, List.length_map]
    rfl
  rw [resolveAll, Attempt.run_bind_of_ok hjoin]

/-- Either the poll fails on account of the first item whose document could not be fetched, or every
item is resolved or dropped. -/
theorem run_resolveAll_cases (c : Config) (items : List Item) (n : Network) (s : Schedule)
    (t : Trace) :
    (c.itemFailure = .propagate ∧ ∃ revision fault u,
      (fetchDrops (foundFor c items n s t)).head? =
        some (.itemDropped (some revision) (.contentFetchFailed fault)) ∧
      (resolveAll c items).run.run n s t = (.error (.itemFetch revision fault), u) ∧
      u.events = t.events ++ renditionDrops c items) ∨
    (c.itemFailure = .propagate → fetchDrops (foundFor c items n s t) = []) ∧ ∃ u,
      (resolveAll c items).run.run n s t =
        (.ok ⟨resolvedItems (foundFor c items n s t),
          (renditionDrops c items).length + (fetchDrops (foundFor c items n s t)).length⟩, u) ∧
      u.events =
        t.events ++ renditionDrops c items ++ fetchDrops (foundFor c items n s t) := by
  have hfound := forall₂_foundFor c items n s t
  have hevents := events_traceFor c items n s t
  rw [run_resolveAll]
  cases hpolicy : c.itemFailure with
  | drop =>
    refine Or.inr ⟨nofun, (traceFor c items n s t).tell (fetchDrops (foundFor c items n s t)),
      ?_, ?_⟩
    · rw [run_settle_drop hfound, List.nil_append, Nat.zero_add]
    · rw [Trace.events_tell, hevents]
  | propagate =>
    obtain ⟨revision, fault, hfirst, hsettle⟩ | ⟨hnone, hsettle⟩ :=
      run_settle_propagate (n := n) (s := s) hfound ⟨[], 0⟩ (traceFor c items n s t)
    · exact Or.inl ⟨rfl, revision, fault, _, hfirst, hsettle, hevents⟩
    · refine Or.inr ⟨fun _ ↦ hnone, traceFor c items n s t, ?_, ?_⟩
      · rw [hsettle, hnone, List.nil_append, Nat.zero_add, List.length_nil, Nat.add_zero]
      · rw [hevents, hnone, List.append_nil]

theorem run_resolveAll_nil (c : Config) (n : Network) (s : Schedule) (t : Trace) :
    (resolveAll c []).run.run n s t = (.ok ⟨[], 0⟩, t) := by
  have hjoin : (Attempt.lift (.joining ([] : List (Strand Resolved)))).run.run n s t =
      (.ok [], t) := by
    rw [Attempt.run_lift, Dialogue.joining, Dialogue.run, Network.join_nil]
    rfl
  rw [resolveAll, List.map_nil, Attempt.run_bind_of_ok hjoin]
  rfl

/-! ## Settled documents

Where nothing is known of the network, the results are only in reach of their strands. A statement
about the payloads of a poll needs more: `Serves` says that the document of an address is the same
whatever else the network has seen, and then each result is known before the poll begins. -/

/-- Once the network has seen some requests, fetching the document of an item comes to what the
address of the document says, whatever else the network has seen. -/
def Serves (c : Config) (n : Network) (since : List Http.Request)
    (document : String → Except TransportFault String) (items : List Item) : Prop :=
  ∀ item ∈ items, ∀ href, item.rendition? c.source.renditionFormat = some href →
    ∀ s v, since <+: v.seen → ((fetchText c href).run n s v).1 = document href

/-- What the strand of an item comes to, given the outcome of each document. -/
def settledFor (c : Config) (document : String → Except TransportFault String) (item : Item) :
    Resolved :=
  match item.rendition? c.source.renditionFormat with
  | none => .ok none
  | some href => .of item (document href)

variable {since : List Http.Request} {document : String → Except TransportFault String}

theorem comesTo_resolve
    (h : ∀ href, item.rendition? c.source.renditionFormat = some href →
      ∀ s v, since <+: v.seen → ((fetchText c href).run n s v).1 = document href) :
    (resolve c item).ComesTo n since (settledFor c document item) := by
  rw [settledFor]
  cases hrendition : item.rendition? c.source.renditionFormat with
  | none =>
    rw [resolve_of_missing hrendition]
    rfl
  | some href =>
    have hfetch : ∀ seen, since <+: seen →
        ((textStrand c href).finish n ⟨seen, [], []⟩).1 = document href := fun seen hseen ↦ by
      rw [← h href hrendition (fun _ ↦ []) ⟨seen, [], []⟩ hseen, fetchText,
        Dialogue.run_ofStrand]
    cases htarget : target href with
    | error fault =>
      rw [resolve_of_unfetchable hrendition htarget]
      have hdocument := hfetch since List.prefix_rfl
      rw [textStrand, htarget] at hdocument
      exact congrArg (Resolved.of item) hdocument
    | ok url =>
      rw [resolve_of_fetchable hrendition htarget]
      intro seen hseen
      have hdocument := hfetch seen hseen
      rw [textStrand, htarget] at hdocument
      exact congrArg (Resolved.of item) hdocument

theorem foundFor_eq_map (h : Serves c n since document items) (ht : since <+: t.seen) :
    foundFor c items n s t = items.map (settledFor c document) := by
  refine Network.join_eq _ _ (List.forall₂_map_left_iff.mpr ?_) ht
  exact List.forall₂_map_right_iff.mpr
    (List.forall₂_same.mpr fun item hitem ↦ comesTo_resolve (h item hitem))

/-- The document of an address, when the replies to requests for documents depend on the URL
alone. -/
def documentOf (c : Config) (n : Network) (reply : Url → Outcome) (href : String) :
    Except TransportFault String :=
  match target href with
  | .error fault => .error fault
  | .ok url =>
    readTextOutcome url (if n.reaches ⟨url, standardFields c⟩ then reply url else .failed)

theorem serves_documentOf {reply : Url → Outcome}
    (h : ∀ seen url, n.answer seen ⟨url, standardFields c⟩ = reply url)
    (since : List Http.Request) (items : List Item) :
    Serves c n since (documentOf c n reply) items := by
  intro item _ href _ s v _
  rw [fetchText, Dialogue.run_ofStrand, textStrand, documentOf]
  cases target href with
  | error fault => rfl
  | ok url =>
    simp only [Strand.finish, Network.send, h]
    split <;> rfl

end NewsWire.Poll

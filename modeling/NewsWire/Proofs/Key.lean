import NewsWire.Proofs.Caller
import NewsWire.Proofs.Translation

/-!
# Where the key goes

The key to the feed is a credential of the caller, and it is nobody else's business. It goes with
the requests for the page, and with no others: the requests for documents go to addresses that the
feed names, and carry the fields of all requests only.

The key has no other effect either. With two keys that can be sent, a poll makes the same requests
but for the key; so if the network does not look at it (`Network.Ignores`), the two polls cannot be
told apart (`Poller.run_poll_key`). This is seen by blanking out the key: in this translation there
is one dialogue for all keys (`translated_pollOnce`).

With a key that cannot be sent, or a cursor that is no URL, nothing is done at all.

A statement about two runs is needed because a secret may leave by ways on which no request carries
it: by how often something is asked, or by which event is told. Of a network that does look at the
key nothing can be said, since a feed may well answer two subscribers differently.
-/

namespace NewsWire.Poll

open NewsWire.Feed NewsWire.Http

variable {c : Config} {rawUrl cursor credential key key' name : String} {k k' : KeyField}
  {request : Http.Request} {f : Http.Request → Http.Request} {n : Network} {s : Schedule}
  {t t' : Trace}

/-! ## The field of the key -/

def keyName (source : Source) : String := String.ofList (source.keyField.toList.map Char.toLower)

/-- Whether there is a name for the field does not depend on the key. -/
theorem keyField_cases (source : Source) :
    (∀ credential, keyField source credential = .error .badKeyField) ∨
      ∀ credential, keyField source credential =
        if isFieldValue credential then .ok ⟨keyName source, credential⟩
        else .error .badCredential := by
  cases hname : fieldName? source.keyField with
  | none =>
    refine Or.inl fun credential ↦ ?_
    rw [keyField, hname]
  | some name =>
    have hlower : name = keyName source := by
      rw [fieldName?] at hname
      split at hname
      · exact (Option.some.inj hname).symm
      · cases hname
    refine Or.inr fun credential ↦ ?_
    rw [keyField, hname, hlower]

theorem eq_of_keyField {source : Source} (h : keyField source credential = .ok k) :
    k = ⟨keyName source, credential⟩ ∧ isFieldValue credential = true := by
  obtain hfield | hfield := keyField_cases source
  · rw [hfield] at h
    cases h
  · rw [hfield] at h
    by_cases hvalue : isFieldValue credential = true
    · rw [if_pos hvalue] at h
      exact ⟨(Except.ok.inj h).symm, hvalue⟩
    · rw [if_neg hvalue] at h
      cases h

theorem setField_of_lookup_eq_none {value : String} {fields : List (String × String)}
    (h : fields.lookup name = none) : setField name value fields = fields ++ [(name, value)] := by
  induction fields with
  | nil => rfl
  | cons field fields ih =>
    obtain ⟨other, v⟩ := field
    rw [List.lookup_cons] at h
    by_cases hother : other = name
    · rw [hother, beq_self_eq_true] at h
      cases h
    · rw [beq_eq_false_iff_ne.mpr (Ne.symm hother)] at h
      rw [setField, if_neg hother, ih h, List.cons_append]

/-- A key field with a name of its own is added to the fields of all requests. -/
theorem pageFields_eq (h : (standardFields c).lookup name = none) (value : String) :
    pageFields c (some ⟨name, value⟩) = standardFields c ++ [(name, value)] :=
  setField_of_lookup_eq_none h

/-! ## Blanking out a field -/

def blanked (name : String) (r : Http.Request) : Http.Request :=
  { r with fields := r.fields.map fun field ↦ if field.1 = name then (name, "") else field }

@[simp] theorem blanked_blanked (name : String) (r : Http.Request) :
    blanked name (blanked name r) = blanked name r := by
  have hfield : ∀ field : String × String,
      (if (if field.1 = name then (name, "") else field).1 = name then (name, "")
        else if field.1 = name then (name, "") else field) =
      if field.1 = name then (name, "") else field := by
    intro field
    by_cases hname : field.1 = name <;> simp [hname]
  rw [blanked, blanked, List.map_map]
  exact congrArg _ (List.map_congr_left fun field _ ↦ hfield field)

/-- The network does not look at the values of a field: what becomes of a request does not depend on
them, neither on those in the request nor on those in the requests before it. -/
def Network.Ignores (n : Network) (name : String) : Prop :=
  ∀ seen seen' r r', seen.map (blanked name) = seen'.map (blanked name) →
    blanked name r = blanked name r' →
    n.reaches r = n.reaches r' ∧ n.answer seen r = n.answer seen' r'

/-- To such a network it makes no difference if the field is blanked out. -/
theorem Network.Ignores.through_eq (h : n.Ignores name) : n.through (blanked name) = n := by
  have hseen : ∀ seen : List Http.Request,
      (seen.map (blanked name)).map (blanked name) = seen.map (blanked name) := by
    intro seen
    rw [List.map_map]
    exact List.map_congr_left fun r _ ↦ blanked_blanked name r
  have hsame : ∀ seen r, n.reaches (blanked name r) = n.reaches r ∧
      n.answer (seen.map (blanked name)) (blanked name r) = n.answer seen r :=
    fun seen r ↦ h _ _ _ _ (hseen seen) (blanked_blanked name r)
  have hreaches : (n.through (blanked name)).reaches = n.reaches :=
    funext fun r ↦ (hsame [] r).1
  have hanswer : (n.through (blanked name)).answer = n.answer :=
    funext fun seen ↦ funext fun r ↦ (hsame seen r).2
  exact congrArg₂ Network.mk hreaches hanswer

theorem blanked_pageFields (h : (standardFields c).lookup name = none) (url : Url) :
    blanked name ⟨url, pageFields c (some ⟨name, key⟩)⟩ =
      blanked name ⟨url, pageFields c (some ⟨name, key'⟩)⟩ := by
  rw [pageFields_eq h, pageFields_eq h, blanked, blanked]
  simp only [List.map_append, List.map_cons, List.map_nil, if_true]

/-! ## One dialogue for all keys -/

theorem translated_attemptPage {key key' : Option KeyField}
    (h : ∀ url, f ⟨url, pageFields c key⟩ = f ⟨url, pageFields c key'⟩) :
    (attemptPage c rawUrl key).run.translated f = (attemptPage c rawUrl key').run.translated f := by
  rw [attemptPage, attemptPage]
  cases Http.target rawUrl with
  | error fault => rfl
  | ok url => exact congrArg (Dialogue.ask · _) (h url)

theorem translated_fetchPageFrom {key key' : Option KeyField}
    (h : ∀ url, f ⟨url, pageFields c key⟩ = f ⟨url, pageFields c key'⟩) (attempt : ℕ) :
    (fetchPageFrom c rawUrl key attempt).translated f =
      (fetchPageFrom c rawUrl key' attempt).translated f := by
  induction attempt using fetchPageFrom.induct c with
  | case1 attempt ih =>
    conv_lhs => rw [fetchPageFrom, Dialogue.translated_bind, translated_attemptPage h]
    conv_rhs => rw [fetchPageFrom, Dialogue.translated_bind]
    refine congrArg (Dialogue.bind _) (funext fun result ↦ ?_)
    rcases result with e | v
    · by_cases hretry : e.isRetryable && c.retryMode.shouldRetry attempt c.attemptBudget.toNat
      · simp only [dif_pos hretry, Dialogue.translated, ih e hretry]
      · simp only [dif_neg hretry]
    · rfl

theorem translated_fetchAt (hname : (standardFields c).lookup (keyName c.source) = none)
    (hkey : isFieldValue key = true) (hkey' : isFieldValue key' = true) :
    (fetchAt c cursor key).run.translated (blanked (keyName c.source)) =
      (fetchAt c cursor key').run.translated (blanked (keyName c.source)) := by
  cases hurl : Url.ofString (c.source.pageUrl cursor) with
  | error fault =>
    rw [fetchAt, fetchAt, hurl]
    rfl
  | ok url =>
    obtain hfield | hfield := keyField_cases c.source
    -- Without a name for the field nothing is asked for, with whatever key.
    · rw [fetchAt, fetchAt, hurl, hfield, hfield]
    · have hok := (hfield key).trans (if_pos hkey)
      have hok' := (hfield key').trans (if_pos hkey')
      rw [fetchAt_of_ok hurl hok, fetchAt_of_ok hurl hok']
      exact translated_fetchPageFrom (blanked_pageFields hname) 0

theorem translated_pollOnce (cursor : String)
    (hname : (standardFields c).lookup (keyName c.source) = none)
    (hkey : isFieldValue key = true) (hkey' : isFieldValue key' = true) :
    (pollOnce c key cursor).translated (blanked (keyName c.source)) =
      (pollOnce c key' cursor).translated (blanked (keyName c.source)) := by
  rw [pollOnce, pollOnce, Dialogue.translated_bind, Dialogue.translated_bind, readPage, readPage,
    ExceptT.run_bind, ExceptT.run_bind, Dialogue.bind_eq, Dialogue.bind_eq,
    Dialogue.translated_bind, Dialogue.translated_bind, translated_fetchAt hname hkey hkey']

/-! ## Polls with a key -/

/-- The requests for the page carry the key, and nothing else besides the fields of all requests. -/
theorem fields_of_mem_askedAlone (hname : (standardFields c).lookup (keyName c.source) = none)
    (h : request ∈ (pollOnce c key cursor).askedAlone n s t) :
    request.fields = standardFields c ++ [(keyName c.source, key)] := by
  obtain ⟨field, hfield, hasks⟩ := asksForPage_of_mem_pollOnce h
  obtain ⟨rfl, -⟩ := eq_of_keyField hfield
  rw [hasks.fields_eq, pageFields_eq hname]

/-- With a key that cannot be sent or a cursor that is no URL, a poll does nothing. -/
theorem pollOnce_of_unfit
    (h : isFieldValue key = false ∨
      ∃ fault, Url.ofString (c.source.pageUrl cursor) = .error fault) :
    ∃ e, pollOnce c key cursor = .done ⟨.fetchingPage, .error e⟩ := by
  cases hurl : Url.ofString (c.source.pageUrl cursor) with
  | error fault =>
    refine ⟨.invalidCursor fault, ?_⟩
    rw [pollOnce, readPage, fetchAt, hurl]
    rfl
  | ok url =>
    cases hfield : keyField c.source key with
    | error fault =>
      refine ⟨.config fault, ?_⟩
      rw [pollOnce, readPage, fetchAt, hurl, hfield]
      rfl
    | ok k =>
      have hvalue := (eq_of_keyField hfield).2
      rw [hurl, hvalue] at h
      obtain hfalse | ⟨fault, hfault⟩ := h
      · cases hfalse
      · cases hfault

/-- What the runs of a poll with two keys have to do with each other, if the network does not look
at the key: they come to the same report and leave the same trace but for the key. The requests for
the page carry the key, and those after them do not. -/
theorem exists_run_pollOnce_key (hname : (standardFields c).lookup (keyName c.source) = none)
    (hblind : n.Ignores (keyName c.source)) (hkey : isFieldValue key = true)
    (hkey' : isFieldValue key' = true)
    (hstart : t.translated (blanked (keyName c.source)) =
      t'.translated (blanked (keyName c.source))) :
    ∃ report u u' pages pages' documents,
      (pollOnce c key cursor).run n s t = (report, u) ∧
      (pollOnce c key' cursor).run n s t' = (report, u') ∧
      u.translated (blanked (keyName c.source)) = u'.translated (blanked (keyName c.source)) ∧
      (pollOnce c key cursor).askedAlone n s t = pages ∧
      (pollOnce c key' cursor).askedAlone n s t' = pages' ∧
      pages.map (blanked (keyName c.source)) = pages'.map (blanked (keyName c.source)) ∧
      (∀ request ∈ pages, request.fields = standardFields c ++ [(keyName c.source, key)]) ∧
      u.seen = t.seen ++ pages.filter n.reaches ++ documents ∧
      ∀ request ∈ documents, request.field? (keyName c.source) = none := by
  have hdialogue := translated_pollOnce cursor hname hkey hkey'
  obtain ⟨hreport, htrace, hpages⟩ :=
    Dialogue.run_eq_of_translated (s := s) hblind.through_eq hdialogue hstart
  obtain ⟨documents, hseen, hdocuments⟩ := seen_run_pollOnce c key cursor n s t
  rcases hrun : (pollOnce c key cursor).run n s t with ⟨report, u⟩
  rcases hrun' : (pollOnce c key' cursor).run n s t' with ⟨report', u'⟩
  rw [hrun, hrun'] at hreport htrace
  rw [hrun] at hseen
  obtain rfl : report = report' := hreport
  refine ⟨report, u, u', _, _, documents, rfl, rfl, htrace, rfl, rfl, hpages,
    fun request hrequest ↦ fields_of_mem_askedAlone hname hrequest, hseen, ?_⟩
  intro request hrequest
  rw [Http.Request.field?, hdocuments request hrequest]
  exact hname

namespace Poller

variable {p : Poller} {r : Request}

theorem poll_withCredential (p : Poller) (r : Request) (key : String) :
    p.poll { r with credential := key } = pollOnce (p.applying r).config key r.cursor := by
  have hconfig : (p.applying { r with credential := key }).config = (p.applying r).config := rfl
  rw [poll_eq, hconfig]

/-- **The key is confined to the requests for the page.** With any two keys that can be sent, polls
against a network that does not look at the key come to the same report, tell and wait the same,
and make the same requests but for the key. Each request for the page, reached or not, carries the
key. The network sees these, and then requests that carry no key. With a key that cannot be sent, or
a cursor that is no URL, a poll fails and nothing happens. -/
theorem run_poll_key (hname : (standardFields p.config).lookup (keyName p.config.source) = none)
    (hblind : n.Ignores (keyName p.config.source)) (hkey : isFieldValue key = true)
    (hkey' : isFieldValue key' = true)
    (hstart : t.translated (blanked (keyName p.config.source)) =
      t'.translated (blanked (keyName p.config.source))) (s : Schedule) :
    (∃ report u u' pages pages' documents,
      (p.poll { r with credential := key }).run n s t = (report, u) ∧
      (p.poll { r with credential := key' }).run n s t' = (report, u') ∧
      u.translated (blanked (keyName p.config.source)) =
        u'.translated (blanked (keyName p.config.source)) ∧
      (p.poll { r with credential := key }).askedAlone n s t = pages ∧
      (p.poll { r with credential := key' }).askedAlone n s t' = pages' ∧
      pages.map (blanked (keyName p.config.source)) =
        pages'.map (blanked (keyName p.config.source)) ∧
      (∀ request ∈ pages,
        request.fields = standardFields p.config ++ [(keyName p.config.source, key)]) ∧
      u.seen = t.seen ++ pages.filter n.reaches ++ documents ∧
      ∀ request ∈ documents, request.field? (keyName p.config.source) = none) ∧
    ∀ r' : Request, isFieldValue r'.credential = false ∨
        (∃ fault, Url.ofString (p.config.source.pageUrl r'.cursor) = .error fault) →
      ∃ e, (p.poll r').run n s t = (⟨.fetchingPage, .error e⟩, t) ∧
        (p.poll r').askedAlone n s t = [] := by
  -- The changes of a request leave the source and the fields of all requests as they are.
  have hsource : ∀ r' : Request, (p.applying r').config.source = p.config.source := fun _ ↦ rfl
  have hfields : standardFields (p.applying r).config = standardFields p.config := rfl
  constructor
  · rw [poll_withCredential, poll_withCredential]
    rw [← hfields, ← hsource r] at hname
    rw [← hsource r] at hblind hstart
    rw [← hfields, ← hsource r]
    exact exists_run_pollOnce_key hname hblind hkey hkey' hstart
  · intro r' hunfit
    rw [← hsource r'] at hunfit
    obtain ⟨e, he⟩ := pollOnce_of_unfit hunfit
    refine ⟨e, ?_⟩
    rw [poll_eq, he]
    exact ⟨rfl, rfl⟩

theorem ignores_sampleNetwork (name : String) : sampleNetwork.Ignores name := by
  intro seen seen' r r' _ hblanked
  have hurl : (blanked name r).url = (blanked name r').url := congrArg Http.Request.url hblanked
  exact ⟨rfl, congrArg sampleReply hurl⟩

theorem run_poll_key_sample :
    ∃ report u u',
      (samplePoller.poll ⟨"key", "", none, none⟩).run sampleNetwork List.range .empty =
        (report, u) ∧
      (samplePoller.poll ⟨"another", "", none, none⟩).run sampleNetwork List.range .empty =
        (report, u') ∧
      u.translated (blanked "x-api-key") = u'.translated (blanked "x-api-key") := by
  have hname : keyName samplePoller.config.source = "x-api-key" := by decide +kernel
  obtain ⟨⟨report, u, u', _, _, _, hrun, hrun', htrace, -⟩, -⟩ :=
    @run_poll_key "key" "another" sampleNetwork .empty .empty samplePoller
      ⟨"", "", none, none⟩ (by decide +kernel) (ignores_sampleNetwork _) (by decide +kernel)
      (by decide +kernel) rfl List.range
  rw [hname] at htrace
  exact ⟨report, u, u', hrun, hrun', htrace⟩

end Poller

end NewsWire.Poll

import NewsWire.Proofs.Body
import NewsWire.Proofs.Reading

/-!
# Documents that are cut off

A document may be cut off anywhere: inside a tag, a quotation, a comment, a text that is captured or
a block that is open. What is found in the part that is left is found in the whole document too.

Where markup ends does not depend on what follows it, so both are read as the same tokens up to the
cut (`nextToken_append`). At the cut one of three things happens. The part ends inside markup and
gives no token for it. It ends inside a run of text, which is shorter than in the whole document
(`exists_common_events`). Or its reading has stopped before the cut, at a fault that is there
whatever follows, and the whole document is read no further (`eventsWithin_append_of_broken`).

A text at the cut is the only event that differs, and it does nothing to the content: it goes to the
captured text and to the open block, and both count only once they are closed. From there on the
walk through the whole document keeps what it has. That is `Walk.Keeps`, and it rests on one
invariant: a field whose text is being captured has not been found yet (`Walk.Fresh`).
-/

namespace NewsWire.Markup

/-! ## Tokens in front of more text -/

theorem splitTag_append {quote : Option Char} {cs t rest : List Char}
    (h : splitTag quote cs = some (t, rest)) (more : List Char) :
    splitTag quote (cs ++ more) = some (t, rest ++ more) := by
  obtain ⟨rfl, hquote⟩ := splitTag_eq_some_iff.mp h
  refine splitTag_eq_some_iff.mpr ⟨?_, hquote⟩
  rw [List.append_assoc, List.cons_append]

theorem splitMarkup_append_right {isEnd : List Char → Bool} {passed cs t rest : List Char}
    (h : splitMarkup isEnd passed cs = some (t, rest)) (more : List Char) :
    splitMarkup isEnd passed (cs ++ more) = some (t, rest ++ more) := by
  induction cs generalizing passed with
  | nil => cases h
  | cons c cs ih =>
    rw [splitMarkup] at h
    rw [List.cons_append, splitMarkup]
    split at h
    · next hc =>
      obtain ⟨rfl, rfl⟩ := Prod.mk.inj (Option.some.inj h)
      rw [if_pos hc]
    · next hc =>
      rw [if_neg hc]
      exact ih h

/-- The step at the beginning of a text that has more after it. -/
def Step.followedBy (more : List Char) : Step → Step
  | .next token rest => .next token (rest ++ more)
  | step => step

theorem Step.ofSplit_append {read : List Char → Except Fault Token}
    {split split' : Option (List Char × List Char)} {more : List Char}
    (hsplit : ∀ t rest, split = some (t, rest) → split' = some (t, rest ++ more))
    (h : Step.ofSplit read split ≠ .stuck .unfinished) :
    Step.ofSplit read split' = (Step.ofSplit read split).followedBy more := by
  cases split with
  | none => exact absurd rfl h
  | some s =>
    obtain ⟨t, rest⟩ := s
    rw [hsplit t rest rfl, Step.ofSplit, Step.ofSplit]
    cases read t <;> rfl

theorem nextMarkup_declaration {c : Char} (h : c ≠ '-' ∧ c ≠ '[' ∧ c ≠ 'D' ∧ c ≠ 'd')
    (cs : List Char) : nextMarkup ('!' :: c :: cs) = .stuck .badDeclaration := by
  obtain ⟨hcomment, hliteral, hdocument, hdocument'⟩ := h
  rw [nextMarkup.eq_def]
  simp only
  split
  · next hcs => cases hcs
  · next hcs => exact absurd (List.cons.inj hcs).1 hcomment
  · next hcs => exact absurd (List.cons.inj hcs).1 hliteral
  · next hcs => exact absurd (List.cons.inj hcs).1 hdocument
  · next hcs => exact absurd (List.cons.inj hcs).1 hdocument'
  · rfl

theorem nextMarkup_append {cs : List Char} (h : nextMarkup cs ≠ .stuck .unfinished)
    (more : List Char) : nextMarkup (cs ++ more) = (nextMarkup cs).followedBy more := by
  have hmarkup : ∀ isEnd t rest, splitMarkup isEnd [] cs = some (t, rest) →
      splitMarkup isEnd [] (cs ++ more) = some (t, rest ++ more) :=
    fun _ _ _ hs ↦ splitMarkup_append_right hs more
  -- The first character, and after an exclamation mark the second, say where to look for the end.
  rw [nextMarkup.eq_def] at h
  rw [nextMarkup.eq_def cs]
  split at h
  · exact absurd rfl h
  · split at h
    · exact absurd rfl h
    · exact Step.ofSplit_append (hmarkup _) h
    · exact Step.ofSplit_append (hmarkup _) h
    · exact Step.ofSplit_append (hmarkup _) h
    · exact Step.ofSplit_append (hmarkup _) h
    · next rest hne hcomment hliteral hdocument hdocument' =>
      obtain ⟨c, rest, rfl⟩ := List.exists_cons_of_ne_nil hne
      refine nextMarkup_declaration ⟨?_, ?_, ?_, ?_⟩ (rest ++ more)
      · rintro rfl
        exact hcomment rest rfl
      · rintro rfl
        exact hliteral rest rfl
      · rintro rfl
        exact hdocument rest rfl
      · rintro rfl
        exact hdocument' rest rfl
  · exact Step.ofSplit_append (hmarkup _) h
  · exact Step.ofSplit_append (fun _ _ hs ↦ splitTag_append hs more) h
  · next hne hdeclaration hinstruction hclose =>
    obtain ⟨c, cs, rfl⟩ := List.exists_cons_of_ne_nil hne
    have hc : c ≠ '!' ∧ c ≠ '?' ∧ c ≠ '/' := by
      refine ⟨?_, ?_, ?_⟩
      · rintro rfl
        exact hdeclaration cs rfl
      · rintro rfl
        exact hinstruction cs rfl
      · rintro rfl
        exact hclose cs rfl
    rw [List.cons_append, nextMarkup_tag hc]
    exact Step.ofSplit_append (fun _ _ hs ↦ splitTag_append hs more) h

theorem nextToken_append {cs rest : List Char} {token : Token}
    (h : nextToken cs = .next token rest) (more : List Char) :
    nextToken (cs ++ more) = .next token (rest ++ more) ∨
      (∃ raw, token = .text raw) ∧ rest = [] := by
  cases cs with
  | nil => cases h
  | cons c cs =>
    rw [nextToken] at h
    split at h
    · next hc =>
      left
      rw [List.cons_append, nextToken, if_pos hc, nextMarkup_append (by simp [h]), h,
        Step.followedBy]
    · next hc =>
      obtain ⟨rfl, rfl⟩ := Step.next.inj h
      by_cases hend : (c :: cs).dropWhile (· != '<') = []
      · exact .inr ⟨⟨_, rfl⟩, hend⟩
      · have hshort : ((c :: cs).takeWhile (· != '<')).length ≠ (c :: cs).length := by
          intro hlength
          have happend := congrArg List.length
            (List.takeWhile_append_dropWhile (p := (· != '<')) (l := c :: cs))
          rw [List.length_append, hlength, Nat.add_eq_left, List.length_eq_zero_iff] at happend
          exact hend happend
        left
        rw [List.cons_append, nextToken, if_neg hc, ← List.cons_append, List.takeWhile_append,
          if_neg hshort, List.dropWhile_append, if_neg (by simpa using hend)]

theorem nextToken_append_of_stuck {cs : List Char} {fault : Fault}
    (h : nextToken cs = .stuck fault) (hfault : fault ≠ .unfinished) (more : List Char) :
    nextToken (cs ++ more) = .stuck fault := by
  cases cs with
  | nil => cases h
  | cons c cs =>
    rw [nextToken] at h
    split at h
    · next hc =>
      rw [List.cons_append, nextToken, if_pos hc, nextMarkup_append (by simp [h, hfault]), h]
      rfl
    · cases h

/-! ## Events in front of more text

The comparison is by the events that both readings have in common and by what the shorter one has
besides. Since a run of text at the cut may go on, the shorter reading may have one event that is
not among those of the longer one, and no more. -/

/-- A fault that is not the end of the text is there whatever follows. -/
theorem eventsWithin_append_of_broken {names : OpenNames} {cs : List Char} {fault : Fault}
    (h : (eventsWithin names cs).2 = .broken fault) (hfault : fault ≠ .unfinished)
    (more : List Char) : eventsWithin names (cs ++ more) = eventsWithin names cs := by
  induction names, cs using eventsWithin.induct with
  | case1 names cs hn =>
    rw [eventsWithin_eq, hn] at h
    cases h
  | case2 names cs fault' hn =>
    rw [eventsWithin_of_stuck hn] at h ⊢
    obtain rfl := Ending.broken.inj h
    rw [eventsWithin_of_stuck (nextToken_append_of_stuck hn hfault more)]
  | case3 names cs token rest hn _ fault' hafter =>
    obtain happend | ⟨⟨raw, rfl⟩, -⟩ := nextToken_append hn more
    · rw [eventsWithin_of_fault hn hafter, eventsWithin_of_fault happend hafter]
    · cases hafter
  | case4 names cs token rest hn _ names' hafter _ _ _ ih =>
    rw [eventsWithin_of_next hn hafter] at h ⊢
    obtain happend | ⟨-, rfl⟩ := nextToken_append hn more
    · rw [eventsWithin_of_next happend hafter, ih h]
    · rw [eventsWithin_nil] at h
      cases h

/-- Up to the cut the events are the same. What is left of the shorter reading is at most a run of
text. -/
theorem exists_common_events (names : OpenNames) (cs more : List Char) :
    ∃ common last tail, (eventsWithin names cs).1 = common ++ last ∧
      (eventsWithin names (cs ++ more)).1 = common ++ tail ∧
      (last = [] ∨ ∃ raw, last = [.text raw]) := by
  induction names, cs using eventsWithin.induct with
  | case1 names cs hn =>
    refine ⟨[], [], _, ?_, rfl, .inl rfl⟩
    rw [eventsWithin_eq, hn, List.append_nil]
  | case2 names cs fault hn =>
    refine ⟨[], [], _, ?_, rfl, .inl rfl⟩
    rw [eventsWithin_of_stuck hn, List.append_nil]
  | case3 names cs token rest hn _ fault hafter =>
    refine ⟨[], [], _, ?_, rfl, .inl rfl⟩
    rw [eventsWithin_of_fault hn hafter, List.append_nil]
  | case4 names cs token rest hn _ names' hafter _ _ _ ih =>
    rw [eventsWithin_of_next hn hafter]
    obtain happend | ⟨⟨raw, rfl⟩, rfl⟩ := nextToken_append hn more
    · obtain ⟨common, last, tail, hcs, hmore, hlast⟩ := ih
      rw [eventsWithin_of_next happend hafter]
      exact ⟨token :: common, last, tail, by rw [hcs, List.cons_append],
        by rw [hmore, List.cons_append], hlast⟩
    · rw [eventsWithin_nil]
      exact ⟨[], [.text raw], _, rfl, rfl, .inr ⟨raw, rfl⟩⟩

theorem withoutMark_append {document : List Char} (h : document ≠ []) (more : List Char) :
    withoutMark (document ++ more) = withoutMark document ++ more := by
  obtain ⟨c, cs, rfl⟩ := List.exists_cons_of_ne_nil h
  rw [List.cons_append, withoutMark, withoutMark]
  split
  · rfl
  · rw [List.cons_append]

theorem events_nil : events [] = ([], .complete) := eventsWithin_nil []

theorem events_append_of_broken {document : List Char} {fault : Fault}
    (h : (events document).2 = .broken fault) (hfault : fault ≠ .unfinished) (more : List Char) :
    events (document ++ more) = events document := by
  have hne : document ≠ [] := by
    rintro rfl
    rw [events_nil] at h
    cases h
  rw [events, withoutMark_append hne]
  exact eventsWithin_append_of_broken h hfault more

theorem exists_common_events_of_document (document more : List Char) :
    ∃ common last tail, (events document).1 = common ++ last ∧
      (events (document ++ more)).1 = common ++ tail ∧
      (last = [] ∨ ∃ raw, last = [.text raw]) := by
  by_cases hne : document = []
  · refine ⟨[], [], _, ?_, rfl, .inl rfl⟩
    rw [hne, events_nil, List.append_nil]
  · rw [events, events, withoutMark_append hne]
    exact exists_common_events [] (withoutMark document) more

end NewsWire.Markup

namespace NewsWire.Article

open NewsWire.Markup NewsWire.Text

/-! ## What is kept of the content -/

/-- Every field but the body is kept once it has been found. -/
structure Content.Keeps (c c' : Content) : Prop where
  issueDate : ∀ v, c.issueDate = some v → c'.issueDate = some v
  byline : ∀ v, c.byline = some v → c'.byline = some v
  headline : ∀ v, c.headline = some v → c'.headline = some v
  summary : ∀ v, c.summary = some v → c'.summary = some v
  editorMessage : ∀ v, c.editorMessage = some v → c'.editorMessage = some v

/-- Nothing that was found is taken back: the other fields are kept, and a body goes on where it
ended. -/
structure Content.ExtendedBy (c c' : Content) : Prop extends Content.Keeps c c' where
  body : ∀ b, c.body = some b → ∃ more, c'.body = some (b ++ more)

theorem Content.Keeps.refl (c : Content) : c.Keeps c :=
  ⟨fun _ h ↦ h, fun _ h ↦ h, fun _ h ↦ h, fun _ h ↦ h, fun _ h ↦ h⟩

theorem Content.Keeps.trans {c c' c'' : Content} (h : c.Keeps c') (h' : c'.Keeps c'') :
    c.Keeps c'' where
  issueDate v hv := h'.issueDate v (h.issueDate v hv)
  byline v hv := h'.byline v (h.byline v hv)
  headline v hv := h'.headline v (h.headline v hv)
  summary v hv := h'.summary v (h.summary v hv)
  editorMessage v hv := h'.editorMessage v (h.editorMessage v hv)

theorem Content.Keeps.of_texts {c c' : Content}
    (hdate : ∀ v, c.issueDate = some v → c'.issueDate = some v)
    (hmessage : ∀ v, c.editorMessage = some v → c'.editorMessage = some v)
    (htext : ∀ field v, c.text? field = some v → c'.text? field = some v) : c.Keeps c' :=
  ⟨hdate, htext .byline, htext .headline, htext .summary, hmessage⟩

/-- Only an attribute that has not been found is taken. -/
theorem keeps_offerAttributes (c : Content) (tag : Tag) : c.Keeps (c.offerAttributes tag) := by
  refine .of_texts (fun v hv ↦ ?_) (fun v hv ↦ ?_) fun field v hv ↦ by rwa [text?_offerAttributes]
  · rw [Content.offerAttributes]
    split
    · exact Option.or_eq_some_iff.mpr (.inl hv)
    · split <;> exact hv
  · rw [Content.offerAttributes]
    split
    · exact hv
    · split
      · exact Option.or_eq_some_iff.mpr (.inl hv)
      · exact hv

theorem keeps_offer {c : Content} {field : TextField} (h : c.text? field = none)
    (text : List Char) : c.Keeps (c.offer field text) := by
  rw [Content.offer]
  split
  · exact .refl c
  · refine .of_texts ?_ ?_ fun field' v hv ↦ ?_
    · cases field <;> exact fun _ hv ↦ hv
    · cases field <;> exact fun _ hv ↦ hv
    · have hne : field' ≠ field := by
        rintro rfl
        rw [h] at hv
        cases hv
      cases field <;> cases field' <;> first | exact hv | exact absurd rfl hne

/-! ## What is kept by the walk

The longer document may go on in any way, so nothing is known of its events but that they come
after. What is shown of the walk must therefore hold of every event in every state: `Walk.Advances`
is a relation that all steps satisfy, and a run of any length satisfies it because it is transitive.
-/

/-- The body is still to be put together, and the field whose text is being captured is still to be
found. -/
structure Walk.Fresh (w : Walk) : Prop where
  body : w.content.body = none
  capture : ∀ c, w.capture = some c → w.content.text? c.field = none

/-- The walk keeps the fields that were found, and adds its fragments after those that are there. -/
structure Walk.Keeps (w w' : Walk) : Prop where
  content : w.content.Keeps w'.content
  fragments : ∀ f, w.fragments.map Growing.toList = some f →
    ∃ more, w'.fragments.map Growing.toList = some (f ++ more)

/-- A walk that is fresh stays so, and keeps what it has. -/
def Walk.Advances (w w' : Walk) : Prop := w.Fresh → w'.Fresh ∧ w.Keeps w'

namespace Walk

variable {w w' w'' : Walk}

theorem fresh_start : Walk.start.Fresh where
  body := rfl
  capture c hc := by cases hc

theorem Keeps.trans (h : w.Keeps w') (h' : w'.Keeps w'') : w.Keeps w'' where
  content := h.content.trans h'.content
  fragments f hf := by
    obtain ⟨more, hmore⟩ := h.fragments f hf
    obtain ⟨more', hmore'⟩ := h'.fragments _ hmore
    exact ⟨more ++ more', by rw [hmore', List.append_assoc]⟩

theorem Advances.trans (h : w.Advances w') (h' : w'.Advances w'') : w.Advances w'' := by
  intro hfresh
  obtain ⟨hfresh', hkeeps⟩ := h hfresh
  obtain ⟨hfresh'', hkeeps'⟩ := h' hfresh'
  exact ⟨hfresh'', hkeeps.trans hkeeps'⟩

theorem keeps_of_fragments_eq (h : w.content.Keeps w'.content)
    (hfragments : w'.fragments = w.fragments) : w.Keeps w' where
  content := h
  fragments f hf := ⟨[], by rw [hfragments, hf, List.append_nil]⟩

/-- The open block and the depth in the body do not matter, nor does the text captured so far. -/
theorem advances_of_eq (hcontent : w'.content = w.content)
    (hcapture : w'.capture.map (·.field) = w.capture.map (·.field))
    (hfragments : w'.fragments = w.fragments) : w.Advances w' := by
  intro hfresh
  refine ⟨⟨hcontent ▸ hfresh.body, ?_⟩, keeps_of_fragments_eq (hcontent ▸ .refl _) hfragments⟩
  intro c hc
  rw [hc, Option.map_some] at hcapture
  obtain ⟨c', hc', hfield⟩ := Option.map_eq_some_iff.mp hcapture.symm
  rw [hcontent, ← hfield]
  exact hfresh.capture c' hc'

theorem advances_refl (w : Walk) : w.Advances w := advances_of_eq rfl rfl rfl

theorem advances_addFragment (w : Walk) (fragment : List Char) :
    w.Advances (w.addFragment fragment) := by
  intro hfresh
  refine ⟨⟨hfresh.body, hfresh.capture⟩, ⟨.refl w.content, ?_⟩⟩
  intro f hf
  exact ⟨fragment, by rw [fragments_addFragment, hf, Option.getD_some]⟩

theorem advances_offerAttributes (w : Walk) (tag : Tag) :
    w.Advances { w with content := w.content.offerAttributes tag } := by
  intro hfresh
  refine ⟨⟨?_, ?_⟩, keeps_of_fragments_eq (keeps_offerAttributes w.content tag) rfl⟩
  · exact (body_offerAttributes w.content tag).trans hfresh.body
  · intro c hc
    exact (text?_offerAttributes w.content tag c.field).trans (hfresh.capture c hc)

/-- A candidate is captured only if its field is still to be found. -/
theorem advances_captureAfterStart (w : Walk) (tag : Tag) :
    w.Advances { w with capture := captureAfterStart w.content tag w.capture } := by
  cases hcapture : w.capture with
  | some c => exact advances_of_eq rfl (by rw [hcapture]; rfl) rfl
  | none =>
    intro hfresh
    refine ⟨⟨hfresh.body, ?_⟩, keeps_of_fragments_eq (.refl w.content) rfl⟩
    intro c hc
    change captureAfterStart w.content tag none = some c at hc
    rw [captureAfterStart] at hc
    split at hc
    · split at hc
      · cases hc
      · next hnone =>
        obtain rfl := Option.some.inj hc
        simpa using hnone
    · cases hc

theorem advances_onStart (w : Walk) (tag : Tag) : w.Advances (w.onStart tag) := by
  refine (advances_offerAttributes w tag).trans ?_
  refine (advances_captureAfterStart _ tag).trans ?_
  exact advances_of_eq rfl rfl rfl

theorem advances_onEmpty (w : Walk) (tag : Tag) : w.Advances (w.onEmpty tag) := by
  refine (advances_offerAttributes w tag).trans ?_
  rw [Walk.onEmpty]
  split
  · exact advances_of_eq rfl rfl rfl
  · split
    · exact advances_addFragment _ []
    · exact advances_refl _

theorem advances_closeCapture (w : Walk) : w.Advances w.closeCapture := by
  cases hcapture : w.capture with
  | none =>
    rw [Walk.closeCapture, hcapture]
    exact advances_refl w
  | some c =>
    rw [Walk.closeCapture, hcapture]
    simp only
    split
    · intro hfresh
      refine ⟨⟨?_, fun c hc ↦ by cases hc⟩, keeps_of_fragments_eq ?_ rfl⟩
      · exact (body_offer w.content c.field c.text.toList).trans hfresh.body
      · exact keeps_offer (hfresh.capture c hcapture) c.text.toList
    · exact advances_of_eq rfl (by rw [hcapture]; rfl) rfl

theorem advances_closeBlock (w : Walk) (name : List Char) : w.Advances (w.closeBlock name) := by
  rw [Walk.closeBlock]
  split
  · exact advances_refl w
  · next b _ =>
    split
    · exact advances_of_eq rfl rfl rfl
    · refine Advances.trans ?_ (advances_addFragment _ b.fragment)
      exact advances_of_eq rfl rfl rfl

theorem advances_onClose (w : Walk) (name : List Char) : w.Advances (w.onClose name) := by
  refine (advances_closeCapture w).trans ?_
  refine (advances_closeBlock _ name).trans ?_
  exact advances_of_eq rfl rfl rfl

theorem advances_onText (w : Walk) (text markup : List Char) :
    w.Advances (w.onText text markup) := by
  refine advances_of_eq rfl ?_ rfl
  rw [Walk.onText, Option.map_map]
  rfl

theorem advances_step (w : Walk) (token : Token) : w.Advances (w.step token) := by
  cases token with
  | start tag => exact advances_onStart w tag
  | empty tag => exact advances_onEmpty w tag
  | close name => exact advances_onClose w name
  | text raw => exact advances_onText w _ raw
  | literal content => exact advances_onText w content _
  | comment content => exact advances_of_eq rfl rfl rfl
  | instruction content => exact advances_refl w

theorem advances_foldl (w : Walk) (tokens : List Token) : w.Advances (tokens.foldl step w) := by
  induction tokens generalizing w with
  | nil => exact advances_refl w
  | cons token tokens ih =>
    rw [List.foldl_cons]
    exact (advances_step w token).trans (ih (w.step token))

theorem extendedBy_finish (hfresh : w.Fresh) (hfresh' : w'.Fresh) (h : w.Keeps w') :
    w.finish.ExtendedBy w'.finish where
  toKeeps := by
    rw [finish_eq_content, finish_eq_content w']
    exact ⟨h.content.issueDate, h.content.byline, h.content.headline, h.content.summary,
      h.content.editorMessage⟩
  body b hb := by
    rw [body_finish hfresh.body] at hb
    obtain ⟨f, hf, rfl⟩ := Option.map_eq_some_iff.mp hb
    obtain ⟨more, hmore⟩ := h.fragments f hf
    refine ⟨String.ofList more, ?_⟩
    rw [body_finish hfresh'.body, hmore, Option.map_some, String.ofList_append]

theorem finish_step_text (w : Walk) (raw : List Char) : (w.step (.text raw)).finish = w.finish :=
  rfl

end Walk

/-! ## The whole document -/

/-- **Nothing that was found is taken back.** Whatever follows a document, each field that was found
in it is found in the whole, and the body of the whole begins with its body. If its reading stops at
a fault that is not its end, the whole has the same content. -/
theorem extract_append (document more : String) :
    (extract document).ExtendedBy (extract (document ++ more)) ∧
      ∀ fault, (events document.toList).2 = .broken fault → fault ≠ .unfinished →
        extract (document ++ more) = extract document := by
  rw [extract, extract, String.toList_append]
  refine ⟨?_, fun fault hbroken hfault ↦ ?_⟩
  · obtain ⟨common, last, tail, hevents, hevents', hlast⟩ :=
      exists_common_events_of_document document.toList more.toList
    obtain ⟨hfresh, -⟩ := Walk.advances_foldl .start common Walk.fresh_start
    obtain ⟨hfresh', hkeeps⟩ := Walk.advances_foldl _ tail hfresh
    rw [extractFrom, extractFrom, hevents, hevents', List.foldl_append, List.foldl_append]
    obtain rfl | ⟨raw, rfl⟩ := hlast
    · exact Walk.extendedBy_finish hfresh hfresh' hkeeps
    · rw [List.foldl_cons, List.foldl_nil, Walk.finish_step_text]
      exact Walk.extendedBy_finish hfresh hfresh' hkeeps
  · rw [extractFrom, events_append_of_broken hbroken hfault, ← extractFrom]

theorem extract_append_sample :
    (extract "<a><byline>By B</byline><abstract>cut").ExtendedBy
        (extract ("<a><byline>By B</byline><abstract>cut" ++ " off</abstract>")) ∧
      (events "<a><byline>By B</byline></b>".toList).2 = .broken (.mismatchedClose ['b']) ∧
      extract ("<a><byline>By B</byline></b>" ++ "<abstract>late</abstract>") =
        extract "<a><byline>By B</byline></b>" := by
  have hbroken : (events "<a><byline>By B</byline></b>".toList).2 =
      .broken (.mismatchedClose ['b']) := by decide +kernel
  exact ⟨(extract_append _ _).1, hbroken, (extract_append _ _).2 _ hbroken (by decide)⟩

end NewsWire.Article

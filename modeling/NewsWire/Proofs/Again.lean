import NewsWire.Proofs.Fragment
import NewsWire.Proofs.Truncation

/-!
# The body is extracted again

A body is put in a block of its own and extracted once more. Nothing is left to be done: its
subheadings are promoted, its media references are gone, and its lines are run together. So the
extraction gives the same body (`body_extract_again`), if what was kept of the first document had
no broken lines in its markup and no quotation marks in its names.

Two facts carry this. The body is read back: what is read of it are the tokens of a forest, filtered
already, and written again they are the body (`ReadsBack`). And it is trimmed, so joining leaves it
as it is (`Trimmed`). In between stands the block around it, which does not change how it is read
(`eventsWithin_append_of_closed`).

The argument does not go through the first extraction a second time. It is about any text that is
read back and trimmed, and a body is one. That is why the first extraction may have been of any
document at all, complete or broken off.
-/

namespace NewsWire.Markup

/-! ## Reading in front of markup -/

theorem nextMarkup_ne_finished (cs : List Char) : nextMarkup cs ≠ .finished := by
  have hsplit : ∀ read split, Step.ofSplit read split ≠ .finished := by
    intro read split h
    rw [Step.ofSplit.eq_def] at h
    split at h
    · cases h
    · split at h <;> cases h
  intro h
  rw [nextMarkup.eq_def] at h
  split at h
  · cases h
  · split at h <;> first | cases h | exact hsplit _ _ h
  all_goals exact hsplit _ _ h

theorem eq_nil_of_finished {cs : List Char} (h : nextToken cs = .finished) : cs = [] := by
  cases cs with
  | nil => rfl
  | cons c cs =>
    rw [nextToken] at h
    split at h
    · exact absurd h (nextMarkup_ne_finished cs)
    · cases h

theorem nextToken_append_of_markup {cs rest more : List Char} {token : Token}
    (h : nextToken cs = .next token rest) (hmore : ∀ c ∈ more.head?, c = '<') :
    nextToken (cs ++ more) = .next token (rest ++ more) := by
  cases cs with
  | nil => cases h
  | cons c cs =>
    rw [nextToken] at h
    split at h
    · next hc =>
      rw [List.cons_append, nextToken, if_pos hc, nextMarkup_append (by simp [h]), h,
        Step.followedBy]
    · next hc =>
      obtain ⟨rfl, rfl⟩ := Step.next.inj h
      have hstop : more.takeWhile (· != '<') = [] ∧ more.dropWhile (· != '<') = more := by
        cases more with
        | nil => exact ⟨rfl, rfl⟩
        | cons d more =>
          obtain rfl := hmore d rfl
          exact ⟨rfl, rfl⟩
      have htake : ((c :: cs) ++ more).takeWhile (· != '<') = (c :: cs).takeWhile (· != '<') := by
        rw [List.takeWhile_append, hstop.1, List.append_nil]
        split
        · next hlength => exact ((List.takeWhile_sublist _).eq_of_length hlength).symm
        · rfl
      have hdrop : ((c :: cs) ++ more).dropWhile (· != '<') =
          (c :: cs).dropWhile (· != '<') ++ more := by
        rw [List.dropWhile_append, hstop.2]
        split
        · next hempty => rw [List.isEmpty_iff.mp hempty, List.nil_append]
        · rfl
      rw [List.cons_append, nextToken, if_neg hc, ← List.cons_append, htake, hdrop]

theorem OpenNames.after_append {names names' : OpenNames} {token : Token}
    (h : names.after token = .ok names') (base : OpenNames) :
    OpenNames.after (names ++ base) token = .ok (names' ++ base) := by
  obtain ⟨hleaf, rfl⟩ | ⟨tag, rfl, rfl⟩ | ⟨name, rfl, rfl⟩ := after_cases h
  · cases token with
    | start tag => cases hleaf
    | close name => cases hleaf
    | _ => rfl
  · rfl
  · exact after_close name (names' ++ base)

/-- A text that closes all the elements it opens is read in the same way inside other elements and
in front of markup. -/
theorem eventsWithin_append_of_closed {names : OpenNames} {cs more : List Char}
    (hend : (eventsWithin names cs).2 = .complete)
    (hclosed : (eventsWithin names cs).1.foldlM OpenNames.after names = .ok [])
    (hmore : ∀ c ∈ more.head?, c = '<') (base : OpenNames) :
    eventsWithin (names ++ base) (cs ++ more) =
      ((eventsWithin names cs).1 ++ (eventsWithin base more).1, (eventsWithin base more).2) := by
  induction names, cs using eventsWithin.induct with
  | case1 names cs hn =>
    obtain rfl := eq_nil_of_finished hn
    rw [eventsWithin_nil] at hclosed ⊢
    obtain rfl := Except.ok.inj hclosed
    rfl
  | case2 names cs fault hn =>
    rw [eventsWithin_of_stuck hn] at hend
    cases hend
  | case3 names cs token rest hn _ fault hafter =>
    rw [eventsWithin_of_fault hn hafter] at hend
    cases hend
  | case4 names cs token rest hn _ names' hafter _ _ _ ih =>
    rw [eventsWithin_of_next hn hafter] at hend hclosed ⊢
    rw [List.foldlM_cons, hafter] at hclosed
    rw [eventsWithin_of_next (nextToken_append_of_markup hn hmore)
      (OpenNames.after_append hafter base), ih hend hclosed, List.cons_append]

end NewsWire.Markup

namespace NewsWire.Article

open NewsWire.Markup NewsWire.Text

/-! ## Markup without broken lines -/

/-- There are no line feeds in what is written of a token, and no quotation marks in a name. -/
def Unbroken : Token → Prop
  | .start tag | .empty tag => '\n' ∉ tag.attributes ∧ '\x22' ∉ tag.name ∧ '\x27' ∉ tag.name
  | .comment content | .literal content => '\n' ∉ content
  | _ => True

instance : DecidablePred Unbroken
  | .text _ | .close _ | .instruction _ => inferInstanceAs (Decidable True)
  | .start tag | .empty tag => inferInstanceAs (Decidable
      ('\n' ∉ tag.attributes ∧ '\x22' ∉ tag.name ∧ '\x27' ∉ tag.name))
  | .comment content | .literal content => inferInstanceAs (Decidable ('\n' ∉ content))

theorem quoteAfter_of_notMem {cs : List Char} (hdouble : '\x22' ∉ cs) (hsingle : '\x27' ∉ cs) :
    quoteAfter none cs = none ∨ quoteAfter none cs = some none := by
  induction cs with
  | nil => exact .inr rfl
  | cons c cs ih =>
    rw [List.mem_cons, not_or] at hdouble hsingle
    rw [quoteAfter_cons, quoteStep]
    split
    · exact .inl rfl
    · rw [if_neg (by simp [Ne.symm hdouble.1, Ne.symm hsingle.1]), Option.bind_some]
      exact ih hdouble.2 hsingle.2

theorem joinable_of_unbroken {token : Token} (hread : Readable token) (h : Unbroken token) :
    Joinable token := by
  cases token with
  | start tag => exact ⟨fun hfeed ↦ absurd hfeed h.1, fun hfeed ↦ absurd hfeed h.1⟩
  | empty tag =>
    refine ⟨fun _ ↦ ?_, fun hfeed ↦ absurd hfeed h.1⟩
    obtain ⟨t, htext, htag⟩ := hread
    obtain rfl : tag.name ++ tag.attributes = t := by rw [htag, Tag.name_append_attributes]
    -- The tag would end in its name if a closing angle bracket stood there.
    obtain hname | hname := quoteAfter_of_notMem h.2.1 h.2.2
    · have hclosed := htext.closed
      rw [List.append_assoc, quoteAfter_append, hname] at hclosed
      cases hclosed
    · exact hname
  | comment content => exact fun hfeed ↦ absurd hfeed h
  | literal content => exact fun hfeed ↦ absurd hfeed h
  | _ => trivial

/-! ## A block of its own -/

/-- Nothing is left out of a forest without media references. -/
theorem withoutMedia_eq_self {forest : Forest}
    (h : ∀ token ∈ forest.tokens, ∀ tag, token = .start tag ∨ token = .empty tag →
      tag.localName ≠ mediaName) : withoutMedia forest = forest := by
  induction forest with
  | nil => rfl
  | leaf before token hleaf ih =>
    rw [Forest.tokens, List.forall_mem_append] at h
    have hmedia : ¬isEmptyMedia token = true := by
      intro hmedia
      cases token with
      | empty tag =>
        exact h.2 _ List.mem_cons_self tag (.inr rfl) (of_decide_eq_true hmedia)
      | _ => cases hmedia
    rw [withoutMedia, if_neg hmedia, ih h.1]
  | element before tag content ih ihc =>
    rw [Forest.tokens, List.forall_mem_append, List.forall_mem_cons, List.forall_mem_append] at h
    obtain ⟨hbefore, hstart, hcontent, -⟩ := h
    rw [withoutMedia, if_neg (hstart tag (.inl rfl)), ih hbefore, ihc hcontent]

/-- The outline of a document with one body block and nothing else. -/
def blockOutline (content : Forest) : Outline :=
  .top (.element .nil ⟨bodyName, []⟩ (.element .nil ⟨blockName, []⟩ content))

theorem bodyBlocks_blockOutline (content : Forest) :
    bodyBlocks (blockOutline content) = [content] := by
  have hbody : (⟨bodyName, []⟩ : Tag).localName = bodyName := by decide
  have hblock : (⟨blockName, []⟩ : Tag).localName = blockName := by decide
  simp [blockOutline, bodyBlocks, forestBlocks, Place.enter, hbody, hblock]

/-- The text as the only body block of a document. -/
def inBlock (text : List Char) : List Char :=
  "<body.content><block>".toList ++ (text ++ "</block></body.content>".toList)

/-- A text that is read back is read as the content of the block. -/
theorem outline_inBlock {text : List Char} (h : ReadsBack [] text) :
    ∃ content : Forest, content.tokens = (eventsWithin [] text).1 ∧
      outline (inBlock text) = blockOutline content := by
  obtain ⟨content, htokens⟩ := exists_forest h.closed
  have htag : ∀ name : List Char, name.head? = some 'b' → quoteAfter none name = some none →
      TagText name := by
    intro name hhead hclosed
    refine ⟨fun c hc ↦ ?_, hclosed⟩
    obtain rfl : 'b' = c := Option.some.inj (hhead.symm.trans hc)
    decide
  have hbody : nextToken (inBlock text) = .next (.start ⟨bodyName, []⟩)
      ("<block>".toList ++ (text ++ "</block></body.content>".toList)) :=
    nextToken_tag (htag bodyName (by decide) (by decide)) _
  have hblock : nextToken ("<block>".toList ++ (text ++ "</block></body.content>".toList)) =
      .next (.start ⟨blockName, []⟩) (text ++ "</block></body.content>".toList) :=
    nextToken_tag (htag blockName (by decide) (by decide)) _
  have hmarkup : ∀ c ∈ "</block></body.content>".toList.head?, c = '<' :=
    fun c hc ↦ (Option.some.inj hc).symm
  have hinner := eventsWithin_append_of_closed h.reads.1 h.closed hmarkup [blockName, bodyName]
  have hend : (eventsWithin [blockName, bodyName] "</block></body.content>".toList).1 =
      [.close blockName, .close bodyName] := by decide +kernel
  have hevents : (events (inBlock text)).1 =
      .start ⟨bodyName, []⟩ :: .start ⟨blockName, []⟩ ::
        (content.tokens ++ [.close blockName, .close bodyName]) := by
    change (eventsWithin [] (inBlock text)).1 = _
    rw [eventsWithin_of_next hbody rfl, eventsWithin_of_next hblock rfl, htokens, ← hend]
    exact congrArg (fun read ↦ _ :: _ :: read.1) hinner
  refine ⟨content, htokens, ?_⟩
  rw [outline, hevents, Outline.ofTokens, List.foldl_cons, List.foldl_cons, Outline.add_start,
    Outline.add_start, List.foldl_append, Outline.foldl_add_tokens, Outline.grow,
    Forest.nil_append]
  rfl

theorem body_extractFrom_inBlock {text : List Char} (h : ReadsBack [] text) (htrim : Trimmed text) :
    (extractFrom (inBlock text)).body = some (String.ofList text) := by
  obtain ⟨content, htokens, houtline⟩ := outline_inBlock h
  have hmedia : withoutMedia content = content := by
    refine withoutMedia_eq_self fun token htoken tag htag ↦ ?_
    rw [htokens] at htoken
    exact (h.reads.2 token htoken tag htag).2
  have hfragment : fragmentOf content = text := by
    rw [fragmentOf, blockMarkup, hmedia, htokens, h.written, joinLines_of_trimmed htrim]
  rw [body_extractFrom, houtline, bodyBlocks_blockOutline, bodyOf, if_neg (by simp),
    List.flatMap_singleton, hfragment, Option.map_some]

/-! ## The body -/

theorem toList_eq_of_body {document body : String} (h : (extract document).body = some body) :
    body.toList = (bodyBlocks (outline document.toList)).flatMap fragmentOf := by
  rw [extract, body_extractFrom, Option.map_eq_some_iff] at h
  obtain ⟨written, hwritten, rfl⟩ := h
  rw [bodyOf] at hwritten
  split at hwritten
  · cases hwritten
  · rw [String.toList_ofList]
    exact (Option.some.inj hwritten).symm

theorem trimmed_body {document body : String} (h : (extract document).body = some body) :
    Trimmed body.toList := by
  rw [toList_eq_of_body h]
  exact trimmed_flatMap fun content _ ↦ trimmed_joinLines (blockMarkup content)

theorem body_extract_again_of_joinable {document body : String}
    (hbody : (extract document).body = some body)
    (hjoin : ∀ content ∈ bodyBlocks (outline document.toList),
      ∀ token ∈ (withoutMedia content).tokens, Joinable token) :
    (extract ("<body.content><block>" ++ body ++ "</block></body.content>")).body = some body := by
  have hread : ReadsBack [] body.toList := by
    have hblocks := readsBack_fragments (fun content hcontent token htoken ↦
      fit_of_mem_bodyBlocks hcontent htoken (hjoin content hcontent token htoken)) readsBack_nil
    rwa [List.append_nil, ← toList_eq_of_body hbody] at hblocks
  have hagain := body_extractFrom_inBlock hread (trimmed_body hbody)
  rw [String.ofList_toList] at hagain
  rw [extract, String.toList_append, String.toList_append, List.append_assoc]
  exact hagain

/-- **The body is extracted again.** In a block of its own it gives the same body, if no tag,
comment or literal section that is kept of the first document has a line feed in it, and no name of
an element a quotation mark. -/
theorem body_extract_again {document body : String} (hbody : (extract document).body = some body)
    (hlines : ∀ content ∈ bodyBlocks (outline document.toList),
      ∀ token ∈ (withoutMedia content).tokens, Unbroken token) :
    (extract ("<body.content><block>" ++ body ++ "</block></body.content>")).body = some body := by
  refine body_extract_again_of_joinable hbody fun content hcontent token htoken ↦ ?_
  exact joinable_of_unbroken (readable_of_mem_bodyBlocks hcontent htoken)
    (hlines content hcontent token htoken)

/-- Two blocks with a subheading, an instruction, a media reference and lines of text. -/
theorem body_extract_again_sample :
    (extract ("<body.content><block><hl2 a='>'>x</hl2>\n <?y?>\n</block>" ++
        "<block>y\n <media-reference/> z</block></body.content>")).body =
        some "<h1 a='>'>x</h1>yz" ∧
      (extract ("<body.content><block>" ++ "<h1 a='>'>x</h1>yz" ++
        "</block></body.content>")).body = some "<h1 a='>'>x</h1>yz" := by
  have hbody : (extract ("<body.content><block><hl2 a='>'>x</hl2>\n <?y?>\n</block>" ++
      "<block>y\n <media-reference/> z</block></body.content>")).body =
        some "<h1 a='>'>x</h1>yz" := by decide +kernel
  exact ⟨hbody, body_extract_again hbody (by decide +kernel)⟩

end NewsWire.Article

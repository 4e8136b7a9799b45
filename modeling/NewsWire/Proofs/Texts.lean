import NewsWire.Proofs.Body

/-!
# The texts and attributes of an article

The byline, the headline and the summary are captured on the walk through a document, one at a time,
with a count of open elements. Here they are read off the tree by a recursion in document order
(`scanForest`). An element outside any other candidate is a candidate for its field while the field
is not set. Once it is complete, the text of all that is in it is offered to the field, and
nothing in it is looked at again. Any other element is looked through.

What a walk captures is the candidate that is open where the outline grows, and its count is the
number of elements open from the candidate on (`openText`). The date of issue and the message of the
editors do not depend on the tree: they are the first to be found among the events.
-/

namespace NewsWire.Article

open NewsWire.Markup NewsWire.Text

/-! ## Texts by recursion

The recursion has the rule for candidates in it and no counters. Whether an element may be a
candidate is said of its tag (`Gives`), in the terms of the format and not by the walk: the headline
is known by an identifier on any element, and it comes before the two that are known by a name. -/

/-- What a token adds to a text. References are resolved in each run of text by itself, and a run
that cannot be resolved is taken as it stands. -/
def plainText : Token → List Char
  | .text raw => (unescape raw).getD raw
  | .literal content => content
  | _ => []

def textOf (forest : Forest) : List Char := forest.tokens.flatMap plainText

/-- The texts found so far. -/
abbrev Texts := TextField → Option String

/-- The texts with one more for a field, trimmed. A blank one does not count. -/
def Texts.offer (texts : Texts) (field : TextField) (text : List Char) : Texts :=
  if trim text = [] then texts
  else fun other ↦ if other = field then some (String.ofList (trim text)) else texts other

/-- An element with this tag may give its text to the field. -/
def Gives (tag : Tag) : TextField → Prop
  | .headline => tag.attribute? "id" = some "headline".toList
  | .byline => tag.attribute? "id" ≠ some "headline".toList ∧ tag.localName = "byline".toList
  | .summary => tag.attribute? "id" ≠ some "headline".toList ∧ tag.localName = "abstract".toList

instance (tag : Tag) : DecidablePred (Gives tag)
  | .headline => inferInstanceAs (Decidable (_ = _))
  | .byline | .summary => inferInstanceAs (Decidable (_ ∧ _))

theorem textField?_eq_some_iff {tag : Tag} {field : TextField} :
    textField? tag = some field ↔ Gives tag field := by
  have hnames : bylineName ≠ summaryName := by decide
  rw [textField?]
  by_cases hid : tag.attribute? "id" = some headlineId
  · rw [if_pos hid]
    cases field with
    | headline => exact iff_of_true rfl hid
    | byline | summary => exact iff_of_false (by simp) fun h ↦ h.1 hid
  · rw [if_neg hid]
    by_cases hbyline : tag.localName = bylineName
    · rw [if_pos hbyline]
      cases field with
      | headline => exact iff_of_false (by simp) hid
      | byline => exact iff_of_true rfl ⟨hid, hbyline⟩
      | summary => exact iff_of_false (by simp) fun h ↦ hnames (hbyline.symm.trans h.2)
    · rw [if_neg hbyline]
      by_cases hsummary : tag.localName = summaryName
      · rw [if_pos hsummary]
        cases field with
        | headline => exact iff_of_false (by simp) hid
        | byline => exact iff_of_false (by simp) fun h ↦ hbyline h.2
        | summary => exact iff_of_true rfl ⟨hid, hsummary⟩
      · rw [if_neg hsummary]
        cases field with
        | headline => exact iff_of_false (by simp) hid
        | byline => exact iff_of_false (by simp) fun h ↦ hbyline h.2
        | summary => exact iff_of_false (by simp) fun h ↦ hsummary h.2

/-- The field that an element is a candidate for. There are none for a field that is set. -/
def candidate? (texts : Texts) (tag : Tag) : Option TextField :=
  [.headline, .byline, .summary].find? fun field ↦ Gives tag field ∧ (texts field).isNone

theorem candidate?_eq (texts : Texts) (tag : Tag) :
    candidate? texts tag = (textField? tag).filter fun field ↦ (texts field).isNone := by
  simp only [candidate?, ← textField?_eq_some_iff]
  cases textField? tag with
  | none => rfl
  | some field =>
    by_cases hset : texts field = none <;> cases field <;>
      simp [List.find?, Option.filter, hset]

/-- The texts after a forest. -/
def scanForest (texts : Texts) : Forest → Texts
  | .nil => texts
  | .leaf before _ _ => scanForest texts before
  | .element before tag content =>
    match candidate? (scanForest texts before) tag with
    | some field => (scanForest texts before).offer field (textOf content)
    | none => scanForest (scanForest texts before) content

mutual

/-- The field of the candidate that is open. -/
def openField? : Outline → Option TextField
  | .top _ => none
  | .inside outer tag _ => (openField? outer).or (candidate? (textsOf outer) tag)

/-- The texts of an outline. A candidate that is open has given nothing yet. -/
def textsOf : Outline → Texts
  | .top forest => scanForest (fun _ ↦ none) forest
  | .inside outer tag content =>
    match (openField? outer).or (candidate? (textsOf outer) tag) with
    | some _ => textsOf outer
    | none => scanForest (textsOf outer) content

end

/-! ## Attributes by search -/

/-- The value that a token gives for an attribute of elements with a name. -/
def attributeOf (name : List Char) (key : String) : Token → Option (List Char)
  | .start tag | .empty tag => if tag.localName = name then tag.attribute? key else none
  | _ => none

/-! ## What is captured

While a candidate is open, nothing in it is looked at as a candidate. So at most one is open, it is
on the path to the place where the outline grows, and the count of the walk is the length of the
path from there. -/

/-- How far an open candidate has come: its field, how many elements are open from it on, and its
text so far. -/
@[ext]
structure OpenText where
  field : TextField
  depth : Nat
  text : List Char

/-- The candidate with more text. -/
def OpenText.write (c : OpenText) (text : List Char) : OpenText := { c with text := c.text ++ text }

def OpenText.enter (c : OpenText) : OpenText := { c with depth := c.depth + 1 }

theorem OpenText.write_nil (c : OpenText) : c.write [] = c := by
  rw [write, List.append_nil]

theorem OpenText.write_write (c : OpenText) (text more : List Char) :
    (c.write text).write more = c.write (text ++ more) := by
  rw [write, write, write, List.append_assoc]

/-- The open candidate of an outline. -/
def openText : Outline → Option OpenText
  | .top _ => none
  | .inside outer tag content =>
    let begun := match openText outer with
      | some c => some c.enter
      | none => (candidate? (textsOf outer) tag).map (⟨·, 1, []⟩)
    begun.map (·.write (textOf content))

theorem map_field_openText (o : Outline) : (openText o).map OpenText.field = openField? o := by
  induction o with
  | top forest => rfl
  | inside outer tag content ih =>
    rw [openText, openField?, ← ih]
    cases openText outer with
    | some c => rfl
    | none =>
      cases candidate? (textsOf outer) tag <;> rfl

theorem depth_openText_pos {o : Outline} {c : OpenText} (h : openText o = some c) :
    0 < c.depth := by
  cases o with
  | top forest => cases h
  | inside outer tag content =>
    obtain ⟨begun, hbegun, rfl⟩ := Option.map_eq_some_iff.mp h
    cases houter : openText outer with
    | some c =>
      rw [houter] at hbegun
      obtain rfl := Option.some.inj hbegun
      exact Nat.succ_pos c.depth
    | none =>
      rw [houter] at hbegun
      obtain ⟨field, -, rfl⟩ := Option.map_eq_some_iff.mp hbegun
      exact Nat.one_pos

/-! ## Growing outlines -/

section Grow

variable {f : Forest → Forest}

theorem openText_grow {more : List Char}
    (h : ∀ content, textOf (f content) = textOf content ++ more) (o : Outline) :
    openText (o.grow f) = (openText o).map (·.write more) := by
  cases o with
  | top forest => rfl
  | inside outer tag content =>
    rw [Outline.grow, openText, openText, h, Option.map_map]
    congr 1
    funext c
    exact (c.write_write _ _).symm

theorem textsOf_grow_of_open {o : Outline} (h : openField? o ≠ none) :
    textsOf (o.grow f) = textsOf o := by
  cases o with
  | top forest => exact absurd rfl h
  | inside outer tag content =>
    rw [openField?] at h
    rw [Outline.grow, textsOf, textsOf]
    cases hopen : (openField? outer).or (candidate? (textsOf outer) tag) with
    | some field => rfl
    | none => exact absurd hopen h

theorem textsOf_grow {g : Texts → Texts}
    (h : ∀ texts forest, scanForest texts (f forest) = g (scanForest texts forest)) {o : Outline}
    (hopen : openField? o = none) : textsOf (o.grow f) = g (textsOf o) := by
  cases o with
  | top forest => exact h _ forest
  | inside outer tag content =>
    rw [openField?] at hopen
    rw [Outline.grow, textsOf, textsOf, hopen]
    exact h _ content

end Grow

theorem textOf_leaf (before : Forest) (token : Token) (h : token.isLeaf = true) :
    textOf (.leaf before token h) = textOf before ++ plainText token := by
  rw [textOf, Forest.tokens, List.flatMap_append, List.flatMap_singleton, textOf]

theorem textOf_element (before : Forest) (tag : Tag) (content : Forest) :
    textOf (.element before tag content) = textOf before ++ textOf content := by
  simp [textOf, Forest.tokens, plainText]

/-! ## The walk -/

def Capture.view (c : Capture) : OpenText := ⟨c.field, c.depth, c.text.toList⟩

theorem text?_offer (c : Content) (field : TextField) (text : List Char) :
    (c.offer field text).text? = Texts.offer c.text? field text := by
  rw [Content.offer, Texts.offer]
  cases h : trim text with
  | nil => rfl
  | cons first rest =>
    rw [if_neg (List.cons_ne_nil _ _)]
    funext other
    cases field <;> cases other <;> rfl

theorem view_captureAfterStart (content : Content) (tag : Tag) (capture : Option Capture) :
    (captureAfterStart content tag capture).map Capture.view =
      match capture.map Capture.view with
      | some c => some c.enter
      | none => (candidate? content.text? tag).map (⟨·, 1, []⟩) := by
  cases capture with
  | some c => rfl
  | none =>
    rw [captureAfterStart, candidate?_eq]
    cases textField? tag with
    | none => rfl
    | some field =>
      cases hfield : content.text? field <;> simp [Option.filter, hfield, Capture.view]

/-- The walk through a document has captured what is open in its outline, and has found what is in
it. -/
structure Captures (o : Outline) (w : Walk) : Prop where
  texts : w.content.text? = textsOf o
  capture : w.capture.map Capture.view = openText o

theorem capture_step_leaf (w : Walk) {token : Token} (h : token.isLeaf = true) :
    (w.step token).capture.map Capture.view =
      (w.capture.map Capture.view).map (·.write (plainText token)) := by
  have hwrite (text markup : List Char) : (w.onText text markup).capture.map Capture.view =
      (w.capture.map Capture.view).map (·.write text) := by
    rw [Walk.onText]
    cases w.capture with
    | none => rfl
    | some c => simp [Capture.view, OpenText.write]
  have hnothing : (w.capture.map Capture.view).map (·.write []) = w.capture.map Capture.view := by
    rw [show (fun c : OpenText ↦ c.write []) = id from funext OpenText.write_nil, Option.map_id]
    rfl
  cases token with
  | start tag => cases h
  | close name => cases h
  | text raw => exact hwrite _ raw
  | literal content => exact hwrite content _
  | comment content => exact hnothing.symm
  | instruction content => exact hnothing.symm
  | empty tag =>
    have hplain : plainText (.empty tag) = [] := rfl
    rw [hplain, hnothing, Walk.step, Walk.onEmpty]
    split
    · rfl
    · split <;> rfl

theorem text?_step_leaf (w : Walk) {token : Token} (h : token.isLeaf = true) :
    (w.step token).content.text? = w.content.text? := by
  cases token with
  | start tag => cases h
  | close name => cases h
  | empty tag =>
    rw [Walk.step, Walk.onEmpty]
    split
    · exact funext (text?_offerAttributes w.content tag)
    · split <;> exact funext (text?_offerAttributes w.content tag)
  | _ => rfl

/-- Closing a block concerns the block and the fragments alone. -/
theorem closeBlock_eq (w : Walk) (name : List Char) :
    (w.closeBlock name).content = w.content ∧ (w.closeBlock name).capture = w.capture := by
  rw [Walk.closeBlock]
  split
  · exact ⟨rfl, rfl⟩
  · split <;> exact ⟨rfl, rfl⟩

namespace Captures

variable {o outer : Outline} {w : Walk} {tag : Tag} {content : Forest}

theorem leaf {token : Token} (h : token.isLeaf = true) (hc : Captures o w) :
    Captures (o.grow fun forest ↦ forest.leaf token h) (w.step token) := by
  constructor
  · rw [text?_step_leaf w h, hc.texts]
    by_cases hopen : openField? o = none
    · exact (textsOf_grow (f := fun forest ↦ forest.leaf token h) (g := id) (fun _ _ ↦ rfl)
        hopen).symm
    · exact (textsOf_grow_of_open hopen).symm
  · rw [capture_step_leaf w h, hc.capture, openText_grow fun before ↦ textOf_leaf before token h]

/-- A start goes one element further into the open candidate, or may open one. -/
theorem start (hc : Captures o w) (tag : Tag) :
    Captures (.inside o tag .nil) (w.step (.start tag)) := by
  have htexts : (w.content.offerAttributes tag).text? = textsOf o := by
    rw [funext (text?_offerAttributes w.content tag), ← hc.texts]
  rw [Walk.step, Walk.onStart]
  constructor
  · rw [textsOf]
    split <;> exact htexts
  · have hnil : (fun c : OpenText ↦ c.write (textOf .nil)) = id := funext OpenText.write_nil
    rw [view_captureAfterStart, htexts, hc.capture, openText, hnil, Option.map_id]
    rfl

theorem closeCapture (hc : Captures (.inside outer tag content) w) :
    Captures (outer.grow fun forest ↦ forest.element tag content) w.closeCapture := by
  have htexts := hc.texts
  have hcapture := hc.capture
  have hfield := map_field_openText outer
  have hgrow := openText_grow (f := fun forest ↦ forest.element tag content)
    (fun before ↦ textOf_element before tag content) outer
  rw [textsOf] at htexts
  rw [openText] at hcapture
  rw [Walk.closeCapture]
  cases houter : openText outer with
  | some c =>
    -- The element is part of a candidate that goes on.
    rw [houter] at hfield hcapture hgrow
    have hopen : openField? outer = some c.field := hfield.symm
    obtain ⟨c', hw, hview⟩ := Option.map_eq_some_iff.mp hcapture
    have hdepth : c'.depth = c.depth + 1 := congrArg OpenText.depth hview
    have hpos : 0 < c.depth := depth_openText_pos houter
    simp only [hw]
    rw [if_neg (by omega)]
    constructor
    · rw [textsOf_grow_of_open (by simp [hopen]), htexts, hopen]
      rfl
    · have hfield' : c'.field = c.field := congrArg OpenText.field hview
      have htext : c'.text.toList = c.text ++ textOf content := congrArg OpenText.text hview
      have hback : c'.depth - 1 = c.depth := by omega
      rw [hgrow]
      exact congrArg some (OpenText.ext hfield' hback htext)
  | none =>
    rw [houter] at hfield hcapture hgrow
    have hopen : openField? outer = none := hfield.symm
    have hscan := textsOf_grow (f := fun forest ↦ forest.element tag content)
      (g := fun texts ↦ match candidate? texts tag with
        | some field => texts.offer field (textOf content)
        | none => scanForest texts content) (fun _ _ ↦ rfl) hopen
    rw [hopen, Option.none_or] at htexts
    cases hcandidate : candidate? (textsOf outer) tag with
    | some field =>
      -- The element is a candidate, and now it is complete.
      simp only [hcandidate] at htexts hcapture hscan
      obtain ⟨c', hw, hview⟩ := Option.map_eq_some_iff.mp hcapture
      have hfield' : c'.field = field := congrArg OpenText.field hview
      have hdepth : c'.depth = 1 := congrArg OpenText.depth hview
      have htext : c'.text.toList = textOf content := congrArg OpenText.text hview
      simp only [hw]
      rw [if_pos hdepth]
      constructor
      · rw [hscan, text?_offer, htexts, hfield', htext]
      · rw [hgrow]
        rfl
    | none =>
      -- The element is looked through.
      simp only [hcandidate] at htexts hcapture hscan
      have hw : w.capture = none := by simpa using hcapture
      simp only [hw]
      constructor
      · rw [hscan, htexts]
      · rw [hgrow, hw]
        rfl

/-- A close leads one element back, and may complete the candidate. -/
theorem close (hc : Captures (.inside outer tag content) w) :
    Captures (outer.grow fun forest ↦ forest.element tag content) (w.step (.close tag.name)) := by
  obtain ⟨hcontent, hcapture⟩ := closeBlock_eq w.closeCapture tag.name
  rw [Walk.step, Walk.onClose]
  constructor
  · rw [← hc.closeCapture.texts, ← hcontent]
  · rw [← hc.closeCapture.capture, ← hcapture]

end Captures

theorem captures_outline (document : List Char) :
    Captures (outline document) ((events document).1.foldl Walk.step .start) :=
  outline_induction (fun _ _ _ h hc ↦ hc.leaf h) (fun _ _ tag hc ↦ hc.start tag)
    (fun _ _ _ _ hc ↦ hc.close) document ⟨funext fun field ↦ by cases field <;> rfl, rfl⟩

/-! ## Attributes -/

/-- A field of the content is taken from an attribute: a tag that gives the attribute sets it while
it is not set, and the captured texts leave it as it is. -/
structure TakenFrom (get : Content → Option String) (name : List Char) (key : String) : Prop where
  offerAttributes : ∀ (c : Content) (tag : Tag), get (c.offerAttributes tag) =
    (get c).or ((attributeOf name key (.start tag)).map String.ofList)
  offer : ∀ (c : Content) (field : TextField) (text : List Char), get (c.offer field text) = get c

theorem takenFrom_issueDate : TakenFrom Content.issueDate issueDateName "norm" where
  offerAttributes c tag := by
    rw [Content.offerAttributes, attributeOf]
    split
    · rfl
    · split <;> simp
  offer c field text := by
    rw [Content.offer]
    split
    · rfl
    · cases field <;> rfl

theorem takenFrom_editorMessage : TakenFrom Content.editorMessage editorMessageName "info" where
  offerAttributes c tag := by
    have hnames : issueDateName ≠ editorMessageName := by decide
    rw [Content.offerAttributes, attributeOf]
    split
    · next hname => simp [hname, hnames]
    · split <;> simp
  offer c field text := by
    rw [Content.offer]
    split
    · rfl
    · cases field <;> rfl

theorem content_onEmpty (w : Walk) (tag : Tag) :
    (w.onEmpty tag).content = w.content.offerAttributes tag := by
  rw [Walk.onEmpty]
  split
  · rfl
  · split <;> rfl

namespace TakenFrom

variable {get : Content → Option String} {name : List Char} {key : String}

theorem onClose (h : TakenFrom get name key) (w : Walk) (closed : List Char) :
    get (w.onClose closed).content = get w.content := by
  have hcontent : (w.onClose closed).content = w.closeCapture.content :=
    (closeBlock_eq w.closeCapture closed).1
  rw [hcontent, Walk.closeCapture]
  split
  · rfl
  · split
    · exact h.offer _ _ _
    · rfl

theorem step (h : TakenFrom get name key) (w : Walk) (token : Token) :
    get (w.step token).content =
      (get w.content).or ((attributeOf name key token).map String.ofList) := by
  cases token with
  | start tag => exact h.offerAttributes w.content tag
  | empty tag =>
    rw [Walk.step, content_onEmpty]
    exact h.offerAttributes w.content tag
  | close closed =>
    rw [Walk.step, h.onClose]
    exact (Option.or_none).symm
  | _ => exact (Option.or_none).symm

/-- What is taken once and then kept is the first to be found. -/
theorem foldl (h : TakenFrom get name key) (tokens : List Token) (w : Walk) :
    get (tokens.foldl Walk.step w).content =
      (get w.content).or ((tokens.findSome? (attributeOf name key)).map String.ofList) := by
  induction tokens generalizing w with
  | nil => exact (Option.or_none).symm
  | cons token rest ih =>
    rw [List.foldl_cons, ih, h.step, Option.or_assoc, List.findSome?_cons]
    cases attributeOf name key token <;> rfl

end TakenFrom

/-! ## The content of a document -/

/-- **The texts and attributes of an article are those of its outline.** The outline holds every
event of the document, in order. The byline, the headline and the summary are found in it by
recursion, and the two attributes are the first that can be resolved among the events. -/
theorem texts_extract (document : String) :
    (outline document.toList).tokens = (events document.toList).1 ∧
      (extract document).byline = textsOf (outline document.toList) .byline ∧
      (extract document).headline = textsOf (outline document.toList) .headline ∧
      (extract document).summary = textsOf (outline document.toList) .summary ∧
      (extract document).issueDate =
        ((events document.toList).1.findSome? (attributeOf "date.issue".toList "norm")).map
          String.ofList ∧
      (extract document).editorMessage =
        ((events document.toList).1.findSome? (attributeOf "ed-msg".toList "info")).map
          String.ofList := by
  have htexts := (captures_outline document.toList).texts
  have hdate := takenFrom_issueDate.foldl (events document.toList).1 .start
  have hmessage := takenFrom_editorMessage.foldl (events document.toList).1 .start
  rw [extract, extractFrom, Walk.finish_eq_content]
  refine ⟨tokens_outline _, ?_, ?_, ?_, hdate, hmessage⟩
  · exact congrFun htexts .byline
  · exact congrFun htexts .headline
  · exact congrFun htexts .summary

/-- A blank byline, a date that cannot be resolved, a headline inside a byline, a headline by its
`id` with a reference that cannot be resolved, a second byline and a summary that is not closed. -/
def sampleArticle : String :=
  "<n:byline> </n:byline><date.issue norm='&no;'/><date.issue norm='2&#48;24'/>" ++
    "<byline>By <b id='headline'>A</b> &amp; <![CDATA[B&]]>\u00a0</byline>" ++
    "<abstract id='&#104;eadline'>C &no;</abstract><byline>D</byline>" ++
    "<x:ed-msg info='E'/><ed-msg info='F'/><abstract>G"

theorem texts_extract_sample :
    textsOf (outline sampleArticle.toList) .byline = some "By A & B&" ∧
      textsOf (outline sampleArticle.toList) .headline = some "C &no;" ∧
      textsOf (outline sampleArticle.toList) .summary = none ∧
      (extract sampleArticle).issueDate = some "2024" ∧
      (extract sampleArticle).editorMessage = some "E" := by
  have hcontent : extract sampleArticle =
      ⟨none, some "2024", some "By A & B&", some "C &no;", none, some "E"⟩ := by decide +kernel
  obtain ⟨-, hbyline, hheadline, hsummary, -⟩ := texts_extract sampleArticle
  rw [← hbyline, ← hheadline, ← hsummary, hcontent]
  decide

end NewsWire.Article

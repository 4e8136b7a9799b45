import Mathlib.Data.List.Infix
import NewsWire.Proofs.Lines
import NewsWire.Proofs.Outline

/-!
# Reading markup that was written

Where a token ends does not depend on what follows it, so a token that has been read and is written
again is read as the same token, whatever stands after it. What a token must satisfy for that is
`Readable`, and every event of a document satisfies it (`readable_of_mem_eventsWithin`).

For a tag the condition is about its quotation marks: `quoteAfter` tells which one is open after a
text, or that a closing angle bracket outside quotation marks has been passed. Blanks do not matter
to it (`quoteAfter_ink`). A comment or a literal section must not hold its own end mark.

A text of several tokens is read one token at a time. `ReadsWith` says that a reading comes to the
end of the text and meets only tags of a kind.
-/

namespace NewsWire.Markup

open NewsWire.Text

/-! ## Quotation marks

On its way to the end of a tag the reader remembers nothing but the quotation mark that is open. As
a function of the text alone, `quoteAfter` can be computed for a part of a tag, and for a tag whose
blanks have changed. -/

/-- The quotation mark that is open after one more character, if that does not end the tag. -/
def quoteStep (quote : Option Char) (c : Char) : Option (Option Char) :=
  match quote with
  | some q => some (if c = q then none else some q)
  | none =>
    if c = '>' then none else some (if c = '\x22' || c = '\x27' then some c else none)

/-- The quotation mark that is open after a text, if that does not end the tag. -/
def quoteAfter (quote : Option Char) (cs : List Char) : Option (Option Char) :=
  cs.foldlM quoteStep quote

theorem quoteStep_eq_none {quote : Option Char} {c : Char} :
    quoteStep quote c = none ↔ quote = none ∧ c = '>' := by
  cases quote <;> simp [quoteStep]

theorem quoteAfter_append (quote : Option Char) (cs ds : List Char) :
    quoteAfter quote (cs ++ ds) = (quoteAfter quote cs).bind fun q ↦ quoteAfter q ds :=
  List.foldlM_append

theorem quoteAfter_cons (quote : Option Char) (c : Char) (cs : List Char) :
    quoteAfter quote (c :: cs) = (quoteStep quote c).bind fun q ↦ quoteAfter q cs :=
  List.foldlM_cons

/-- If a text and the text before it leave no quotation mark open, neither does it alone. -/
theorem quoteAfter_of_append {cs ds : List Char} (h : quoteAfter none (cs ++ ds) = some none)
    (hcs : quoteAfter none cs = some none) : quoteAfter none ds = some none := by
  rwa [quoteAfter_append, hcs, Option.bind_some] at h

theorem quoteStep_of_blank {quote : Option Char} (hquote : ∀ q ∈ quote, isBlank q = false)
    {c : Char} (hc : isBlank c = true) : quoteStep quote c = some quote := by
  have hne : ∀ x, isBlank x = false → c ≠ x := by
    rintro x hx rfl
    rw [hc] at hx
    cases hx
  cases quote with
  | some q => rw [quoteStep, if_neg (hne q (hquote q rfl))]
  | none =>
    rw [quoteStep, if_neg (hne '>' rfl)]
    simp [hne '\x22' rfl, hne '\x27' rfl]

theorem quoteStep_quote {quote quote' : Option Char} {c : Char}
    (hquote : ∀ q ∈ quote, isBlank q = false) (h : quoteStep quote c = some quote') :
    ∀ q ∈ quote', isBlank q = false := by
  cases quote with
  | some q =>
    obtain rfl := Option.some.inj h
    split
    · rintro q ⟨⟩
    · exact hquote
  | none =>
    rw [quoteStep] at h
    split at h
    · cases h
    · obtain rfl := Option.some.inj h
      split
      · next hc =>
        rintro q ⟨⟩
        rw [Bool.or_eq_true, decide_eq_true_iff, decide_eq_true_iff] at hc
        obtain rfl | rfl := hc <;> rfl
      · rintro q ⟨⟩

theorem quoteAfter_ink {quote : Option Char} (hquote : ∀ q ∈ quote, isBlank q = false)
    (cs : List Char) : quoteAfter quote (ink cs) = quoteAfter quote cs := by
  induction cs generalizing quote with
  | nil => rfl
  | cons c cs ih =>
    by_cases hc : isBlank c = true
    · rw [ink, List.filter_cons_of_neg (by simp [hc]), ← ink, ih hquote, quoteAfter_cons,
        quoteStep_of_blank hquote hc, Option.bind_some]
    · rw [ink, List.filter_cons_of_pos (by simp [hc]), ← ink, quoteAfter_cons, quoteAfter_cons]
      cases hstep : quoteStep quote c with
      | none => rfl
      | some quote' => exact ih (quoteStep_quote hquote hstep)

/-! ## Where markup ends -/

theorem splitTag_of_step_eq_none {quote : Option Char} {c : Char} (h : quoteStep quote c = none)
    (cs : List Char) : splitTag quote (c :: cs) = some ([], cs) := by
  obtain ⟨rfl, rfl⟩ := quoteStep_eq_none.mp h
  rfl

theorem splitTag_of_step_eq_some {quote quote' : Option Char} {c : Char}
    (h : quoteStep quote c = some quote') (cs : List Char) :
    splitTag quote (c :: cs) = (splitTag quote' cs).map fun split ↦ (c :: split.1, split.2) := by
  cases quote with
  | some q =>
    obtain rfl := Option.some.inj h
    rfl
  | none =>
    rw [quoteStep] at h
    rw [splitTag]
    split at h
    · cases h
    · next hc =>
      obtain rfl := Option.some.inj h
      rw [if_neg hc]

/-- A tag ends at the first closing angle bracket outside quotation marks. -/
theorem splitTag_eq_some_iff {quote : Option Char} {cs t rest : List Char} :
    splitTag quote cs = some (t, rest) ↔
      cs = t ++ '>' :: rest ∧ quoteAfter quote t = some none := by
  induction cs generalizing quote t with
  | nil => simp [splitTag]
  | cons c cs ih =>
    cases hstep : quoteStep quote c with
    | none =>
      rw [splitTag_of_step_eq_none hstep]
      obtain ⟨rfl, rfl⟩ := quoteStep_eq_none.mp hstep
      cases t with
      | nil => simp [quoteAfter, eq_comm]
      | cons d t =>
        constructor
        · intro h
          cases h
        · rintro ⟨h, hq⟩
          obtain ⟨rfl, -⟩ := List.cons.inj h
          rw [quoteAfter_cons, hstep] at hq
          cases hq
    | some q =>
      rw [splitTag_of_step_eq_some hstep, Option.map_eq_some_iff]
      cases t with
      | nil =>
        constructor
        · rintro ⟨split, -, h⟩
          cases (Prod.mk.inj h).1
        · rintro ⟨h, hq⟩
          obtain ⟨rfl, -⟩ := List.cons.inj h
          obtain rfl := Option.some.inj hq
          cases hstep
      | cons d t =>
        constructor
        · rintro ⟨⟨t', rest'⟩, h, heq⟩
          obtain ⟨ht, rfl⟩ := Prod.mk.inj heq
          obtain ⟨rfl, rfl⟩ := List.cons.inj ht
          obtain ⟨rfl, hq⟩ := ih.mp h
          exact ⟨rfl, by rw [quoteAfter_cons, hstep, Option.bind_some, hq]⟩
        · rintro ⟨h, hq⟩
          obtain ⟨rfl, rfl⟩ := List.cons.inj h
          rw [quoteAfter_cons, hstep, Option.bind_some] at hq
          exact ⟨(t, rest), ih.mpr ⟨rfl, hq⟩, rfl⟩

/-- Other markup ends at the first closing angle bracket at which the end is seen. -/
theorem splitMarkup_eq_some {isEnd : List Char → Bool} {passed cs t rest : List Char}
    (h : splitMarkup isEnd passed cs = some (t, rest)) :
    ∃ t', t = passed.reverse ++ t' ∧ isEnd (t'.reverse ++ passed) = true ∧
      ∀ pre post, t' = pre ++ '>' :: post → isEnd (pre.reverse ++ passed) = false := by
  induction cs generalizing passed with
  | nil => cases h
  | cons c cs ih =>
    rw [splitMarkup] at h
    split at h
    · next hc =>
      rw [Bool.and_eq_true] at hc
      obtain ⟨rfl, rfl⟩ := Prod.mk.inj (Option.some.inj h)
      exact ⟨[], (List.append_nil _).symm, hc.2, fun pre post h ↦ by simp at h⟩
    · next hc =>
      obtain ⟨t', rfl, hend, hbefore⟩ := ih h
      refine ⟨c :: t', by simp, by simpa using hend, fun pre post hpre ↦ ?_⟩
      cases pre with
      | nil =>
        obtain ⟨rfl, -⟩ := List.cons.inj hpre
        simpa using hc
      | cons d pre =>
        obtain ⟨rfl, htail⟩ := List.cons.inj hpre
        simpa using hbefore pre post htail

theorem splitMarkup_append {isEnd : List Char → Bool} {passed t : List Char}
    (hend : isEnd (t.reverse ++ passed) = true)
    (hbefore : ∀ pre post, t = pre ++ '>' :: post → isEnd (pre.reverse ++ passed) = false)
    (rest : List Char) :
    splitMarkup isEnd passed (t ++ '>' :: rest) = some (passed.reverse ++ t, rest) := by
  induction t generalizing passed with
  | nil =>
    rw [List.reverse_nil, List.nil_append] at hend
    rw [List.nil_append, splitMarkup, hend, List.append_nil]
    rfl
  | cons c t ih =>
    have hc : ¬(c = '>' && isEnd passed) = true := by
      intro h
      rw [Bool.and_eq_true, decide_eq_true_iff] at h
      have := hbefore [] t (by rw [h.1, List.nil_append])
      rw [List.reverse_nil, List.nil_append, h.2] at this
      cases this
    rw [List.cons_append, splitMarkup, if_neg hc, ih]
    · rw [List.reverse_cons, List.append_assoc, List.singleton_append]
    · simpa using hend
    · intro pre post h
      simpa using hbefore (c :: pre) post (by rw [h, List.cons_append])

theorem append_of_splitMarkup {isEnd : List Char → Bool} {passed cs t rest : List Char}
    (h : splitMarkup isEnd passed cs = some (t, rest)) :
    passed.reverse ++ cs = t ++ '>' :: rest := by
  induction cs generalizing passed with
  | nil => cases h
  | cons c cs ih =>
    rw [splitMarkup] at h
    split at h
    · next hc =>
      rw [Bool.and_eq_true, decide_eq_true_iff] at hc
      obtain ⟨rfl, rfl⟩ := Prod.mk.inj (Option.some.inj h)
      rw [hc.1]
    · rw [← ih h, List.reverse_cons, List.append_assoc, List.singleton_append]

theorem eq_append_of_splitMarkup {isEnd : List Char → Bool} {cs t rest : List Char}
    (h : splitMarkup isEnd [] cs = some (t, rest)) : cs = t ++ '>' :: rest :=
  append_of_splitMarkup h

/-! ## Comments and literal sections

Comments and literal sections differ in their marks, and that a mark must not occur inside is the
same argument for both. `Delimited` is what the two have in common. -/

theorem inner_append (first content last : List Char) :
    inner first.length last.length (first ++ (content ++ last)) = content := by
  rw [inner, ← List.append_assoc, List.length_append, Nat.add_sub_cancel, List.take_left,
    List.drop_left]

theorem append_eq_append_cons {as bs pre post : List Char} {c : Char}
    (h : as ++ bs = pre ++ c :: post) (hc : c ∉ as) : ∃ p, pre = as ++ p ∧ bs = p ++ c :: post := by
  obtain ⟨p, rfl, hp⟩ | ⟨q, rfl, hq⟩ := List.append_eq_append_iff.mp h
  · exact ⟨p, rfl, hp⟩
  · cases q with
    | nil => exact ⟨[], by simp, hq.symm⟩
    | cons d q =>
      obtain ⟨rfl, -⟩ := List.cons.inj hq
      simp at hc

theorem eq_append_cons_of_append {as bs pre post : List Char} {c : Char}
    (h : as ++ bs = pre ++ c :: post) (hc : c ∉ bs) : ∃ q, as = pre ++ c :: q := by
  obtain ⟨p, rfl, hp⟩ | ⟨q, rfl, hq⟩ := List.append_eq_append_iff.mp h
  · simp [hp] at hc
  · cases q with
    | nil =>
      rw [List.nil_append] at hq
      exact absurd (hq ▸ List.mem_cons_self) hc
    | cons d q =>
      obtain ⟨rfl, -⟩ := List.cons.inj hq
      exact ⟨q, rfl⟩

/-- Markup that begins with an opening of its own and ends where a closing angle bracket follows a
mark after the opening. -/
structure Delimited (isEnd : List Char → Bool) (opening mark : List Char) : Prop where
  isEnd_iff : ∀ pre, isEnd (pre.reverse ++ opening.reverse) = true ↔ mark <:+ pre
  opening_plain : '>' ∉ opening
  mark_plain : '>' ∉ mark

namespace Delimited

variable {isEnd : List Char → Bool} {opening mark : List Char}

/-- What has been split off holds the end mark nowhere but at its end. -/
theorem exists_content (hd : Delimited isEnd opening mark) {cs t rest : List Char}
    (h : splitMarkup isEnd [] cs = some (t, rest)) (ht : t.take opening.length = opening) :
    ∃ content, t = opening ++ (content ++ mark) ∧ ¬mark ++ ['>'] <:+: content := by
  obtain ⟨t, rfl, hend, hbefore⟩ := splitMarkup_eq_some h
  change t.take opening.length = opening at ht
  have htake := List.take_append_drop opening.length t
  rw [ht] at htake
  rw [← htake, List.append_nil, List.reverse_append, hd.isEnd_iff] at hend
  obtain ⟨content, hcontent⟩ := hend
  rw [← hcontent] at htake
  refine ⟨content, htake.symm, ?_⟩
  rintro ⟨p, q, rfl⟩
  have hnot := hbefore (opening ++ (p ++ mark)) (q ++ mark) (by simp [← htake])
  rw [List.append_nil, List.reverse_append,
    (hd.isEnd_iff (p ++ mark)).mpr (List.suffix_append p mark)] at hnot
  cases hnot

theorem splitMarkup_eq (hd : Delimited isEnd opening mark) {content : List Char}
    (h : ¬mark ++ ['>'] <:+: content) (rest : List Char) :
    splitMarkup isEnd [] (opening ++ (content ++ mark) ++ '>' :: rest) =
      some (opening ++ (content ++ mark), rest) := by
  refine splitMarkup_append ?_ (fun pre post hpre ↦ ?_) rest
  · rw [List.append_nil, List.reverse_append, hd.isEnd_iff]
    exact List.suffix_append content mark
  · -- A closing angle bracket is one of the content, and the mark does not stand before it.
    obtain ⟨p, rfl, hp⟩ := append_eq_append_cons hpre hd.opening_plain
    obtain ⟨q, rfl⟩ := eq_append_cons_of_append hp hd.mark_plain
    rw [List.append_nil, List.reverse_append, ← Bool.not_eq_true, hd.isEnd_iff]
    rintro ⟨v, rfl⟩
    exact h ⟨v, q, by simp⟩

end Delimited

theorem delimited_comment : Delimited isCommentEnd ['!', '-', '-'] ['-', '-'] where
  isEnd_iff pre := by
    rw [← List.reverse_prefix, isCommentEnd]
    match pre.reverse with
    | [] => simp
    | [a] => simp
    | a :: b :: w => simp [@eq_comm _ '-']
  opening_plain := by decide
  mark_plain := by decide

theorem delimited_literal :
    Delimited isLiteralEnd ['!', '[', 'C', 'D', 'A', 'T', 'A', '['] [']', ']'] where
  isEnd_iff pre := by
    rw [← List.reverse_prefix, isLiteralEnd]
    match pre.reverse with
    | [] => simp
    | [a] => simp
    | a :: b :: w => simp [@eq_comm _ ']']
  opening_plain := by decide
  mark_plain := by decide

/-! ## Tokens

A token that has been read carries less than the text it came from: blanks after the name of a close
are gone, and a document type is an instruction like any other. What is kept is enough to write a
token that is read as it was, and `Readable` is what the writing relies on, said of the token alone.
-/

/-- A name without blanks, and nothing after it or a blank first. -/
structure ProperTag (tag : Tag) : Prop where
  name : ∀ c ∈ tag.name, isSpace c = false
  attributes : ∀ c ∈ tag.attributes.head?, isSpace c = true

theorem properTag_ofText (t : List Char) : ProperTag (.ofText t) where
  name c hc := by simpa using List.mem_takeWhile_imp hc
  attributes c hc := by
    have h := List.head?_dropWhile_not (fun c ↦ !isSpace c) t
    rw [Option.mem_def, Tag.ofText] at hc
    simpa [hc] using h

theorem ofText_append {tag : Tag} (h : ProperTag tag) :
    Tag.ofText (tag.name ++ tag.attributes) = tag := by
  have hname : ∀ c ∈ tag.name, (!isSpace c) = true := fun c hc ↦ by rw [h.name c hc, Bool.not_false]
  rw [Tag.ofText, List.takeWhile_append_of_pos hname, List.dropWhile_append_of_pos hname]
  cases hattributes : tag.attributes with
  | nil =>
    rw [List.takeWhile_nil, List.dropWhile_nil, List.append_nil, ← hattributes]
  | cons c cs =>
    have hc : isSpace c = true := h.attributes c (by rw [hattributes]; rfl)
    rw [List.takeWhile_cons_of_neg (by simp [hc]), List.dropWhile_cons_of_neg (by simp [hc]),
      List.append_nil, ← hattributes]

theorem readTag_start {tag : Tag} (h : ProperTag tag)
    (hlast : (tag.name ++ tag.attributes).getLast? ≠ some '/') :
    readTag (tag.name ++ tag.attributes) = .start tag := by
  rw [readTag, if_neg hlast, ofText_append h]

theorem readTag_empty {tag : Tag} (h : ProperTag tag) :
    readTag (tag.name ++ (tag.attributes ++ ['/'])) = .empty tag := by
  rw [readTag, ← List.append_assoc, if_pos List.getLast?_concat, List.dropLast_concat,
    ofText_append h]

/-- What can stand between the brackets of a start tag or an empty element's tag. -/
structure TagText (t : List Char) : Prop where
  begins : ∀ c ∈ t.head?, c ≠ '!' ∧ c ≠ '?' ∧ c ≠ '/'
  closed : quoteAfter none t = some none

theorem nextMarkup_tag {c : Char} (h : c ≠ '!' ∧ c ≠ '?' ∧ c ≠ '/') (cs : List Char) :
    nextMarkup (c :: cs) = .ofSplit (fun t ↦ .ok (readTag t)) (splitTag none (c :: cs)) := by
  obtain ⟨hdeclaration, hinstruction, hclose⟩ := h
  rw [nextMarkup.eq_def]
  split
  · next hcs => cases hcs
  · next hcs => exact absurd (List.cons.inj hcs).1 hdeclaration
  · next hcs => exact absurd (List.cons.inj hcs).1 hinstruction
  · next hcs => exact absurd (List.cons.inj hcs).1 hclose
  · rfl

theorem nextToken_tag {t : List Char} (h : TagText t) (rest : List Char) :
    nextToken ('<' :: (t ++ '>' :: rest)) = .next (readTag t) rest := by
  have hsplit : splitTag none (t ++ '>' :: rest) = some (t, rest) :=
    splitTag_eq_some_iff.mpr ⟨rfl, h.closed⟩
  have hmarkup : nextMarkup (t ++ '>' :: rest) =
      .ofSplit (fun t ↦ .ok (readTag t)) (splitTag none (t ++ '>' :: rest)) := by
    cases t with
    | nil => exact nextMarkup_tag (by decide) rest
    | cons c t => exact nextMarkup_tag (h.begins c rfl) _
  rw [nextToken, if_pos rfl, hmarkup, hsplit]
  rfl

theorem nextToken_close {name : List Char} (hclosed : quoteAfter none name = some none)
    (hspace : ∀ c ∈ name, isSpace c = false) (rest : List Char) :
    nextToken ('<' :: '/' :: (name ++ '>' :: rest)) = .next (.close name) rest := by
  have hsplit : splitTag none (name ++ '>' :: rest) = some (name, rest) :=
    splitTag_eq_some_iff.mpr ⟨rfl, hclosed⟩
  have hread : readClose name = .close name := by
    rw [readClose]
    have hdrop : name.reverse.dropWhile isSpace = name.reverse := by
      cases hrev : name.reverse with
      | nil => rfl
      | cons c cs =>
        have hc : c ∈ name := List.mem_reverse.mp (hrev ▸ List.mem_cons_self)
        rw [List.dropWhile_cons_of_neg (by simp [hspace c hc])]
    rw [hdrop]
    split
    · rfl
    · rw [List.reverse_reverse]
  rw [nextToken, if_pos rfl, nextMarkup, hsplit, Step.ofSplit, hread]

theorem readComment_append (content : List Char) :
    readComment (['!', '-', '-'] ++ (content ++ ['-', '-'])) = .ok (.comment content) :=
  congrArg (fun content ↦ Except.ok (Token.comment content))
    (inner_append ['!', '-', '-'] content ['-', '-'])

theorem readLiteral_append (content : List Char) :
    readLiteral (['!', '[', 'C', 'D', 'A', 'T', 'A', '['] ++ (content ++ [']', ']'])) =
      .ok (.literal content) :=
  congrArg (fun content ↦ Except.ok (Token.literal content))
    (inner_append ['!', '[', 'C', 'D', 'A', 'T', 'A', '['] content [']', ']'])

theorem nextToken_comment {content : List Char} (h : ¬['-', '-', '>'] <:+: content)
    (rest : List Char) :
    nextToken (['<', '!', '-', '-'] ++ (content ++ (['-', '-', '>'] ++ rest))) =
      .next (.comment content) rest := by
  have hsplit := delimited_comment.splitMarkup_eq h rest
  have hread := readComment_append content
  simp only [List.cons_append, List.nil_append, List.append_assoc] at hsplit hread ⊢
  rw [nextToken, if_pos rfl, nextMarkup, hsplit, Step.ofSplit, hread]

theorem nextToken_literal {content : List Char} (h : ¬[']', ']', '>'] <:+: content)
    (rest : List Char) :
    nextToken (['<', '!', '[', 'C', 'D', 'A', 'T', 'A', '['] ++
      (content ++ ([']', ']', '>'] ++ rest))) = .next (.literal content) rest := by
  have hsplit := delimited_literal.splitMarkup_eq h rest
  have hread := readLiteral_append content
  simp only [List.cons_append, List.nil_append, List.append_assoc] at hsplit hread ⊢
  rw [nextToken, if_pos rfl, nextMarkup, hsplit, Step.ofSplit, hread]

/-- What every token that has been read satisfies, and what it takes to read it again. -/
def Readable : Token → Prop
  | .text raw => '<' ∉ raw
  | .start tag => ∃ t, TagText t ∧ t.getLast? ≠ some '/' ∧ tag = .ofText t
  | .empty tag => ∃ t, TagText (t ++ ['/']) ∧ tag = .ofText t
  | .close name => quoteAfter none name = some none
  | .comment content => ¬['-', '-', '>'] <:+: content
  | .literal content => ¬[']', ']', '>'] <:+: content
  | .instruction _ => True

theorem Step.ofSplit_eq_next {read : List Char → Except Fault Token}
    {split : Option (List Char × List Char)} {token : Token} {rest : List Char}
    (h : Step.ofSplit read split = .next token rest) :
    ∃ t, split = some (t, rest) ∧ read t = .ok token := by
  cases split with
  | none => cases h
  | some s =>
    obtain ⟨t, r⟩ := s
    rw [Step.ofSplit] at h
    cases hread : read t with
    | error fault =>
      rw [hread] at h
      cases h
    | ok token' =>
      rw [hread] at h
      obtain ⟨rfl, rfl⟩ := Step.next.inj h
      exact ⟨t, rfl, hread⟩

theorem isBlank_of_isSpace {c : Char} (h : isSpace c = true) : isBlank c = true := by
  simp only [isSpace, Bool.or_eq_true, beq_iff_eq] at h
  obtain ((rfl | rfl) | rfl) | rfl := h <;> rfl

theorem readable_readClose {t : List Char} (h : quoteAfter none t = some none) :
    Readable (readClose t) := by
  have hnone : ∀ q ∈ (none : Option Char), isBlank q = false := by
    rintro q ⟨⟩
  have hspaces : ink (t.reverse.takeWhile isSpace).reverse = [] := by
    rw [ink, List.filter_eq_nil_iff]
    intro c hc
    rw [List.mem_reverse] at hc
    simp [isBlank_of_isSpace (List.mem_takeWhile_imp hc)]
  have ht : (t.reverse.dropWhile isSpace).reverse ++ (t.reverse.takeWhile isSpace).reverse = t := by
    rw [← List.reverse_append, List.takeWhile_append_dropWhile, List.reverse_reverse]
  rw [readClose]
  split
  · exact h
  · rw [← quoteAfter_ink hnone, ← ht, ink_append, hspaces,
      List.append_nil, quoteAfter_ink hnone] at h
    exact h

theorem readable_readTag {t : List Char} (h : TagText t) : Readable (readTag t) := by
  rw [readTag]
  split
  · next hlast =>
    refine ⟨t.dropLast, ?_, rfl⟩
    rwa [List.dropLast_append_getLast? '/' hlast]
  · next hlast => exact ⟨t, h, hlast, rfl⟩

theorem exists_comment {cs t rest : List Char} {token : Token}
    (hsplit : splitMarkup isCommentEnd [] cs = some (t, rest)) (h : readComment t = .ok token) :
    ∃ content, token = .comment content ∧ t = ['!', '-', '-'] ++ (content ++ ['-', '-']) ∧
      ¬['-', '-', '>'] <:+: content := by
  have ht : t.take 3 = ['!', '-', '-'] := by
    by_contra hne
    rw [readComment, if_neg (by simpa using hne)] at h
    cases h
  obtain ⟨content, rfl, hcontent⟩ := delimited_comment.exists_content hsplit ht
  exact ⟨content, (Except.ok.inj ((readComment_append content).symm.trans h)).symm, rfl, hcontent⟩

theorem exists_literal_section {cs t rest : List Char} {token : Token}
    (hsplit : splitMarkup isLiteralEnd [] cs = some (t, rest)) (h : readLiteral t = .ok token) :
    ∃ content, token = .literal content ∧
      t = ['!', '[', 'C', 'D', 'A', 'T', 'A', '['] ++ (content ++ [']', ']']) ∧
      ¬[']', ']', '>'] <:+: content := by
  have ht : t.take 8 = ['!', '[', 'C', 'D', 'A', 'T', 'A', '['] := by
    by_contra hne
    rw [readLiteral, if_neg (by simpa using hne)] at h
    cases h
  obtain ⟨content, rfl, hcontent⟩ := delimited_literal.exists_content hsplit ht
  exact ⟨content, (Except.ok.inj ((readLiteral_append content).symm.trans h)).symm, rfl, hcontent⟩

theorem exists_documentType {t : List Char} {token : Token} (h : readDocumentType t = .ok token) :
    ∃ content, token = .instruction content := by
  rw [readDocumentType] at h
  split at h
  · split at h
    · cases h
    · exact ⟨_, (Except.ok.inj h).symm⟩
  · cases h

theorem exists_instruction {t : List Char} {token : Token} (h : readInstruction t = .ok token) :
    ∃ content, token = .instruction content := by
  rw [readInstruction] at h
  split at h
  · exact ⟨_, (Except.ok.inj h).symm⟩
  · cases h

theorem readable_of_nextMarkup {cs rest : List Char} {token : Token}
    (h : nextMarkup cs = .next token rest) : Readable token := by
  rw [nextMarkup.eq_def] at h
  split at h
  · cases h
  · split at h
    · cases h
    · obtain ⟨t, hsplit, hread⟩ := Step.ofSplit_eq_next h
      obtain ⟨content, rfl, -, hcontent⟩ := exists_comment hsplit hread
      exact hcontent
    · obtain ⟨t, hsplit, hread⟩ := Step.ofSplit_eq_next h
      obtain ⟨content, rfl, -, hcontent⟩ := exists_literal_section hsplit hread
      exact hcontent
    · obtain ⟨t, -, hread⟩ := Step.ofSplit_eq_next h
      obtain ⟨content, rfl⟩ := exists_documentType hread
      trivial
    · obtain ⟨t, -, hread⟩ := Step.ofSplit_eq_next h
      obtain ⟨content, rfl⟩ := exists_documentType hread
      trivial
    · cases h
  · obtain ⟨t, -, hread⟩ := Step.ofSplit_eq_next h
    obtain ⟨content, rfl⟩ := exists_instruction hread
    trivial
  · obtain ⟨t, hsplit, hread⟩ := Step.ofSplit_eq_next h
    obtain rfl := Except.ok.inj hread
    exact readable_readClose (splitTag_eq_some_iff.mp hsplit).2
  · next hdeclaration hinstruction hclose =>
    obtain ⟨t, hsplit, hread⟩ := Step.ofSplit_eq_next h
    obtain rfl := Except.ok.inj hread
    obtain ⟨rfl, hquote⟩ := splitTag_eq_some_iff.mp hsplit
    refine readable_readTag ⟨fun c hc ↦ ?_, hquote⟩
    cases t with
    | nil => cases hc
    | cons d t =>
      obtain rfl := Option.some.inj hc
      refine ⟨?_, ?_, ?_⟩
      · rintro rfl
        exact hdeclaration _ rfl
      · rintro rfl
        exact hinstruction _ rfl
      · rintro rfl
        exact hclose _ rfl

theorem readable_of_nextToken {cs rest : List Char} {token : Token}
    (h : nextToken cs = .next token rest) : Readable token := by
  rw [nextToken.eq_def] at h
  split at h
  · cases h
  · next c cs =>
    split at h
    · exact readable_of_nextMarkup h
    · obtain ⟨rfl, -⟩ := Step.next.inj h
      intro hmem
      simpa using List.mem_takeWhile_imp hmem

theorem readable_of_mem_eventsWithin {names : OpenNames} {cs : List Char} {token : Token}
    (h : token ∈ (eventsWithin names cs).1) : Readable token := by
  induction names, cs using eventsWithin_cases with
  | stop names cs hnone =>
    rw [hnone] at h
    cases h
  | next names names' cs rest token' hn hafter ih =>
    rw [eventsWithin_of_next hn hafter, List.mem_cons] at h
    obtain rfl | h := h
    · exact readable_of_nextToken hn
    · exact ih h

/-! ## Reading to the end

The kind of tags is a parameter, because what a body must not hold is not the business of reading.
Where it is true of all tags, `ReadsWith` says only that nothing is wrong with the text. -/

/-- The reading comes to the end of the text, and every element that begins in it has a tag of the
kind. -/
def ReadsWith (P : Tag → Prop) (names : OpenNames) (cs : List Char) : Prop :=
  (eventsWithin names cs).2 = .complete ∧
    ∀ token ∈ (eventsWithin names cs).1, ∀ tag, token = .start tag ∨ token = .empty tag → P tag

section ReadsWith

variable {P : Tag → Prop} {names names' : OpenNames} {cs rest : List Char} {token : Token}

theorem readsWith_nil : ReadsWith P names [] := by
  rw [ReadsWith, eventsWithin_nil]
  refine ⟨rfl, fun token h ↦ ?_⟩
  cases h

theorem readsWith_of_next (hn : nextToken cs = .next token rest)
    (hafter : names.after token = .ok names') :
    ReadsWith P names cs ↔
      (∀ tag, token = .start tag ∨ token = .empty tag → P tag) ∧ ReadsWith P names' rest := by
  rw [ReadsWith, ReadsWith, eventsWithin_of_next hn hafter, List.forall_mem_cons]
  exact and_left_comm

end ReadsWith

end NewsWire.Markup

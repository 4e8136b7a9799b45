import NewsWire.Proofs.Body
import NewsWire.Proofs.Reading

/-!
# The body is read again

A fragment is written from a tree, so it opens and closes its elements in order and holds no media
reference and no subheading that is not promoted. But its lines are trimmed and run together after
it has been written, and that does not stop at the brackets of a tag: a line feed between a name and
an attribute goes, and so does one that keeps two dashes of a comment from closing it.

`Joinable` says which tokens are safe from that. All tokens without line feeds are, but for an empty
subheading with an open quotation mark in its name. A tag that is broken over lines is too, as long
as something stands after its name in the line of the name, or nothing but blanks comes after its
name at all (`KeepsName`). If all that is kept of the body blocks is safe, the body is read without
a fault (`events_body`).

The proof reads the joined lines of a forest token by token, from the right. Joining leaves the
parts of a tag in place (`joinLinesFrom_tag`), and where its quotation marks open and close does not
depend on blanks. So each token is read as one that is written in the same way, and the body as a
whole is not only read, but read back (`ReadsBack`).
-/

namespace NewsWire.Article

open NewsWire.Markup NewsWire.Text

/-! ## What joining leaves of a token -/

/-- Joining lines leaves the name of a tag as it is: in the line of the name there is more than
blanks after it, or there are only blanks after it at all and none at its end. -/
def KeepsName (tag : Tag) : Prop :=
  '\n' ∈ tag.attributes → endsLine tag.attributes = false ∨
    ink tag.attributes = [] ∧ ∃ c ∈ tag.name.getLast?, isBlank c = false

instance (tag : Tag) : Decidable (KeepsName tag) :=
  -- The last character is looked at, instead of all characters one after another.
  have : Decidable (∃ c ∈ tag.name.getLast?, isBlank c = false) := Option.decidableExistsMem _
  inferInstanceAs (Decidable (_ → _ ∨ _ ∧ _))

/-- Joining the lines of what is written of a token leaves it a token of its kind. -/
def Joinable : Token → Prop
  | .start tag =>
    KeepsName tag ∧
      ('\n' ∈ tag.attributes → (ink (tag.name ++ tag.attributes)).getLast? ≠ some '/')
  | .empty tag =>
    (tag.localName = subheadingName → quoteAfter none tag.name = some none) ∧ KeepsName tag
  | .comment content => '\n' ∈ content → ¬['-', '-', '>'] <:+: ink content
  | .literal content => '\n' ∈ content → ¬[']', ']', '>'] <:+: ink content
  | _ => True

instance : DecidablePred Joinable
  | .text _ | .close _ | .instruction _ => inferInstanceAs (Decidable True)
  | .start _ | .empty _ => inferInstanceAs (Decidable (_ ∧ _))
  | .comment content =>
    inferInstanceAs (Decidable ('\n' ∈ content → ¬['-', '-', '>'] <:+: ink content))
  | .literal content =>
    inferInstanceAs (Decidable ('\n' ∈ content → ¬[']', ']', '>'] <:+: ink content))

/-- Attributes that joining may leave of those of a tag. Where nothing is left of them, they have
stood after a name. -/
structure Thins (attributes : List Char) (tag : Tag) : Prop where
  ink_eq : ink attributes = ink tag.attributes
  head?_eq : attributes.head? = tag.attributes.head? ∨ attributes = [] ∧ tag.name ≠ []
  eq_of_line : '\n' ∉ tag.attributes → attributes = tag.attributes

theorem feed_notMem_of_forall_isSpace {cs : List Char} (h : ∀ c ∈ cs, isSpace c = false) :
    '\n' ∉ cs := by
  intro hmem
  cases h '\n' hmem

theorem joinLinesFrom_tag {tag : Tag} (hproper : ProperTag tag) (hname : KeepsName tag)
    {closing : List Char} (hclosing : Solid closing) (fresh : Bool) (rest : List Char) :
    ∃ attributes, Thins attributes tag ∧
      joinLinesFrom fresh ('<' :: (tag.name ++ (tag.attributes ++ (closing ++ rest)))) =
        '<' :: (tag.name ++ (attributes ++ (closing ++ joinLinesFrom false rest))) := by
  have hline := feed_notMem_of_forall_isSpace hproper.name
  have hopening : Solid ['<'] := solid_of_any (by decide) (by decide)
  rw [← List.singleton_append, joinLinesFrom_solid hopening, List.singleton_append]
  by_cases hfeed : '\n' ∈ tag.attributes
  · obtain hattributes | ⟨hblank, hlast⟩ := hname hfeed
    · -- The line of the name goes on, so the blank after the name is kept.
      obtain ⟨kept, fresh', hink, hhead, hkept⟩ :=
        exists_joinLinesFrom_of_line hline hattributes (closing ++ rest)
      refine ⟨kept, ⟨hink, .inl hhead, fun h ↦ absurd hfeed h⟩, ?_⟩
      rw [hkept, joinLinesFrom_solid hclosing]
    · -- Nothing but blanks comes after the name, and nothing of them is kept.
      have hne : tag.name ≠ [] := by
        intro hnil
        rw [hnil] at hlast
        obtain ⟨c, hc, -⟩ := hlast
        cases hc
      refine ⟨[], ⟨hblank.symm, .inr ⟨rfl, hne⟩, fun h ↦ absurd hfeed h⟩, ?_⟩
      rw [joinLinesFrom_of_getLast hline hlast,
        joinLinesFrom_blanks_of_feed (ink_eq_nil_iff.mp hblank) hfeed, joinLinesFrom_solid hclosing,
        List.nil_append]
  · have hfirst : '\n' ∉ tag.name ++ tag.attributes := by
      rw [List.mem_append, not_or]
      exact ⟨hline, hfeed⟩
    refine ⟨tag.attributes, ⟨rfl, .inl rfl, fun _ ↦ rfl⟩, ?_⟩
    rw [← List.append_assoc, joinLinesFrom_line hfirst (endsLine_solid hclosing rest),
      joinLinesFrom_solid hclosing, List.append_assoc]

/-! ## Tags as they are written -/

/-- The tag is neither that of a subheading nor that of a media reference. -/
def Filtered (tag : Tag) : Prop :=
  tag.localName ≠ subheadingName ∧ tag.localName ≠ mediaName

theorem filtered_output {tag : Tag} (h : tag.localName ≠ mediaName) (attributes : List Char) :
    Filtered ⟨outputName tag.name, attributes⟩ := by
  rw [Filtered, Tag.localName, outputName]
  split
  · change localName promotedName ≠ subheadingName ∧ localName promotedName ≠ mediaName
    decide
  · next hname => exact ⟨hname, h⟩

theorem Thins.head?_append {attributes last : List Char} {tag : Tag} (h : Thins attributes tag) :
    (tag.name ++ (attributes ++ last)).head? = (tag.name ++ (tag.attributes ++ last)).head? := by
  obtain hhead | ⟨-, hne⟩ := h.head?_eq
  · rw [List.head?_append, List.head?_append, hhead, ← List.head?_append, ← List.head?_append]
  · rw [List.head?_append_of_ne_nil _ hne, List.head?_append_of_ne_nil _ hne]

theorem keepsName_output {tag : Tag} (h : KeepsName tag) :
    KeepsName ⟨outputName tag.name, tag.attributes⟩ := by
  rw [outputName]
  split
  · exact fun hfeed ↦ (h hfeed).imp id fun hblank ↦ ⟨hblank.1, '1', rfl, rfl⟩
  · exact h

/-- Only an empty name is written as an empty one. -/
theorem thins_of_output {tag : Tag} {attributes : List Char}
    (h : Thins attributes ⟨outputName tag.name, tag.attributes⟩) : Thins attributes tag where
  ink_eq := h.ink_eq
  head?_eq := by
    have hnil : outputName [] = [] := by decide
    refine h.head?_eq.imp id fun hempty ↦ ⟨hempty.1, fun hname ↦ hempty.2 ?_⟩
    rw [hname, hnil]
  eq_of_line := h.eq_of_line

theorem isSpace_outputName {name : List Char} (h : ∀ c ∈ name, isSpace c = false) :
    ∀ c ∈ outputName name, isSpace c = false := by
  rw [outputName]
  split
  · exact eq_false_of_any (by decide)
  · exact h

theorem properTag_output {tag : Tag} (h : ProperTag tag) {attributes : List Char}
    (hthin : Thins attributes tag) : ProperTag ⟨outputName tag.name, attributes⟩ where
  name := isSpace_outputName h.name
  attributes := by
    obtain hhead | ⟨rfl, -⟩ := hthin.head?_eq
    · rw [hhead]
      exact h.attributes
    · rintro c ⟨⟩

theorem tagText_output {tag : Tag} {attributes last : List Char}
    (h : TagText (tag.name ++ (tag.attributes ++ last))) (hthin : Thins attributes tag)
    (hclosed : tag.localName = subheadingName → quoteAfter none tag.name = some none) :
    TagText (outputName tag.name ++ (attributes ++ last)) := by
  have hnone : ∀ q ∈ (none : Option Char), isBlank q = false := by
    rintro q ⟨⟩
  have hink : ∀ name, quoteAfter none (name ++ (attributes ++ last)) =
      quoteAfter none (name ++ (tag.attributes ++ last)) := by
    intro name
    rw [← quoteAfter_ink hnone, ← quoteAfter_ink hnone (name ++ (tag.attributes ++ last)),
      ink_append, ink_append, ink_append, ink_append, hthin.ink_eq]
  rw [outputName]
  split
  · next hname =>
    -- No quotation mark is open after the name, nor after the name it is written with.
    have hpromoted : quoteAfter none promotedName = some none := by decide
    refine ⟨?_, ?_⟩
    · rintro c ⟨⟩
      decide
    · rw [hink, quoteAfter_append, hpromoted]
      exact quoteAfter_of_append h.closed (hclosed hname)
  · refine ⟨?_, by rw [hink, h.closed]⟩
    rw [hthin.head?_append]
    exact h.begins

theorem getLast?_output {tag : Tag} {attributes : List Char}
    (h : (tag.name ++ tag.attributes).getLast? ≠ some '/')
    (hlast : '\n' ∈ tag.attributes → (ink (tag.name ++ tag.attributes)).getLast? ≠ some '/')
    (hthin : Thins attributes tag) :
    (outputName tag.name ++ attributes).getLast? ≠ some '/' := by
  -- A promoted name does not end with a slash, so one that comes last is one of the attributes.
  have houtput : ∀ more : List Char, (tag.name ++ more).getLast? ≠ some '/' →
      (outputName tag.name ++ more).getLast? ≠ some '/' := by
    intro more hmore
    rw [outputName]
    split
    · cases hm : more.getLast? with
      | none =>
        rw [List.getLast?_append, hm]
        decide
      | some c =>
        rw [List.getLast?_append, hm] at hmore ⊢
        exact hmore
    · exact hmore
  refine houtput attributes fun hslash ↦ ?_
  by_cases hfeed : '\n' ∈ tag.attributes
  · -- A slash that comes last after joining is the last of what is not blank.
    have hink := getLast?_ink hslash (by decide)
    rw [ink_append, hthin.ink_eq, ← ink_append] at hink
    exact hlast hfeed hink
  · rw [hthin.eq_of_line hfeed] at hslash
    exact h hslash

theorem outputName_outputName (name : List Char) :
    outputName (outputName name) = outputName name := by
  rw [outputName.eq_def name]
  split
  · decide
  · next hname => rw [outputName, if_neg hname]

/-! ## Markup that is read back

That a text is read without a fault would be enough for this module, but it is not preserved when
texts are put together: it must also be known what is open at the end. `ReadsBack` says everything
about the reading of a text at once, so it can be shown part by part, and other proofs can use it
for what the body says and not only for its being well formed. -/

/-- Inside open elements the text is read to its end. No element that begins in it is one of those
that are filtered, all elements are closed, and what has been read is written as the text again. -/
structure ReadsBack (names : OpenNames) (cs : List Char) : Prop where
  reads : ReadsWith Filtered names cs
  written : (eventsWithin names cs).1.flatMap tokenMarkup = cs
  closed : (eventsWithin names cs).1.foldlM OpenNames.after names = .ok []

section ReadsBack

variable {names names' : OpenNames} {cs rest : List Char} {token : Token}

theorem readsBack_nil : ReadsBack [] [] where
  reads := readsWith_nil
  written := by rw [eventsWithin_nil, List.flatMap_nil]
  closed := by rw [eventsWithin_nil, List.foldlM_nil]; rfl

theorem readsBack_of_next (hn : nextToken (tokenMarkup token ++ rest) = .next token rest)
    (hafter : names.after token = .ok names') :
    ReadsBack names (tokenMarkup token ++ rest) ↔
      (∀ tag, token = .start tag ∨ token = .empty tag → Filtered tag) ∧ ReadsBack names' rest := by
  have hwritten : (eventsWithin names (tokenMarkup token ++ rest)).1.flatMap tokenMarkup =
      tokenMarkup token ++ rest ↔ (eventsWithin names' rest).1.flatMap tokenMarkup = rest := by
    rw [eventsWithin_of_next hn hafter, List.flatMap_cons, List.append_cancel_left_eq]
  have hclosed : (eventsWithin names (tokenMarkup token ++ rest)).1.foldlM OpenNames.after names =
      (eventsWithin names' rest).1.foldlM OpenNames.after names' := by
    rw [eventsWithin_of_next hn hafter, List.foldlM_cons, hafter]
    rfl
  constructor
  · intro h
    obtain ⟨htoken, hreads⟩ := (readsWith_of_next hn hafter).mp h.reads
    exact ⟨htoken, hreads, hwritten.mp h.written, hclosed ▸ h.closed⟩
  · rintro ⟨htoken, h⟩
    exact ⟨(readsWith_of_next hn hafter).mpr ⟨htoken, h.reads⟩, hwritten.mpr h.written,
      hclosed.trans h.closed⟩

theorem ReadsBack.next (h : ReadsBack names' rest)
    (hn : nextToken (tokenMarkup token ++ rest) = .next token rest)
    (hafter : names.after token = .ok names')
    (htoken : ∀ tag, ¬(token = .start tag ∨ token = .empty tag)) :
    ReadsBack names (tokenMarkup token ++ rest) :=
  (readsBack_of_next hn hafter).mpr ⟨fun tag htag ↦ absurd htag (htoken tag), h⟩

theorem readsBack_dropWhile :
    ReadsBack names (cs.dropWhile (· != '<')) ↔ ReadsBack names cs := by
  cases cs with
  | nil => exact Iff.rfl
  | cons c cs =>
    by_cases hc : c = '<'
    · rw [List.dropWhile_cons_of_neg (by simp [hc])]
    · have hcs : tokenMarkup (.text ((c :: cs).takeWhile (· != '<'))) ++
          (c :: cs).dropWhile (· != '<') = c :: cs := List.takeWhile_append_dropWhile
      have hn : nextToken (tokenMarkup (.text ((c :: cs).takeWhile (· != '<'))) ++
          (c :: cs).dropWhile (· != '<')) =
            .next (.text ((c :: cs).takeWhile (· != '<'))) ((c :: cs).dropWhile (· != '<')) := by
        rw [hcs, nextToken, if_neg hc]
      have hiff : ReadsBack names _ ↔ _ ∧ ReadsBack names _ := readsBack_of_next hn rfl
      rw [hcs] at hiff
      rw [hiff]
      exact (and_iff_right fun tag h ↦ by simp at h).symm

theorem ReadsBack.text {raw : List Char} (hraw : '<' ∉ raw) (h : ReadsBack names rest) :
    ReadsBack names (raw ++ rest) := by
  have hdrop : (raw ++ rest).dropWhile (· != '<') = rest.dropWhile (· != '<') := by
    refine List.dropWhile_append_of_pos fun c hc ↦ ?_
    rw [bne_iff_ne]
    rintro rfl
    exact hraw hc
  rwa [← readsBack_dropWhile, hdrop, readsBack_dropWhile]

end ReadsBack

/-! ## Reading from right to left

What joining does to a token depends on what comes after it: a blank at its end goes if the line
ends there. So the joined lines are taken apart from the right, with a statement about any text that
is read back behind them. -/

/-- The joined lines of a text are read back, in front of more text. -/
abbrev ReadsJoined (names : OpenNames) (fresh : Bool) (rest more : List Char) : Prop :=
  ReadsBack names (joinLinesFrom fresh rest ++ more)

section Reading

variable {names : OpenNames} {rest more : List Char} {tag : Tag}

theorem readsJoined_text {raw : List Char} (hraw : Readable (.text raw))
    (h : ∀ fresh, ReadsJoined names fresh rest more) (fresh : Bool) :
    ReadsJoined names fresh (raw ++ rest) more := by
  obtain ⟨kept, fresh', hink, hkept⟩ := joinLinesFrom_append fresh raw rest
  have hopen : '<' ∉ kept := by
    rw [← mem_ink (by decide), hink, mem_ink (by decide)]
    exact hraw
  rw [ReadsJoined, hkept, List.append_assoc]
  exact (h fresh').text hopen

/-- A tag is read as it was, but for its name and for blanks among its attributes. -/
theorem exists_nextToken_tag (token : Tag → Token) {last : List Char}
    (hmarkup : ∀ tag, tokenMarkup (token tag) =
      '<' :: (outputName tag.name ++ (tag.attributes ++ (last ++ ['>']))))
    (hproper : ProperTag tag) (htext : TagText (tag.name ++ (tag.attributes ++ last)))
    (hname : KeepsName tag)
    (hclosed : tag.localName = subheadingName → quoteAfter none tag.name = some none)
    (hlast : Solid (last ++ ['>'])) (fresh : Bool) (rest more : List Char) :
    ∃ attributes, Thins attributes tag ∧
      joinLinesFrom fresh (tokenMarkup (token tag) ++ rest) ++ more =
        tokenMarkup (token ⟨outputName tag.name, attributes⟩) ++
          (joinLinesFrom false rest ++ more) ∧
      nextToken (tokenMarkup (token ⟨outputName tag.name, attributes⟩) ++
          (joinLinesFrom false rest ++ more)) =
        .next (readTag (outputName tag.name ++ (attributes ++ last)))
          (joinLinesFrom false rest ++ more) := by
  have houtput : ProperTag ⟨outputName tag.name, tag.attributes⟩ :=
    properTag_output hproper ⟨rfl, .inl rfl, fun _ ↦ rfl⟩
  obtain ⟨attributes, hwritten, hjoin⟩ :=
    joinLinesFrom_tag houtput (keepsName_output hname) hlast fresh rest
  have hthin := thins_of_output hwritten
  have htag : tokenMarkup (token tag) ++ rest =
      '<' :: (outputName tag.name ++ (tag.attributes ++ (last ++ ['>'] ++ rest))) := by
    simp [hmarkup]
  have hmore : tokenMarkup (token ⟨outputName tag.name, attributes⟩) ++
      (joinLinesFrom false rest ++ more) =
        '<' :: (outputName tag.name ++ (attributes ++ last) ++
          '>' :: (joinLinesFrom false rest ++ more)) := by
    simp [hmarkup, outputName_outputName]
  refine ⟨attributes, hthin, ?_, ?_⟩
  · rw [htag, hjoin, hmore]
    simp
  · rw [hmore]
    exact nextToken_tag (tagText_output htext hthin hclosed) _

theorem readsJoined_start (hread : Readable (.start tag)) (hjoin : Joinable (.start tag))
    (hclosed : quoteAfter none tag.name = some none) (hmedia : tag.localName ≠ mediaName)
    (h : ReadsJoined (outputName tag.name :: names) false rest more) (fresh : Bool) :
    ReadsJoined names fresh (startMarkup tag ++ rest) more := by
  obtain ⟨t, htext, hslash, htag⟩ := hread
  have hproper : ProperTag tag := htag ▸ properTag_ofText t
  obtain rfl : tag.name ++ tag.attributes = t := by rw [htag, Tag.name_append_attributes]
  have hmarkup : ∀ tag, tokenMarkup (.start tag) =
      '<' :: (outputName tag.name ++ (tag.attributes ++ ([] ++ ['>']))) := fun tag ↦ by
    simp [tokenMarkup, startMarkup]
  obtain ⟨attributes, hthin, hjoined, htoken⟩ := exists_nextToken_tag .start hmarkup hproper
    (by rwa [List.append_nil]) hjoin.1 (fun _ ↦ hclosed)
    (solid_of_any (by decide) (by decide)) fresh rest more
  have hlast := getLast?_output hslash hjoin.2 hthin
  rw [List.append_nil, readTag_start (properTag_output hproper hthin) hlast] at htoken
  change ReadsBack names (joinLinesFrom fresh (tokenMarkup (.start tag) ++ rest) ++ more)
  rw [hjoined, readsBack_of_next htoken rfl]
  refine ⟨?_, h⟩
  rintro tag' (htag' | htag')
  · rw [← Token.start.inj htag']
    exact filtered_output hmedia attributes
  · cases htag'

theorem readsJoined_empty (hread : Readable (.empty tag)) (hjoin : Joinable (.empty tag))
    (hmedia : tag.localName ≠ mediaName) (h : ReadsJoined names false rest more) (fresh : Bool) :
    ReadsJoined names fresh (emptyMarkup tag ++ rest) more := by
  obtain ⟨t, htext, htag⟩ := hread
  have hproper : ProperTag tag := htag ▸ properTag_ofText t
  obtain rfl : tag.name ++ tag.attributes = t := by rw [htag, Tag.name_append_attributes]
  have hmarkup : ∀ tag, tokenMarkup (.empty tag) =
      '<' :: (outputName tag.name ++ (tag.attributes ++ (['/'] ++ ['>']))) := fun tag ↦ by
    simp [tokenMarkup, emptyMarkup]
  obtain ⟨attributes, hthin, hjoined, htoken⟩ := exists_nextToken_tag .empty hmarkup hproper
    (by rwa [← List.append_assoc]) hjoin.2 hjoin.1 (solid_of_any (by decide) (by decide)) fresh
    rest more
  rw [readTag_empty (properTag_output hproper hthin)] at htoken
  change ReadsBack names (joinLinesFrom fresh (tokenMarkup (.empty tag) ++ rest) ++ more)
  rw [hjoined, readsBack_of_next htoken rfl]
  refine ⟨?_, h⟩
  rintro tag' (htag' | htag')
  · cases htag'
  · rw [← Token.empty.inj htag']
    exact filtered_output hmedia attributes

theorem readsJoined_close (hread : Readable (.close tag.name)) (hproper : ProperTag tag)
    (h : ReadsJoined names false rest more) (fresh : Bool) :
    ReadsJoined (outputName tag.name :: names) fresh (closeMarkup tag.name ++ rest) more := by
  have hspace := isSpace_outputName hproper.name
  have hclosed : quoteAfter none (outputName tag.name) = some none := by
    rw [outputName]
    split
    · decide
    · exact hread
  have hmarkup : closeMarkup tag.name ++ rest =
      ['<', '/'] ++ (outputName tag.name ++ (['>'] ++ rest)) := by
    simp [closeMarkup]
  have hopening : Solid ['<', '/'] := solid_of_any (by decide) (by decide)
  have hclosing : Solid ['>'] := solid_of_any (by decide) (by decide)
  obtain ⟨kept, -, hkept, hjoin⟩ :=
    exists_joinLinesFrom_between hopening hclosing (outputName tag.name) fresh rest
  rw [hkept (feed_notMem_of_forall_isSpace hspace)] at hjoin
  have htoken := nextToken_close hclosed hspace (joinLinesFrom false rest ++ more)
  have hwritten : ['<', '/'] ++ (outputName tag.name ++
      (['>'] ++ (joinLinesFrom false rest ++ more))) =
        tokenMarkup (.close (outputName tag.name)) ++ (joinLinesFrom false rest ++ more) := by
    simp [tokenMarkup, closeMarkup, outputName_outputName]
  rw [ReadsJoined, hmarkup, hjoin, List.append_assoc, List.append_assoc, List.append_assoc,
    hwritten]
  exact h.next (by rw [← hwritten]; exact htoken) (OpenNames.after_close _ _) (by simp)

/-- A comment or a literal section is read as it was, but for blanks, since its end mark does not
come about by joining lines. -/
theorem readsJoined_section {opening mark content : List Char} (token : List Char → Token)
    (hopening : Solid opening) (hmark : Solid mark)
    (hmarkup : ∀ content, tokenMarkup (token content) = opening ++ content ++ mark)
    (hn : ∀ content, ¬mark <:+: content → ∀ rest,
      nextToken (opening ++ (content ++ (mark ++ rest))) = .next (token content) rest)
    (hafter : ∀ content, names.after (token content) = .ok names)
    (htoken : ∀ content tag, ¬(token content = .start tag ∨ token content = .empty tag))
    (hcontent : ¬mark <:+: content) (hjoin : '\n' ∈ content → ¬mark <:+: ink content)
    (h : ReadsJoined names false rest more) (fresh : Bool) :
    ReadsJoined names fresh (opening ++ content ++ mark ++ rest) more := by
  obtain ⟨kept, hink, hkept, hjoined⟩ :=
    exists_joinLinesFrom_between hopening hmark content fresh rest
  have hnot : ¬mark <:+: kept := by
    by_cases hfeed : '\n' ∈ content
    · intro hinfix
      refine hjoin hfeed ?_
      rw [← hink]
      exact infix_ink hmark.2 hinfix
    · rw [hkept hfeed]
      exact hcontent
  have hwritten : opening ++ (kept ++ (mark ++ (joinLinesFrom false rest ++ more))) =
      tokenMarkup (token kept) ++ (joinLinesFrom false rest ++ more) := by
    rw [hmarkup, List.append_assoc, List.append_assoc]
  rw [ReadsJoined, List.append_assoc, List.append_assoc, hjoined, List.append_assoc,
    List.append_assoc, List.append_assoc, hwritten]
  exact h.next (hwritten ▸ hn kept hnot _) (hafter kept) (htoken kept)

theorem readsJoined_comment {content : List Char} (hread : Readable (.comment content))
    (hjoin : Joinable (.comment content)) (h : ReadsJoined names false rest more) (fresh : Bool) :
    ReadsJoined names fresh (commentMarkup content ++ rest) more :=
  readsJoined_section .comment (solid_of_any (by decide) (by decide))
    (solid_of_any (by decide) (by decide)) (fun _ ↦ rfl)
    (fun _ hcontent rest ↦ nextToken_comment hcontent rest) (fun _ ↦ rfl) (by simp) hread hjoin h
    fresh

theorem readsJoined_literal {content : List Char} (hread : Readable (.literal content))
    (hjoin : Joinable (.literal content)) (h : ReadsJoined names false rest more) (fresh : Bool) :
    ReadsJoined names fresh (literalMarkup content ++ rest) more :=
  readsJoined_section .literal (solid_of_any (by decide) (by decide))
    (solid_of_any (by decide) (by decide)) (fun _ ↦ rfl)
    (fun _ hcontent rest ↦ nextToken_literal hcontent rest) (fun _ ↦ rfl) (by simp) hread hjoin h
    fresh

/-! ## Forests and fragments

A token is `Fit` for three reasons that have nothing to do with each other: it could be read,
joining does it no harm, and it is none of those that are left out. The first holds of every event,
the last of every token that is kept, and only the second is a condition on the document. -/

/-- A token that can be written in a fragment. -/
structure Fit (token : Token) : Prop where
  readable : Readable token
  joinable : Joinable token
  kept : ∀ tag, token = .start tag ∨ token = .empty tag → tag.localName ≠ mediaName

theorem readsJoined_leaf {token : Token} (hleaf : token.isLeaf = true) (hfit : Fit token)
    (h : ∀ fresh, ReadsJoined names fresh rest more) (fresh : Bool) :
    ReadsJoined names fresh (tokenMarkup token ++ rest) more := by
  cases token with
  | text raw => exact readsJoined_text hfit.readable h fresh
  | start tag => cases hleaf
  | empty tag =>
    exact readsJoined_empty hfit.readable hfit.joinable (hfit.kept tag (.inr rfl)) (h false) fresh
  | close name => cases hleaf
  | comment content => exact readsJoined_comment hfit.readable hfit.joinable (h false) fresh
  | literal content => exact readsJoined_literal hfit.readable hfit.joinable (h false) fresh
  | instruction content => exact h fresh

theorem readsJoined_element {content : List Char} (hstart : Fit (.start tag))
    (hclose : Fit (.close tag.name))
    (hcontent : ∀ names rest, (∀ fresh, ReadsJoined names fresh rest more) →
      ReadsJoined names false (content ++ rest) more)
    (h : ∀ fresh, ReadsJoined names fresh rest more) (fresh : Bool) :
    ReadsJoined names fresh (startMarkup tag ++ (content ++ (closeMarkup tag.name ++ rest)))
      more := by
  have hproper : ProperTag tag := by
    obtain ⟨t, -, -, rfl⟩ := hstart.readable
    exact properTag_ofText t
  -- The element is closed under the name that its start tag is written with.
  have hrest := readsJoined_close hclose.readable hproper (h false)
  exact readsJoined_start hstart.readable hstart.joinable hclose.readable
    (hstart.kept tag (.inl rfl)) (hcontent _ _ hrest) fresh

theorem readsJoined_forest {forest : Forest} (hfit : ∀ token ∈ forest.tokens, Fit token)
    (h : ∀ fresh, ReadsJoined names fresh rest more) (fresh : Bool) :
    ReadsJoined names fresh (forest.tokens.flatMap tokenMarkup ++ rest) more := by
  -- A forest is built from the left, so the rest of the text is read first.
  induction forest generalizing names rest fresh with
  | nil => exact h fresh
  | leaf before token hleaf ih =>
    rw [Forest.tokens, List.forall_mem_append] at hfit
    rw [Forest.tokens, List.flatMap_append, List.flatMap_singleton, List.append_assoc]
    exact ih hfit.1 (readsJoined_leaf hleaf (hfit.2 token List.mem_cons_self) h) fresh
  | element before tag content ih ihc =>
    rw [Forest.tokens, List.forall_mem_append, List.forall_mem_cons, List.forall_mem_append] at hfit
    obtain ⟨hbefore, hstart, hcontent, hclose⟩ := hfit
    rw [Forest.tokens, List.flatMap_append, List.flatMap_cons, List.flatMap_append,
      List.flatMap_singleton, List.append_assoc, List.append_assoc, List.append_assoc]
    exact ih hbefore (readsJoined_element hstart (hclose _ List.mem_cons_self)
      (fun names rest h ↦ ihc hcontent h false) h) fresh

end Reading

theorem readsBack_fragments {blocks : List Forest} {names : OpenNames} {more : List Char}
    (hfit : ∀ content ∈ blocks, ∀ token ∈ (withoutMedia content).tokens, Fit token)
    (h : ReadsBack names more) : ReadsBack names (blocks.flatMap fragmentOf ++ more) := by
  induction blocks with
  | nil => exact h
  | cons content blocks ih =>
    rw [List.forall_mem_cons] at hfit
    have hblock : ReadsJoined names true (blockMarkup content ++ [])
        (blocks.flatMap fragmentOf ++ more) :=
      readsJoined_forest hfit.1 (fun _ ↦ ih hfit.2) true
    rw [List.append_nil] at hblock
    rw [List.flatMap_cons, List.append_assoc, fragmentOf, joinLines_eq]
    exact hblock

/-! ## The body -/

/-- Without media references there is nothing new, and no tag of a media reference. -/
theorem mem_tokens_withoutMedia {forest : Forest} {token : Token}
    (h : token ∈ (withoutMedia forest).tokens) :
    token ∈ forest.tokens ∧
      ∀ tag, token = .start tag ∨ token = .empty tag → tag.localName ≠ mediaName := by
  induction forest with
  | nil => cases h
  | leaf before leaf hleaf ih =>
    rw [withoutMedia] at h
    rw [Forest.tokens, List.mem_append, List.mem_singleton]
    split at h
    · exact ⟨.inl (ih h).1, (ih h).2⟩
    · next hmedia =>
      rw [Forest.tokens, List.mem_append, List.mem_singleton] at h
      obtain h | rfl := h
      · exact ⟨.inl (ih h).1, (ih h).2⟩
      · refine ⟨.inr rfl, ?_⟩
        rintro tag (rfl | rfl)
        · cases hleaf
        · simpa [isEmptyMedia] using hmedia
  | element before tag content ih ihc =>
    rw [withoutMedia] at h
    simp only [Forest.tokens, List.mem_append, List.mem_cons, List.not_mem_nil, or_false] at h ⊢
    split at h
    · exact ⟨.inl (ih h).1, (ih h).2⟩
    · next hname =>
      simp only [Forest.tokens, List.mem_append, List.mem_cons, List.not_mem_nil, or_false] at h
      obtain h | rfl | h | rfl := h
      · exact ⟨.inl (ih h).1, (ih h).2⟩
      · refine ⟨.inr (.inl rfl), ?_⟩
        rintro tag' (htag | htag)
        · rw [← Token.start.inj htag]
          exact hname
        · cases htag
      · exact ⟨.inr (.inr (.inl (ihc h).1)), (ihc h).2⟩
      · exact ⟨.inr (.inr (.inr rfl)), fun tag' h ↦ by simp at h⟩

theorem tokens_subset_of_mem_forestBlocks {place : Place} {forest content : Forest}
    (h : content ∈ forestBlocks place forest) : content.tokens ⊆ forest.tokens := by
  induction forest generalizing place with
  | nil => cases h
  | leaf before token hleaf ih =>
    rw [forestBlocks, List.mem_append] at h
    rw [Forest.tokens]
    obtain h | h := h
    · exact List.subset_append_of_subset_left _ (ih h)
    · -- A block without content has no tokens.
      rw [leafBlocks.eq_def] at h
      split at h
      · split at h
        · rw [List.mem_singleton.mp h]
          exact List.nil_subset _
        · cases h
      · cases h
  | element before tag inner ih ihc =>
    rw [forestBlocks, List.mem_append] at h
    rw [Forest.tokens]
    obtain h | h := h
    · exact List.subset_append_of_subset_left _ (ih h)
    · have hinner : content.tokens ⊆ inner.tokens := by
        split at h
        · rw [List.mem_singleton.mp h]
          exact List.Subset.refl _
        · exact ihc h
      refine List.subset_append_of_subset_right _ (List.subset_cons_of_subset _ ?_)
      exact List.subset_append_of_subset_left _ hinner

theorem tokens_subset_of_mem_bodyBlocks {o : Outline} {content : Forest}
    (h : content ∈ bodyBlocks o) : content.tokens ⊆ o.tokens := by
  induction o with
  | top forest => exact tokens_subset_of_mem_forestBlocks h
  | inside outer tag inner ih =>
    rw [bodyBlocks, List.mem_append] at h
    rw [Outline.tokens]
    obtain h | h := h
    · exact List.subset_append_of_subset_left _ (ih h)
    · refine List.subset_append_of_subset_right _ (List.subset_cons_of_subset _ ?_)
      exact tokens_subset_of_mem_forestBlocks h

theorem readable_of_mem_bodyBlocks {document : List Char} {content : Forest} {token : Token}
    (hcontent : content ∈ bodyBlocks (outline document))
    (htoken : token ∈ (withoutMedia content).tokens) : Readable token := by
  have hevents := tokens_subset_of_mem_bodyBlocks hcontent (mem_tokens_withoutMedia htoken).1
  rw [tokens_outline] at hevents
  exact readable_of_mem_eventsWithin hevents

theorem fit_of_mem_bodyBlocks {document : List Char} {content : Forest} {token : Token}
    (hcontent : content ∈ bodyBlocks (outline document))
    (htoken : token ∈ (withoutMedia content).tokens) (hjoin : Joinable token) : Fit token :=
  ⟨readable_of_mem_bodyBlocks hcontent htoken, hjoin, (mem_tokens_withoutMedia htoken).2⟩

/-- Inside an element of its own, fragments are read to the end of that element. -/
theorem readsWith_root {blocks : List Forest}
    (hfit : ∀ content ∈ blocks, ∀ token ∈ (withoutMedia content).tokens, Fit token) :
    ReadsWith Filtered []
      ("<root>".toList ++ (blocks.flatMap fragmentOf ++ "</root>".toList)) := by
  have hroot : TagText "root".toList := by
    refine ⟨fun c hc ↦ ?_, by decide⟩
    obtain rfl : 'r' = c := Option.some.inj hc
    decide
  have hstart := nextToken_tag hroot (blocks.flatMap fragmentOf ++ "</root>".toList)
  have hclose := @nextToken_close "root".toList (by decide) (eq_false_of_any (by decide)) []
  have hend : ReadsBack ["root".toList] (tokenMarkup (.close "root".toList) ++ []) :=
    readsBack_nil.next hclose (OpenNames.after_close _ _) (by simp)
  refine (readsWith_of_next hstart rfl).mpr ⟨?_, (readsBack_fragments hfit hend).reads⟩
  rintro tag (htag | htag)
  · rw [← Token.start.inj htag]
    exact ⟨by decide, by decide⟩
  · cases htag

/-- **The body is well formed and filtered.** It is read without a fault inside an element of its
own, and holds neither a subheading nor a media reference, if every token that is kept of the body
blocks is safe from the joining of lines. -/
theorem events_body {document body : String} (hbody : (extract document).body = some body)
    (hjoin : ∀ content ∈ bodyBlocks (outline document.toList),
      ∀ token ∈ (withoutMedia content).tokens, Joinable token) :
    (events ("<root>" ++ body ++ "</root>").toList).2 = .complete ∧
      ∀ token ∈ (events ("<root>" ++ body ++ "</root>").toList).1, ∀ tag,
        token = .start tag ∨ token = .empty tag →
          tag.localName ≠ subheadingName ∧ tag.localName ≠ mediaName := by
  have hread := readsWith_root fun content hcontent token htoken ↦
    fit_of_mem_bodyBlocks hcontent htoken (hjoin content hcontent token htoken)
  rw [extract, body_extractFrom, Option.map_eq_some_iff] at hbody
  obtain ⟨written, hwritten, rfl⟩ := hbody
  have hblocks : written = (bodyBlocks (outline document.toList)).flatMap fragmentOf := by
    rw [bodyOf] at hwritten
    split at hwritten
    · cases hwritten
    · exact (Option.some.inj hwritten).symm
  rw [← hblocks] at hread
  have htext : ("<root>" ++ String.ofList written ++ "</root>").toList =
      "<root>".toList ++ (written ++ "</root>".toList) := by
    rw [String.toList_append, String.toList_append, List.append_assoc]
    congr 2
    exact String.toList_ofList
  rw [events, htext]
  exact hread

theorem events_body_sample :
    (events ("<root>" ++ "<h1>a</h1><p b=\"\"c=\"\"><!--de--><i>f<br/></i></p>" ++
        "</root>").toList).2 = .complete ∧
      ∀ token ∈ (events ("<root>" ++ "<h1>a</h1><p b=\"\"c=\"\"><!--de--><i>f<br/></i></p>" ++
        "</root>").toList).1, ∀ tag, token = .start tag ∨ token = .empty tag →
          tag.localName ≠ subheadingName ∧ tag.localName ≠ mediaName :=
  @events_body ("<body.content><block><hl2>a</hl2>\n<p b=\"\"\n c=\"\"><!--d\n e-->" ++
      "<i\n>f<br \n/></i></p><media-reference><hl2/></media-reference></block></body.content>")
    "<h1>a</h1><p b=\"\"c=\"\"><!--de--><i>f<br/></i></p>" (by decide +kernel) (by decide +kernel)

/-- Without that the body may be no markup at all, or hold what had been left out: a name may run
together with an attribute or with the rest of it, a comment may end early, and a promoted
subheading may lose a quotation mark of its name. -/
theorem events_body_of_broken_lines :
    (extract "<body.content><block><p\nclass=\"lead\">x</p></block></body.content>").body =
        some "<pclass=\"lead\">x</p>" ∧
      (events ("<root>" ++ "<pclass=\"lead\">x</p>" ++ "</root>").toList).2 ≠ .complete ∧
    (extract "<body.content><block><h\nl2/></block></body.content>").body = some "<hl2/>" ∧
      .empty ⟨subheadingName, []⟩ ∈ (events ("<root>" ++ "<hl2/>" ++ "</root>").toList).1 ∧
    (extract "<body.content><block><!--a-\n-></b>--></block></body.content>").body =
        some "<!--a--></b>-->" ∧
      (events ("<root>" ++ "<!--a--></b>-->" ++ "</root>").toList).2 ≠ .complete ∧
    (extract "<body.content><block><a':hl2 '/></block></body.content>").body = some "<h1 '/>" ∧
      (events ("<root>" ++ "<h1 '/>" ++ "</root>").toList).2 ≠ .complete := by
  decide +kernel

end NewsWire.Article

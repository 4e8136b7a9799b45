import NewsWire.Article.Extract
import NewsWire.Proofs.Reading

/-!
# The body of an article

The walk through a document keeps counters in place of a tree. Here the body is read off the tree
itself: the body blocks of an outline are found by where their elements stand, and the fragment of a
block is its content without media references, written token by token. `body_extract` says that the
walk comes to the same.

The two are compared by what the counters count. How many elements are open from the outermost body
element on, and how far the open block has come, are functions of the outline, and each way in which
an outline grows changes them as it changes the walk (`Mirrors.leaf`, `Mirrors.start` and
`Mirrors.close`).

A tree would be the natural thing to walk, but the reader gives events, and a document that breaks
off has no tree. An outline is a tree with a place where it grows, so it exists after every event,
and the invariant is an equation between the walk and the outline so far. Blocks are only complete
when the outline has closed them, which is where the reference and the walk agree about a document
that ends inside a block.
-/

namespace NewsWire.Article

open NewsWire.Markup NewsWire.Text

/-! ## Fragments

What is kept of a token is written by the leaf writers of the walk, and these are to be judged by
themselves: a subheading changes its name, and everything else is written as it stood in the
document (`tokenMarkup_of_nextToken`). -/

/-- An empty element for a picture or film. -/
def isEmptyMedia : Token → Bool
  | .empty tag => tag.localName = mediaName
  | _ => false

/-- A forest without media references and all that is in them. -/
def withoutMedia : Forest → Forest
  | .nil => .nil
  | .leaf before token h =>
    if isEmptyMedia token then withoutMedia before else .leaf (withoutMedia before) token h
  | .element before tag content =>
    if tag.localName = mediaName then withoutMedia before
    else .element (withoutMedia before) tag (withoutMedia content)

def tokenMarkup : Token → List Char
  | .text raw => raw
  | .start tag => startMarkup tag
  | .empty tag => emptyMarkup tag
  | .close name => closeMarkup name
  | .comment content => commentMarkup content
  | .literal content => literalMarkup content
  | .instruction _ => []

/-- A token that is written as it was read. -/
def AsRead : Token → Prop
  | .start tag | .empty tag => tag.localName ≠ "hl2".toList
  | .close _ | .instruction _ => False
  | _ => True

theorem tokenMarkup_readTag {t : List Char} (h : AsRead (readTag t)) :
    tokenMarkup (readTag t) = '<' :: (t ++ ['>']) := by
  rw [readTag] at h ⊢
  split at h
  · next hlast =>
    have hname : outputName (Tag.ofText t.dropLast).name = (Tag.ofText t.dropLast).name :=
      outputName_of_ne h
    rw [if_pos hlast, tokenMarkup, emptyMarkup, hname, Tag.name_append_attributes]
    conv_rhs => rw [← List.dropLast_append_getLast? '/' hlast]
    rw [List.append_assoc]
    rfl
  · next hlast =>
    have hname : outputName (Tag.ofText t).name = (Tag.ofText t).name := outputName_of_ne h
    rw [if_neg hlast, tokenMarkup, startMarkup, hname, Tag.name_append_attributes]

theorem tokenMarkup_of_nextMarkup {cs rest : List Char} {token : Token}
    (h : nextMarkup cs = .next token rest) (hkept : AsRead token) :
    tokenMarkup token ++ rest = '<' :: cs := by
  rw [nextMarkup.eq_def] at h
  split at h
  · cases h
  · split at h
    · cases h
    · obtain ⟨t, hsplit, hread⟩ := Step.ofSplit_eq_next h
      obtain ⟨content, rfl, rfl, -⟩ := exists_comment hsplit hread
      have hmarkup : tokenMarkup (.comment content) =
          ['<', '!', '-', '-'] ++ content ++ ['-', '-', '>'] := rfl
      rw [eq_append_of_splitMarkup hsplit, hmarkup]
      simp only [List.append_assoc, List.cons_append, List.nil_append]
    · obtain ⟨t, hsplit, hread⟩ := Step.ofSplit_eq_next h
      obtain ⟨content, rfl, rfl, -⟩ := exists_literal_section hsplit hread
      have hmarkup : tokenMarkup (.literal content) =
          ['<', '!', '[', 'C', 'D', 'A', 'T', 'A', '['] ++ content ++ [']', ']', '>'] := rfl
      rw [eq_append_of_splitMarkup hsplit, hmarkup]
      simp only [List.append_assoc, List.cons_append, List.nil_append]
    · obtain ⟨t, -, hread⟩ := Step.ofSplit_eq_next h
      obtain ⟨content, rfl⟩ := exists_documentType hread
      cases hkept
    · obtain ⟨t, -, hread⟩ := Step.ofSplit_eq_next h
      obtain ⟨content, rfl⟩ := exists_documentType hread
      cases hkept
    · cases h
  · obtain ⟨t, -, hread⟩ := Step.ofSplit_eq_next h
    obtain ⟨content, rfl⟩ := exists_instruction hread
    cases hkept
  · obtain ⟨t, -, hread⟩ := Step.ofSplit_eq_next h
    obtain rfl := Except.ok.inj hread
    rw [readClose] at hkept
    split at hkept <;> cases hkept
  · obtain ⟨t, hsplit, hread⟩ := Step.ofSplit_eq_next h
    obtain rfl := Except.ok.inj hread
    rw [tokenMarkup_readTag hkept, (splitTag_eq_some_iff.mp hsplit).1]
    simp

/-- What is kept of a text is written as it stood in it. -/
theorem tokenMarkup_of_nextToken {cs rest : List Char} {token : Token}
    (h : nextToken cs = .next token rest) (hkept : AsRead token) :
    tokenMarkup token ++ rest = cs := by
  rw [nextToken.eq_def] at h
  split at h
  · cases h
  · next c cs =>
    split at h
    · next hc =>
      rw [tokenMarkup_of_nextMarkup h hkept, hc]
    · obtain ⟨rfl, rfl⟩ := Step.next.inj h
      exact List.takeWhile_append_dropWhile

def blockMarkup (content : Forest) : List Char := (withoutMedia content).tokens.flatMap tokenMarkup

/-- What a body block contributes, given its content. -/
def fragmentOf (content : Forest) : List Char := joinLines (blockMarkup content)

/-! ## Body blocks -/

/-- Where an element stands: outside the body, in the body, or in a body block. -/
inductive Place where
  | outside
  | body
  | block
  deriving DecidableEq

def Place.enter : Place → Tag → Place
  | .outside, tag => if tag.localName = bodyName then .body else .outside
  | .body, tag => if tag.localName = blockName then .block else .body
  | .block, _ => .block

/-- The content of the body block that a leaf is, if it is one. -/
def leafBlocks : Place → Token → List Forest
  | .body, .empty tag => if tag.localName = blockName then [.nil] else []
  | _, _ => []

/-- The contents of the body blocks of a forest, in order. -/
def forestBlocks (place : Place) : Forest → List Forest
  | .nil => []
  | .leaf before token _ => forestBlocks place before ++ leafBlocks place token
  | .element before tag content =>
    forestBlocks place before ++
      if place = .body ∧ tag.localName = blockName then [content]
      else forestBlocks (place.enter tag) content

/-- The place where an outline grows. -/
def placeOf : Outline → Place
  | .top _ => .outside
  | .inside outer tag _ => (placeOf outer).enter tag

/-- The contents of the complete body blocks of an outline, in order. A block that is still open is
not among them. -/
def bodyBlocks : Outline → List Forest
  | .top forest => forestBlocks .outside forest
  | .inside outer tag content =>
    bodyBlocks outer ++ forestBlocks ((placeOf outer).enter tag) content

/-- The body that blocks make up, if there are any. -/
def bodyOf (blocks : List Forest) : Option (List Char) :=
  if blocks.isEmpty then none else some (blocks.flatMap fragmentOf)

theorem bodyOf_concat (blocks : List Forest) (content : Forest) :
    bodyOf (blocks ++ [content]) = some ((bodyOf blocks).getD [] ++ fragmentOf content) := by
  cases blocks <;> simp [bodyOf]

/-- There are no body blocks in a body block. -/
theorem forestBlocks_block (forest : Forest) : forestBlocks .block forest = [] := by
  induction forest with
  | nil => rfl
  | leaf before token h ih => rw [forestBlocks, ih, leafBlocks, List.append_nil]; simp
  | element before tag content ih ihc =>
    rw [forestBlocks, ih, Place.enter, ihc]
    rfl

/-! ## What the counters count

The counters of the walk are read off the path from the root of the outline to the place where it
grows. They depend on nothing to the left of this path, and therefore a closed element can be put
away. -/

def openInBody : Outline → Nat
  | .top _ => 0
  | .inside outer tag _ => bodyDepthAfterStart (openInBody outer) tag

/-- How far an open block has come: how many of its elements are open, how many of them from the
outermost media reference on, and its markup so far. -/
@[ext]
structure OpenBlock where
  depth : Nat
  skip : Nat
  markup : List Char

namespace OpenBlock

/-- The block with more markup, unless a media reference is open. -/
def write (b : OpenBlock) (markup : List Char) : OpenBlock :=
  if b.skip = 0 then { b with markup := b.markup ++ markup } else b

def enter (b : OpenBlock) (tag : Tag) : OpenBlock :=
  if b.skip > 0 then { b with depth := b.depth + 1, skip := b.skip + 1 }
  else if tag.localName = mediaName then { b with depth := b.depth + 1, skip := 1 }
  else { b with depth := b.depth + 1, markup := b.markup ++ startMarkup tag }

def leave (b : OpenBlock) (name : List Char) : OpenBlock :=
  if b.skip > 0 then { b with depth := b.depth - 1, skip := b.skip - 1 }
  else { b with depth := b.depth - 1, markup := b.markup ++ closeMarkup name }

theorem write_nil (b : OpenBlock) : b.write [] = b := by
  rw [write]
  split
  · rw [List.append_nil]
  · rfl

theorem write_write (b : OpenBlock) (markup more : List Char) :
    (b.write markup).write more = b.write (markup ++ more) := by
  by_cases h : b.skip = 0
  · simp [write, h]
  · simp [write, h]

end OpenBlock

/-- The open block of an outline. -/
def openBlock : Outline → Option OpenBlock
  | .top _ => none
  | .inside outer tag content =>
    let begun := match openBlock outer with
      | some b => some (b.enter tag)
      | none =>
        if openInBody outer > 0 ∧ tag.localName = blockName then some ⟨0, 0, []⟩ else none
    begun.map (·.write (blockMarkup content))

/-- The counters tell where an outline grows. -/
theorem placeOf_cases (o : Outline) :
    placeOf o = .outside ∧ openInBody o = 0 ∧ openBlock o = none ∨
      placeOf o = .body ∧ openInBody o > 0 ∧ openBlock o = none ∨
      placeOf o = .block ∧ openInBody o > 0 ∧ ∃ b, openBlock o = some b := by
  induction o with
  | top forest => exact .inl ⟨rfl, rfl, rfl⟩
  | inside outer tag content ih =>
    rw [placeOf, openInBody, openBlock, bodyDepthAfterStart]
    obtain ⟨hplace, hdepth, hblock⟩ | ⟨hplace, hdepth, hblock⟩ | ⟨hplace, hdepth, b, hblock⟩ := ih
    · by_cases hbody : tag.localName = bodyName <;>
        simp [hplace, hdepth, hblock, Place.enter, hbody]
    · by_cases hname : tag.localName = blockName <;>
        simp [hplace, hdepth, hblock, Place.enter, hname]
    · simp [hplace, hdepth, hblock, Place.enter]

/-! ## Growing outlines -/

section Grow

variable {f : Forest → Forest}

theorem openInBody_grow (o : Outline) : openInBody (o.grow f) = openInBody o := by
  cases o <;> rfl

theorem openBlock_grow {more : List Char}
    (h : ∀ content, blockMarkup (f content) = blockMarkup content ++ more) (o : Outline) :
    openBlock (o.grow f) = (openBlock o).map (·.write more) := by
  cases o with
  | top forest => rfl
  | inside outer tag content =>
    rw [Outline.grow, openBlock, openBlock, h, Option.map_map]
    congr 1
    funext b
    exact (b.write_write _ _).symm

theorem bodyBlocks_grow (more : Place → List Forest)
    (h : ∀ place content, forestBlocks place (f content) = forestBlocks place content ++ more place)
    (o : Outline) : bodyBlocks (o.grow f) = bodyBlocks o ++ more (placeOf o) := by
  cases o with
  | top forest => exact h .outside forest
  | inside outer tag content =>
    rw [Outline.grow, bodyBlocks, bodyBlocks, h, List.append_assoc]
    rfl

end Grow

theorem blockMarkup_leaf (before : Forest) (token : Token) (h : token.isLeaf = true) :
    blockMarkup (.leaf before token h) =
      blockMarkup before ++ if isEmptyMedia token then [] else tokenMarkup token := by
  rw [blockMarkup, withoutMedia]
  split
  · rw [List.append_nil, blockMarkup]
  · rw [Forest.tokens, List.flatMap_append, List.flatMap_singleton, blockMarkup]

def elementMarkup (tag : Tag) (content : Forest) : List Char :=
  if tag.localName = mediaName then []
  else startMarkup tag ++ (blockMarkup content ++ closeMarkup tag.name)

theorem blockMarkup_element (before : Forest) (tag : Tag) (content : Forest) :
    blockMarkup (.element before tag content) =
      blockMarkup before ++ elementMarkup tag content := by
  rw [blockMarkup, withoutMedia, elementMarkup]
  split
  · rw [List.append_nil, blockMarkup]
  · simp [Forest.tokens, blockMarkup, tokenMarkup]

/-- Between its start and its close an element writes its markup, and nothing if it is a media
reference or in one. -/
theorem OpenBlock.leave_enter (b : OpenBlock) (tag : Tag) (content : Forest) :
    ((b.enter tag).write (blockMarkup content)).leave tag.name =
      b.write (elementMarkup tag content) := by
  by_cases hskip : b.skip = 0
  · by_cases hmedia : tag.localName = mediaName <;>
      simp [enter, write, leave, elementMarkup, hskip, hmedia]
  · have hpos : b.skip > 0 := Nat.pos_of_ne_zero hskip
    simp [enter, write, leave, hskip, hpos]

theorem OpenBlock.depth_enter_write (b : OpenBlock) (tag : Tag) (markup : List Char) :
    ((b.enter tag).write markup).depth = b.depth + 1 := by
  rw [enter, write]
  split <;> split <;> (try split) <;> rfl

/-! ## The walk -/

/-- How far a block of the walk has come. -/
def view (b : Block) : OpenBlock := ⟨b.depth, b.skip, b.markup.toList⟩

theorem view_write (b : Block) (markup : List Char) :
    view (b.write markup) = (view b).write markup := by
  by_cases h : b.skip = 0 <;> simp [Block.write, OpenBlock.write, view, h]

theorem view_onStart (b : Block) (tag : Tag) : view (b.onStart tag) = (view b).enter tag := by
  by_cases h : b.skip > 0
  · simp [Block.onStart, OpenBlock.enter, view, h]
  · by_cases hmedia : tag.localName = mediaName <;>
      simp [Block.onStart, OpenBlock.enter, view, h, hmedia]

theorem view_onEmpty (b : Block) (tag : Tag) :
    view (b.onEmpty tag) =
      (view b).write (if isEmptyMedia (.empty tag) then [] else tokenMarkup (.empty tag)) := by
  by_cases h : tag.localName = mediaName
  · simp [Block.onEmpty, isEmptyMedia, h, OpenBlock.write_nil]
  · simp [Block.onEmpty, isEmptyMedia, h, view_write, tokenMarkup]

theorem onClose_of_depth_eq_zero {b : Block} (h : (view b).depth = 0) (name : List Char) :
    b.onClose name = none := if_pos h

theorem onClose_of_depth_pos {b : Block} (h : (view b).depth > 0) (name : List Char) :
    ∃ b', b.onClose name = some b' ∧ view b' = (view b).leave name := by
  have hdepth : b.depth ≠ 0 := Nat.ne_of_gt h
  by_cases hskip : b.skip > 0 <;> simp [Block.onClose, OpenBlock.leave, view, hdepth, hskip]

theorem bodyDepthAfterStart_sub_one (depth : Nat) (tag : Tag) :
    bodyDepthAfterStart depth tag - 1 = depth := by
  rw [bodyDepthAfterStart]
  split
  · rfl
  · split <;> omega

/-- The walk through a document has come as far as its outline. -/
structure Mirrors (o : Outline) (w : Walk) : Prop where
  bodyDepth : w.bodyDepth = openInBody o
  block : w.block.map view = openBlock o
  fragments : w.fragments.map Growing.toList = bodyOf (bodyBlocks o)
  content : w.content.body = none

theorem body_offerAttributes (c : Content) (tag : Tag) : (c.offerAttributes tag).body = c.body := by
  rw [Content.offerAttributes]
  split
  · rfl
  · split <;> rfl

theorem text?_offerAttributes (c : Content) (tag : Tag) (field : TextField) :
    (c.offerAttributes tag).text? field = c.text? field := by
  rw [Content.offerAttributes]
  split
  · cases field <;> rfl
  · split
    · cases field <;> rfl
    · rfl

theorem body_offer (c : Content) (field : TextField) (text : List Char) :
    (c.offer field text).body = c.body := by
  rw [Content.offer]
  split
  · rfl
  · cases field <;> rfl

/-- Closing a captured text concerns the captured text and the content alone. -/
theorem closeCapture_eq (w : Walk) :
    ∃ content capture, w.closeCapture = { w with content, capture } ∧
      content.body = w.content.body := by
  rw [Walk.closeCapture]
  split
  · exact ⟨w.content, w.capture, rfl, rfl⟩
  · next c hc =>
    split
    · exact ⟨_, none, rfl, body_offer _ _ _⟩
    · exact ⟨w.content, _, rfl, rfl⟩

theorem fragments_addFragment (w : Walk) (fragment : List Char) :
    (w.addFragment fragment).fragments.map Growing.toList =
      some (((w.fragments.map Growing.toList).getD []) ++ fragment) := by
  cases h : w.fragments <;> simp [Walk.addFragment, h]

/-- The end of a walk adds the body alone. -/
theorem Walk.finish_eq_content (w : Walk) :
    w.finish = { w.content with body := w.finish.body } := by
  rw [Walk.finish]
  split <;> rfl

theorem body_finish {w : Walk} (h : w.content.body = none) :
    w.finish.body = (w.fragments.map Growing.toList).map String.ofList := by
  rw [Walk.finish]
  cases w.fragments with
  | none => exact h
  | some fragments => rfl

namespace Mirrors

variable {o outer : Outline} {w : Walk} {tag : Tag} {content : Forest}

/-- A leaf that is no element of its own is written to the open block and nowhere else. -/
theorem leaf_of_write {token : Token} (h : token.isLeaf = true) (hm : Mirrors o w)
    (hempty : ∀ tag, token ≠ .empty tag) :
    Mirrors (o.grow fun forest ↦ forest.leaf token h) (w.step token) := by
  have hblock : (w.step token).block.map view =
      (w.block.map view).map (·.write (tokenMarkup token)) := by
    cases hb : w.block <;> cases token <;>
      simp_all [Walk.step, Walk.onText, tokenMarkup, view_write, Token.isLeaf, OpenBlock.write_nil]
  have hrest : (w.step token).bodyDepth = w.bodyDepth ∧ (w.step token).fragments = w.fragments ∧
      (w.step token).content = w.content := by
    cases token <;> simp_all [Walk.step, Walk.onText, Token.isLeaf]
  obtain ⟨hdepth, hfragments, hcontent⟩ := hrest
  have hmarkup : ∀ before, blockMarkup (.leaf before token h) =
      blockMarkup before ++ tokenMarkup token := fun before ↦ by
    have hmedia : isEmptyMedia token = false := by
      cases token <;> simp_all [isEmptyMedia]
    rw [blockMarkup_leaf, hmedia, if_neg Bool.false_ne_true]
  have hblocks : ∀ place before, forestBlocks place (.leaf before token h) =
      forestBlocks place before ++ [] := fun place before ↦ by
    cases place <;> cases token <;> simp_all [forestBlocks, leafBlocks]
  refine ⟨?_, ?_, ?_, ?_⟩
  · rw [hdepth, hm.bodyDepth, openInBody_grow]
  · rw [hblock, hm.block, openBlock_grow hmarkup]
  · rw [hfragments, hm.fragments, bodyBlocks_grow (fun _ ↦ []) hblocks, List.append_nil]
  · rw [hcontent, hm.content]

/-- Where the outline grows, by the counters of the walk. -/
theorem place_cases (hm : Mirrors o w) :
    placeOf o = .outside ∧ w.bodyDepth = 0 ∧ w.block = none ∨
      placeOf o = .body ∧ w.bodyDepth > 0 ∧ w.block = none ∨
      placeOf o = .block ∧ w.bodyDepth > 0 ∧ ∃ b, w.block = some b := by
  have hdepth := hm.bodyDepth
  have hblock := hm.block
  obtain ⟨hplace, hopen, hnone⟩ | ⟨hplace, hopen, hnone⟩ | ⟨hplace, hopen, b, hsome⟩ :=
    placeOf_cases o
  · rw [hnone, Option.map_eq_none_iff] at hblock
    exact .inl ⟨hplace, hdepth.trans hopen, hblock⟩
  · rw [hnone, Option.map_eq_none_iff] at hblock
    exact .inr (.inl ⟨hplace, hdepth ▸ hopen, hblock⟩)
  · rw [hsome, Option.map_eq_some_iff] at hblock
    obtain ⟨b', hb', -⟩ := hblock
    exact .inr (.inr ⟨hplace, hdepth ▸ hopen, b', hb'⟩)

/-- An empty element is written to the open block, or is a block of its own. -/
theorem leaf_of_empty (hm : Mirrors o w) (h : (Token.empty tag).isLeaf = true) :
    Mirrors (o.grow fun forest ↦ forest.leaf (.empty tag) h) (w.step (.empty tag)) := by
  have hin := (openInBody_grow (f := fun forest ↦ forest.leaf (.empty tag) h) o).trans
    hm.bodyDepth.symm
  have hopen := openBlock_grow (f := fun forest ↦ forest.leaf (.empty tag) h)
    (fun before ↦ blockMarkup_leaf before (.empty tag) h) o
  rw [← hm.block] at hopen
  have hblocks := bodyBlocks_grow (f := fun forest ↦ forest.leaf (.empty tag) h)
    (fun place ↦ leafBlocks place (.empty tag)) (fun _ _ ↦ rfl) o
  have hcontent : (w.content.offerAttributes tag).body = none := by
    rw [body_offerAttributes, hm.content]
  have hfragments := hm.fragments
  rw [Walk.step, Walk.onEmpty]
  obtain ⟨hplace, hdepth, hblock⟩ | ⟨hplace, hdepth, hblock⟩ | ⟨hplace, hdepth, b, hblock⟩ :=
    hm.place_cases
  · -- Outside the body nothing is kept.
    rw [hplace] at hblocks
    simp only [hblock, hdepth, Nat.lt_irrefl, false_and, if_false] at hin hopen ⊢
    refine ⟨hin.symm, hopen.symm, ?_, hcontent⟩
    simpa [hblocks, leafBlocks] using hfragments
  · rw [hplace] at hblocks
    by_cases hname : tag.localName = blockName
    · -- The element is a body block without content.
      simp only [hblock, hdepth, hname, true_and, if_true] at hopen ⊢
      refine ⟨hin.symm, hopen.symm, ?_, hcontent⟩
      rw [hblocks, leafBlocks, if_pos hname, bodyOf_concat, fragments_addFragment, hfragments]
      rfl
    · simp only [hblock, hname, and_false, if_false] at hopen ⊢
      refine ⟨hin.symm, hopen.symm, ?_, hcontent⟩
      rw [hblocks, leafBlocks, if_neg hname, List.append_nil]
      exact hfragments
  · -- The element is part of a block that goes on.
    rw [hplace] at hblocks
    simp only [hblock, Option.map_some] at hopen ⊢
    refine ⟨hin.symm, ?_, ?_, hcontent⟩
    · rw [hopen, Option.map_some, view_onEmpty]
    · simpa [hblocks, leafBlocks] using hfragments

theorem leaf {token : Token} (h : token.isLeaf = true) (hm : Mirrors o w) :
    Mirrors (o.grow fun forest ↦ forest.leaf token h) (w.step token) := by
  cases token with
  | empty tag => exact hm.leaf_of_empty h
  | _ => exact hm.leaf_of_write h (by simp)

/-- A start goes one element further down, and may begin the body or a block. -/
theorem start (hm : Mirrors o w) (tag : Tag) :
    Mirrors (.inside o tag .nil) (w.step (.start tag)) := by
  rw [Walk.step, Walk.onStart]
  refine ⟨?_, ?_, ?_, ?_⟩
  · rw [openInBody, ← hm.bodyDepth]
  · have hnil : (fun b : OpenBlock ↦ b.write (blockMarkup .nil)) = id :=
      funext OpenBlock.write_nil
    rw [openBlock, hnil, Option.map_id, ← hm.block, ← hm.bodyDepth]
    cases hblock : w.block with
    | some b => simp [blockAfterStart, view_onStart]
    | none =>
      rw [blockAfterStart]
      split <;> rfl
  · rw [bodyBlocks, forestBlocks, List.append_nil]
    exact hm.fragments
  · rw [body_offerAttributes, hm.content]

/-- A close leads one element back up, and may complete a block. -/
theorem close (hm : Mirrors (.inside outer tag content) w) :
    Mirrors (outer.grow fun forest ↦ forest.element tag content) (w.step (.close tag.name)) := by
  have hdepth := hm.bodyDepth
  have hblock := hm.block
  have hfragments := hm.fragments
  rw [openInBody] at hdepth
  rw [openBlock] at hblock
  rw [bodyBlocks] at hfragments
  have hblocks := bodyBlocks_grow (f := fun forest ↦ forest.element tag content)
    (fun place ↦ if place = .body ∧ tag.localName = blockName then [content]
      else forestBlocks (place.enter tag) content) (fun _ _ ↦ rfl) outer
  have hgrow := openBlock_grow (f := fun forest ↦ forest.element tag content)
    (fun before ↦ blockMarkup_element before tag content) outer
  have hback : w.bodyDepth - 1 =
      openInBody (outer.grow fun forest ↦ forest.element tag content) := by
    rw [openInBody_grow, hdepth, bodyDepthAfterStart_sub_one]
  obtain ⟨c, capture, hcapture, hbody⟩ := closeCapture_eq w
  have hcontent : c.body = none := hbody.trans hm.content
  rw [Walk.step, Walk.onClose, hcapture, Walk.closeBlock]
  obtain ⟨hplace, hopen, hnone⟩ | ⟨hplace, hopen, hnone⟩ | ⟨hplace, hopen, b, hsome⟩ :=
    placeOf_cases outer
  · -- Outside the body nothing is kept.
    rw [hplace] at hblocks hfragments
    rw [hnone] at hgrow
    rw [hnone, hopen] at hblock
    have hw : w.block = none := by simpa using hblock
    simp only [hw]
    refine ⟨hback, hgrow.symm, ?_, hcontent⟩
    simpa [hblocks] using hfragments
  · rw [hplace] at hblocks hfragments
    rw [hnone] at hgrow
    by_cases hname : tag.localName = blockName
    · -- The element is a body block, and now it is complete.
      simp only [hnone, hopen, hname, true_and, if_true, Option.map_some] at hblock
      obtain ⟨b, hw, hb⟩ := Option.map_eq_some_iff.mp hblock
      have hclose : b.onClose tag.name = none := onClose_of_depth_eq_zero (by rw [hb]; rfl) _
      have hmarkup : b.fragment = fragmentOf content :=
        congrArg (fun b : OpenBlock ↦ joinLines b.markup) hb
      simp only [hw, hclose]
      refine ⟨hback, hgrow.symm, ?_, hcontent⟩
      rw [hblocks, if_pos ⟨rfl, hname⟩, bodyOf_concat, fragments_addFragment, hmarkup]
      rw [Place.enter, if_pos hname, forestBlocks_block, List.append_nil] at hfragments
      rw [hfragments]
    · simp only [hnone, hname, and_false, if_false, Option.map_none, Option.map_eq_none_iff]
        at hblock
      simp only [hblock]
      refine ⟨hback, hgrow.symm, ?_, hcontent⟩
      rw [hblocks, if_neg (fun h ↦ hname h.2)]
      exact hfragments
  · -- The element is part of a block that goes on.
    rw [hplace] at hblocks hfragments
    simp only [hsome, Option.map_some] at hblock hgrow
    obtain ⟨b', hw, hb'⟩ := Option.map_eq_some_iff.mp hblock
    obtain ⟨b'', hclose, hb''⟩ := onClose_of_depth_pos (b := b')
      (by rw [hb', OpenBlock.depth_enter_write]; exact Nat.succ_pos _) tag.name
    simp only [hw, hclose]
    refine ⟨hback, ?_, ?_, hcontent⟩
    · rw [hgrow, Option.map_some, hb'', hb', OpenBlock.leave_enter]
    · simpa [hblocks] using hfragments

end Mirrors

theorem mirrors_outline (document : List Char) :
    Mirrors (outline document) ((events document).1.foldl Walk.step .start) :=
  outline_induction (fun _ _ _ h hm ↦ hm.leaf h) (fun _ _ tag hm ↦ hm.start tag)
    (fun _ _ _ _ hm ↦ hm.close) document ⟨rfl, rfl, rfl, rfl⟩

theorem body_extractFrom (document : List Char) :
    (extractFrom document).body = (bodyOf (bodyBlocks (outline document))).map String.ofList := by
  have hm := mirrors_outline document
  rw [extractFrom, body_finish hm.content, hm.fragments]

/-- **The body of an article is that of its outline.** The outline holds every event of the
document, in order. There is a body exactly where the outline has a complete body block, and it is
the fragments of these blocks run together. -/
theorem body_extract (document : String) :
    (outline document.toList).tokens = (events document.toList).1 ∧
      (extract document).body =
        if (bodyBlocks (outline document.toList)).isEmpty then none
        else some (String.ofList ((bodyBlocks (outline document.toList)).flatMap fragmentOf)) := by
  refine ⟨tokens_outline _, ?_⟩
  rw [extract, body_extractFrom, bodyOf]
  split <;> rfl

end NewsWire.Article

import Mathlib.Data.List.TakeWhile
import Mathlib.Data.Nat.PSub
import NewsWire.Proofs.OpenElements
import NewsWire.Proofs.Texts

/-!
# The counters of a walk

A walk keeps no list of the open elements, only counters: one for the body, two for the open block
and one for the captured text. Here the list is kept beside the walk, and each counter is the length
of a part of it. The parts are all of one kind, the elements from the outermost one of a name on
(`fromOutermost`), each taken inside the one before.

A start puts an element at the end of the list and a close takes the last one away, so it is enough
to know what becomes of such a part at its end. A part that is not empty grows with the list
(`fromOutermost_concat`), and every part shrinks with it (`fromOutermost_dropLast`). The walk does
the same with its counters (`Counts.start` and `Counts.close`). The captured text needs one thing
more, which is the element that it was begun with (`CapturedSince`).

It follows that no counter is asked for what it does not have. A walk that stops when it would take
one from zero does not stop, and is the same walk (`foldlM_step?`).
-/

namespace NewsWire.Article

open NewsWire.Markup NewsWire.Text

/-! ## Parts of the open elements

Whether an element belongs to a part depends on its name and on what is open around it, and not on
what is open inside it. So a part is a suffix of the list of the open elements, and two laws say how
it changes when the list changes at its end. -/

/-- The elements from the outermost one of a name on. -/
def fromOutermost (name : List Char) (elements : List OpenElement) : List OpenElement :=
  elements.dropWhile fun e ↦ e.tag.localName ≠ name

def bodyElements (elements : List OpenElement) : List OpenElement :=
  fromOutermost bodyName elements

/-- The elements from the outermost block inside the body on. -/
def blockElements (elements : List OpenElement) : List OpenElement :=
  fromOutermost blockName (bodyElements elements).tail

/-- The elements from the outermost media reference inside the block on. -/
def mediaElements (elements : List OpenElement) : List OpenElement :=
  fromOutermost mediaName (blockElements elements).tail

variable {name : List Char} {elements : List OpenElement} {e : OpenElement} {w : Walk}

theorem fromOutermost_eq_nil_iff :
    fromOutermost name elements = [] ↔ ∀ e ∈ elements, e.tag.localName ≠ name := by
  rw [fromOutermost, List.dropWhile_eq_nil_iff]
  simp

theorem fromOutermost_concat (name : List Char) (elements : List OpenElement) (e : OpenElement) :
    fromOutermost name (elements ++ [e]) =
      if fromOutermost name elements = [] then if e.tag.localName = name then [e] else []
      else fromOutermost name elements ++ [e] := by
  rw [fromOutermost, List.dropWhile_append, ← fromOutermost]
  by_cases hnone : fromOutermost name elements = []
  · by_cases hname : e.tag.localName = name <;> simp [hnone, hname]
  · simp [hnone]

/-- A part ends where the list ends. -/
theorem fromOutermost_dropLast (name : List Char) (elements : List OpenElement) :
    fromOutermost name elements.dropLast = (fromOutermost name elements).dropLast := by
  rcases List.eq_nil_or_concat elements with rfl | ⟨outer, e, rfl⟩
  · rfl
  · rw [List.concat_eq_append, List.dropLast_concat, fromOutermost_concat]
    split
    · next hnone => split <;> exact hnone
    · rw [List.dropLast_concat]

theorem bodyElements_dropLast (elements : List OpenElement) :
    bodyElements elements.dropLast = (bodyElements elements).dropLast :=
  fromOutermost_dropLast bodyName elements

theorem blockElements_dropLast (elements : List OpenElement) :
    blockElements elements.dropLast = (blockElements elements).dropLast := by
  rw [blockElements, bodyElements_dropLast, List.tail_dropLast, fromOutermost_dropLast,
    blockElements]

theorem mediaElements_dropLast (elements : List OpenElement) :
    mediaElements elements.dropLast = (mediaElements elements).dropLast := by
  rw [mediaElements, blockElements_dropLast, List.tail_dropLast, fromOutermost_dropLast,
    mediaElements]

theorem length_fromOutermost_le (name : List Char) (elements : List OpenElement) :
    (fromOutermost name elements).length ≤ elements.length :=
  (List.dropWhile_suffix _).length_le

theorem bodyElements_ne_nil (h : blockElements elements ≠ []) : bodyElements elements ≠ [] := by
  intro hbody
  rw [blockElements, hbody] at h
  exact h rfl

theorem length_bodyElements_concat (elements : List OpenElement) (e : OpenElement) :
    (bodyElements (elements ++ [e])).length =
      bodyDepthAfterStart (bodyElements elements).length e.tag := by
  rw [bodyElements, fromOutermost_concat, ← bodyElements, bodyDepthAfterStart]
  by_cases hbody : bodyElements elements = []
  · rw [if_pos hbody, hbody, List.length_nil, if_neg (Nat.lt_irrefl 0)]
    split <;> rfl
  · rw [if_neg hbody, if_pos (List.length_pos_iff.mpr hbody), List.length_append]
    rfl

theorem blockElements_concat_of_no_body (h : bodyElements elements = []) (e : OpenElement) :
    blockElements (elements ++ [e]) = [] := by
  rw [blockElements, bodyElements, fromOutermost_concat, ← bodyElements, if_pos h]
  split <;> rfl

theorem blockElements_concat (h : bodyElements elements ≠ []) (e : OpenElement) :
    blockElements (elements ++ [e]) =
      if blockElements elements = [] then if e.tag.localName = blockName then [e] else []
      else blockElements elements ++ [e] := by
  rw [blockElements, bodyElements, fromOutermost_concat, ← bodyElements, if_neg h,
    List.tail_append_of_ne_nil h, fromOutermost_concat, ← blockElements]

theorem mediaElements_concat (h : blockElements elements ≠ []) (e : OpenElement) :
    mediaElements (elements ++ [e]) =
      if mediaElements elements = [] then if e.tag.localName = mediaName then [e] else []
      else mediaElements elements ++ [e] := by
  rw [mediaElements, blockElements_concat (bodyElements_ne_nil h), if_neg h,
    List.tail_append_of_ne_nil h, fromOutermost_concat, ← mediaElements]

/-! ## The counters of a block -/

def Block.counters (b : Block) : Nat × Nat := (b.depth, b.skip)

theorem counters_write (b : Block) (markup : List Char) :
    (b.write markup).counters = b.counters := by
  rw [Block.write]
  split <;> rfl

theorem counters_onEmpty (b : Block) (tag : Tag) : (b.onEmpty tag).counters = b.counters := by
  rw [Block.onEmpty]
  split
  · rfl
  · exact counters_write b _

theorem counters_onStart (b : Block) (tag : Tag) :
    (b.onStart tag).counters = (b.depth + 1,
      if b.skip = 0 then if tag.localName = mediaName then 1 else 0 else b.skip + 1) := by
  rw [Block.onStart]
  by_cases hskip : b.skip = 0
  · by_cases hname : tag.localName = mediaName <;> simp [Block.counters, hskip, hname]
  · rw [if_pos (Nat.pos_of_ne_zero hskip), if_neg hskip]
    rfl

theorem map_counters_onClose (b : Block) (name : List Char) :
    (b.onClose name).map Block.counters =
      if b.depth = 0 then none else some (b.depth - 1, b.skip - 1) := by
  rw [Block.onClose]
  split
  · rfl
  · split
    · rfl
    · next hskip => simp [Block.counters, Nat.eq_zero_of_not_pos hskip]

/-- The counters of the open block are those of its part of the elements: how many elements come
after the block itself, and how many of them are in a media reference. -/
def blockCounters (elements : List OpenElement) : Option (Nat × Nat) :=
  if blockElements elements = [] then none
  else some ((blockElements elements).tail.length, (mediaElements elements).length)

theorem blockCounters_eq_none_iff :
    blockCounters elements = none ↔ blockElements elements = [] := by
  rw [blockCounters]
  split <;> simp [*]

theorem blockCounters_concat (elements : List OpenElement) (e : OpenElement) :
    blockCounters (elements ++ [e]) =
      match blockCounters elements with
      | some (depth, skip) => some (depth + 1,
          if skip = 0 then if e.tag.localName = mediaName then 1 else 0 else skip + 1)
      | none =>
        if (bodyElements elements).length > 0 ∧ e.tag.localName = blockName then some (0, 0)
        else none := by
  by_cases hblock : blockElements elements = []
  · rw [blockCounters_eq_none_iff.mpr hblock]
    dsimp only
    by_cases hbody : bodyElements elements = []
    · -- Outside the body no element begins a block.
      have hconcat := blockElements_concat_of_no_body hbody e
      simp [blockCounters_eq_none_iff.mpr hconcat, hbody]
    · have hpos := List.length_pos_iff.mpr hbody
      have hconcat := blockElements_concat hbody e
      rw [if_pos hblock] at hconcat
      by_cases hname : e.tag.localName = blockName
      · rw [if_pos hname] at hconcat
        rw [if_pos ⟨hpos, hname⟩, blockCounters, mediaElements, hconcat]
        rfl
      · rw [if_neg hname] at hconcat
        rw [if_neg fun h ↦ hname h.2, blockCounters_eq_none_iff.mpr hconcat]
  · -- The element is one more inside the block.
    have hconcat := blockElements_concat (bodyElements_ne_nil hblock) e
    rw [if_neg hblock] at hconcat
    have hmedia : (mediaElements (elements ++ [e])).length =
        if (mediaElements elements).length = 0 then if e.tag.localName = mediaName then 1 else 0
        else (mediaElements elements).length + 1 := by
      rw [mediaElements_concat hblock]
      by_cases hnone : mediaElements elements = []
      · by_cases hname : e.tag.localName = mediaName <;> simp [hnone, hname]
      · simp [hnone]
    rw [blockCounters, blockCounters, hmedia, hconcat, List.tail_append_of_ne_nil hblock]
    simp [hblock]

theorem blockCounters_dropLast (elements : List OpenElement) :
    blockCounters elements.dropLast =
      (blockCounters elements).bind fun (depth, skip) ↦
        if depth = 0 then none else some (depth - 1, skip - 1) := by
  rw [blockCounters, blockCounters, blockElements_dropLast, mediaElements_dropLast]
  rcases blockElements elements with - | ⟨block, inner⟩
  · rfl
  · by_cases hinner : inner = []
    · rw [hinner]
      rfl
    · rw [List.dropLast_cons_of_ne_nil hinner]
      simp [hinner]

/-! ## The counters of a walk -/

theorem counters_step_leaf (w : Walk) {token : Token} (h : token.isLeaf = true) :
    (w.step token).bodyDepth = w.bodyDepth ∧
      (w.step token).block.map Block.counters = w.block.map Block.counters := by
  have hwrite (markup : List Char) : (w.block.map fun b ↦ b.write markup).map Block.counters =
      w.block.map Block.counters := by
    rw [Option.map_map]
    exact congrArg (fun f ↦ w.block.map f) (funext fun b ↦ counters_write b markup)
  cases token with
  | start tag => cases h
  | close name => cases h
  | text raw => exact ⟨rfl, hwrite raw⟩
  | literal content => exact ⟨rfl, hwrite _⟩
  | comment content => exact ⟨rfl, hwrite _⟩
  | instruction content => exact ⟨rfl, rfl⟩
  | empty tag =>
    rw [Walk.step, Walk.onEmpty]
    split
    · next b hb =>
      have hb' : w.block = some b := hb
      rw [hb']
      exact ⟨rfl, congrArg some (counters_onEmpty b tag)⟩
    · split <;> exact ⟨rfl, rfl⟩

theorem block_closeBlock (w : Walk) (name : List Char) :
    (w.closeBlock name).block = w.block.bind fun b ↦ b.onClose name := by
  rw [Walk.closeBlock]
  split
  · next hblock => rw [hblock, Option.bind_none]
  · next b hblock =>
    rw [hblock, Option.bind_some]
    split
    · next b' hclose => exact hclose.symm
    · next hclose => exact hclose.symm

theorem bodyDepth_closeBlock (w : Walk) (name : List Char) :
    (w.closeBlock name).bodyDepth = w.bodyDepth := by
  rw [Walk.closeBlock]
  split
  · rfl
  · split <;> rfl

theorem counters_onClose (w : Walk) (name : List Char) :
    (w.onClose name).bodyDepth = w.bodyDepth - 1 ∧
      (w.onClose name).block.map Block.counters =
        (w.block.map Block.counters).bind fun (depth, skip) ↦
          if depth = 0 then none else some (depth - 1, skip - 1) := by
  obtain ⟨content, capture, hcapture, -⟩ := closeCapture_eq w
  rw [Walk.onClose, hcapture]
  constructor
  · rw [bodyDepth_closeBlock]
  · rw [block_closeBlock]
    cases w.block with
    | none => rfl
    | some b => exact map_counters_onClose b name

/-- The counters of the body and of the open block are those of the open elements. -/
structure Counts (elements : List OpenElement) (w : Walk) : Prop where
  bodyDepth : w.bodyDepth = (bodyElements elements).length
  block : w.block.map Block.counters = blockCounters elements

namespace Counts

theorem start (hc : Counts elements w) (e : OpenElement) :
    Counts (elements ++ [e]) (w.onStart e.tag) := by
  rw [Walk.onStart]
  constructor
  · rw [length_bodyElements_concat, ← hc.bodyDepth]
  · rw [blockCounters_concat, ← hc.block, ← hc.bodyDepth]
    cases w.block with
    | none =>
      rw [blockAfterStart]
      split <;> rfl
    | some b => exact congrArg some (counters_onStart b e.tag)

theorem leaf {token : Token} (h : token.isLeaf = true) (hc : Counts elements w) :
    Counts elements (w.step token) := by
  obtain ⟨hdepth, hblock⟩ := counters_step_leaf w h
  exact ⟨hdepth.trans hc.bodyDepth, hblock.trans hc.block⟩

theorem close (hc : Counts elements w) (name : List Char) :
    Counts elements.dropLast (w.onClose name) := by
  obtain ⟨hdepth, hblock⟩ := counters_onClose w name
  constructor
  · rw [hdepth, hc.bodyDepth, bodyElements_dropLast, List.length_dropLast]
  · rw [hblock, hc.block, blockCounters_dropLast]

theorem isSome_block_iff (hc : Counts elements w) :
    w.block.isSome ↔ ∃ e ∈ (bodyElements elements).tail, e.tag.localName = blockName := by
  have hsome : w.block.isSome ↔ blockElements elements ≠ [] := by
    rw [← Option.isSome_map (f := Block.counters), hc.block, Option.isSome_iff_ne_none, ne_eq,
      blockCounters_eq_none_iff]
  rw [hsome, blockElements, ne_eq, fromOutermost_eq_nil_iff]
  simp

theorem of_block_eq_some (hc : Counts elements w) {b : Block} (hb : w.block = some b) :
    b.depth = (blockElements elements).tail.length ∧ b.skip = (mediaElements elements).length ∧
      b.skip ≤ b.depth ∧ b.depth + 2 ≤ w.bodyDepth := by
  have hblock := hc.block
  rw [hb, blockCounters] at hblock
  split at hblock
  · cases hblock
  · next hsome =>
    obtain ⟨hdepth, hskip⟩ := Prod.mk.inj (Option.some.inj hblock)
    have hmedia := length_fromOutermost_le mediaName (blockElements elements).tail
    have hbody := length_fromOutermost_le blockName (bodyElements elements).tail
    have hpos := List.length_pos_iff.mpr hsome
    rw [← mediaElements] at hmedia
    rw [← blockElements, List.length_tail, ← hc.bodyDepth] at hbody
    refine ⟨hdepth, hskip, ?_, ?_⟩
    · rw [hdepth, hskip]
      exact hmedia
    · rw [hdepth, List.length_tail]
      omega

end Counts

/-! ## Walks event by event -/

/-- The walk after so many events. -/
def walkAfter (tokens : List Token) (n : Nat) : Walk := (tokens.take n).foldl Walk.step .start

variable {tokens : List Token} {n : Nat}

theorem walkAfter_of_some {token : Token} (h : tokens[n]? = some token) :
    walkAfter tokens (n + 1) = (walkAfter tokens n).step token := by
  rw [walkAfter, take_of_some h, List.foldl_append]
  rfl

theorem walkAfter_of_none (h : tokens[n]? = none) :
    walkAfter tokens (n + 1) = walkAfter tokens n := by
  rw [walkAfter, take_of_none h, walkAfter]

theorem counts_walkAfter (tokens : List Token) (n : Nat) :
    Counts (openElements tokens n) (walkAfter tokens n) := by
  induction n using eventwise_induction tokens with
  | zero => exact ⟨rfl, rfl⟩
  | none n h ih =>
    rw [walkAfter_of_none h, openElements_of_none h]
    exact ih
  | leaf n token h hleaf ih =>
    rw [walkAfter_of_some h, openElements_of_leaf h hleaf]
    exact ih.leaf hleaf
  | start n tag h ih =>
    rw [walkAfter_of_some h, openElements_of_start h]
    exact ih.start ⟨tag, n⟩
  | close n name h ih =>
    rw [walkAfter_of_some h, openElements_of_close h]
    exact ih.close name

/-- A picture in a paragraph of a block. -/
example : (walkAfter ([bodyName, blockName, ['p'], mediaName].map fun name ↦ .start ⟨name, []⟩)
    4).block.map Block.counters = some (2, 1) := by
  decide +kernel

/-! ## The captured text

A captured text may have begun at any element, whatever it is called, so its part of the open
elements cannot be found by a name. It is found by when it began: nothing was captured before this
element, and the capture has been open since. -/

/-- The text of a field has been captured since the start of an element, and none was captured
before it. -/
structure CapturedSince (tokens : List Token) (n : Nat) (e : OpenElement) (field : TextField) :
    Prop where
  start : tokens[e.before]? = some (.start e.tag)
  candidate : textField? e.tag = some field
  before : (walkAfter tokens e.before).capture = none
  since : ∀ m, e.before < m → m ≤ n → ∃ c, (walkAfter tokens m).capture = some c ∧ c.field = field

/-- A captured text counts the elements from the one on with which it has begun. -/
def CountsText (tokens : List Token) (n : Nat) : Prop :=
  ∀ c, (walkAfter tokens n).capture = some c →
    ∃ outer e inner, openElements tokens n = outer ++ e :: inner ∧
      CapturedSince tokens n e c.field ∧ c.depth = inner.length + 1

theorem CapturedSince.succ {field : TextField} {c : Capture} (h : CapturedSince tokens n e field)
    (hc : (walkAfter tokens (n + 1)).capture = some c) (hfield : c.field = field) :
    CapturedSince tokens (n + 1) e field := by
  refine ⟨h.start, h.candidate, h.before, ?_⟩
  intro m hlt hle
  rcases Nat.le_succ_iff.mp hle with hle | rfl
  · exact h.since m hlt hle
  · exact ⟨c, hc, hfield⟩

theorem capturedSince_start {tag : Tag} {c : Capture} (h : tokens[n]? = some (.start tag))
    (hcandidate : textField? tag = some c.field) (hbefore : (walkAfter tokens n).capture = none)
    (hc : (walkAfter tokens (n + 1)).capture = some c) :
    CapturedSince tokens (n + 1) ⟨tag, n⟩ c.field := by
  refine ⟨h, hcandidate, hbefore, ?_⟩
  intro m hlt hle
  obtain rfl : m = n + 1 := Nat.le_antisymm hle hlt
  exact ⟨c, hc, rfl⟩

theorem capture_onClose (w : Walk) (name : List Char) :
    (w.onClose name).capture = w.capture.bind fun c ↦
      if c.depth = 1 then none else some { c with depth := c.depth - 1 } := by
  have hclose : (w.onClose name).capture = w.closeCapture.capture :=
    (closeBlock_eq w.closeCapture name).2
  rw [hclose, Walk.closeCapture]
  split
  · next hnone => rw [hnone, Option.bind_none]
  · next c hc =>
    rw [hc, Option.bind_some]
    split <;> rfl

theorem exists_capture_of_leaf {token : Token} {c : Capture} (h : token.isLeaf = true)
    (hc : (w.step token).capture = some c) :
    ∃ c', w.capture = some c' ∧ c'.field = c.field ∧ c'.depth = c.depth := by
  have hview := capture_step_leaf w h
  rw [hc] at hview
  cases hw : w.capture with
  | none =>
    rw [hw] at hview
    cases hview
  | some c' =>
    rw [hw] at hview
    have hsame : c.view = c'.view.write (plainText token) := Option.some.inj hview
    exact ⟨c', rfl, (congrArg OpenText.field hsame).symm, (congrArg OpenText.depth hsame).symm⟩

theorem CountsText.none (hn : CountsText tokens n) (h : tokens[n]? = none) :
    CountsText tokens (n + 1) := by
  intro c hc
  obtain ⟨outer, e, inner, helements, hsince, hlength⟩ := hn c (walkAfter_of_none h ▸ hc)
  refine ⟨outer, e, inner, ?_, hsince.succ hc rfl, hlength⟩
  rw [openElements_of_none h, helements]

theorem CountsText.leaf {token : Token} (hn : CountsText tokens n) (h : tokens[n]? = some token)
    (hleaf : token.isLeaf = true) : CountsText tokens (n + 1) := by
  intro c hc
  have hstep := hc
  rw [walkAfter_of_some h] at hstep
  obtain ⟨c', hc', hfield, hdepth⟩ := exists_capture_of_leaf hleaf hstep
  obtain ⟨outer, e, inner, helements, hsince, hlength⟩ := hn c' hc'
  rw [hfield] at hsince
  refine ⟨outer, e, inner, ?_, hsince.succ hc rfl, hdepth ▸ hlength⟩
  rw [openElements_of_leaf h hleaf, helements]

theorem CountsText.start {tag : Tag} (hn : CountsText tokens n)
    (h : tokens[n]? = some (.start tag)) : CountsText tokens (n + 1) := by
  intro c hc
  have hstep : captureAfterStart ((walkAfter tokens n).content.offerAttributes tag) tag
      (walkAfter tokens n).capture = some c := by
    rw [walkAfter_of_some h] at hc
    exact hc
  rw [openElements_of_start h]
  cases hcapture : (walkAfter tokens n).capture with
  | some c' =>
    -- The element is one more of those that are counted.
    rw [hcapture] at hstep
    obtain rfl := Option.some.inj hstep
    obtain ⟨outer, e, inner, helements, hsince, hlength⟩ := hn c' hcapture
    refine ⟨outer, e, inner ++ [⟨tag, n⟩], ?_, hsince.succ hc rfl, ?_⟩
    · rw [helements, List.append_assoc, List.cons_append]
    · rw [List.length_append, hlength]
      rfl
  | none =>
    -- The text begins here.
    rw [hcapture, captureAfterStart] at hstep
    split at hstep
    · next field hfield =>
      split at hstep
      · cases hstep
      · obtain rfl := Option.some.inj hstep
        exact ⟨openElements tokens n, ⟨tag, n⟩, [], rfl,
          capturedSince_start h hfield hcapture hc, rfl⟩
    · cases hstep

theorem CountsText.close {name : List Char} (hn : CountsText tokens n)
    (h : tokens[n]? = some (.close name)) : CountsText tokens (n + 1) := by
  intro c hc
  have hstep := hc
  rw [walkAfter_of_some h, Walk.step, capture_onClose] at hstep
  obtain ⟨c', hc', hleft⟩ := Option.bind_eq_some_iff.mp hstep
  obtain ⟨outer, e, inner, helements, hsince, hlength⟩ := hn c' hc'
  split at hleft
  · cases hleft
  · next hdepth =>
    obtain rfl := Option.some.inj hleft
    have hinner : inner ≠ [] := by
      rintro rfl
      exact hdepth hlength
    refine ⟨outer, e, inner.dropLast, ?_, hsince.succ hc rfl, ?_⟩
    · rw [openElements_of_close h, helements, List.dropLast_append_cons,
        List.dropLast_cons_of_ne_nil hinner]
    · have hpos := List.length_pos_iff.mpr hinner
      rw [List.length_dropLast]
      show c'.depth - 1 = _
      omega

theorem countsText (tokens : List Token) (n : Nat) : CountsText tokens n := by
  induction n using eventwise_induction tokens with
  | zero =>
    intro c hc
    cases hc
  | none n h ih => exact ih.none h
  | leaf n token h hleaf ih => exact ih.leaf h hleaf
  | start n tag h ih => exact ih.start h
  | close n name h ih => exact ih.close h

/-! ## Counters that are asked for too much

On natural numbers a counter that is taken from zero stays there, and a proof might be right for
that reason alone. The checked walk stops instead. That it is the same walk says that truncation
never happens, but for the depth in the body, which is lowered by closes outside the body as well.
-/

/-- The capture after a closing tag, if its counter has one to give. -/
def Walk.closeCapture? (w : Walk) : Option Walk :=
  match w.capture with
  | none => some w
  | some c => do
    let depth ← c.depth.ppred
    if depth = 0 then
      return { w with capture := none, content := w.content.offer c.field c.text.toList }
    else return { w with capture := some { c with depth } }

/-- A block after a closing tag, if the counters that it takes from have one to give. -/
def Block.onClose? (b : Block) (name : List Char) : Option (Option Block) :=
  if b.depth = 0 then some none
  else do
    let depth ← b.depth.ppred
    if b.skip > 0 then
      let skip ← b.skip.ppred
      return some { b with depth, skip }
    else return some { b with depth, markup := b.markup.write (closeMarkup name) }

/-- The walk with its block after a closing tag. -/
def Walk.closeBlock? (w : Walk) (name : List Char) : Option Walk :=
  match w.block with
  | none => some w
  | some b => do
    match ← b.onClose? name with
    | some b => return { w with block := some b }
    | none => return { w with block := none }.addFragment b.fragment

/-- The walk after an event, if every counter that it takes from has one to give. Only the depth in
the body may be zero already. -/
def Walk.step? (w : Walk) : Token → Option Walk
  | .close name => do
    let w ← w.closeCapture?
    let w ← w.closeBlock? name
    return { w with bodyDepth := w.bodyDepth - 1 }
  | token => some (w.step token)

theorem closeCapture?_eq (h : ∀ c, w.capture = some c → 0 < c.depth) :
    w.closeCapture? = some w.closeCapture := by
  rw [Walk.closeCapture?, Walk.closeCapture]
  cases hc : w.capture with
  | none => rfl
  | some c =>
    have hlast : c.depth.pred = 0 ↔ c.depth = 1 := by
      have hpos := h c hc
      rw [Nat.pred_eq_sub_one]
      omega
    simp only [Nat.ppred_eq_pred (h c hc), Option.bind_eq_bind, Option.bind_some, hlast]
    split <;> rfl

theorem onClose?_eq (b : Block) (name : List Char) : b.onClose? name = some (b.onClose name) := by
  rw [Block.onClose?, Block.onClose]
  split
  · rfl
  · next hdepth =>
    rw [Nat.ppred_eq_pred (Nat.pos_of_ne_zero hdepth)]
    split
    · next hskip =>
      rw [Nat.ppred_eq_pred hskip]
      rfl
    · rfl

theorem closeBlock?_eq (w : Walk) (name : List Char) :
    w.closeBlock? name = some (w.closeBlock name) := by
  rw [Walk.closeBlock?, Walk.closeBlock]
  cases w.block with
  | none => rfl
  | some b =>
    simp only [onClose?_eq, Option.bind_eq_bind, Option.bind_some]
    cases b.onClose name <;> rfl

theorem step?_eq (h : ∀ c, w.capture = some c → 0 < c.depth) (token : Token) :
    w.step? token = some (w.step token) := by
  cases token with
  | close name =>
    rw [Walk.step?, closeCapture?_eq h, Option.bind_eq_bind, Option.bind_some, closeBlock?_eq]
    rfl
  | _ => rfl

theorem foldlM_step? (tokens : List Token) (n : Nat) :
    (tokens.take n).foldlM Walk.step? .start = some (walkAfter tokens n) := by
  induction n with
  | zero => rfl
  | succ n ih =>
    cases htoken : tokens[n]? with
    | none => rw [take_of_none htoken, ih, walkAfter_of_none htoken]
    | some token =>
      have hpos : ∀ c, (walkAfter tokens n).capture = some c → 0 < c.depth := by
        intro c hc
        obtain ⟨outer, e, inner, -, -, hdepth⟩ := countsText tokens n c hc
        rw [hdepth]
        exact Nat.succ_pos inner.length
      rw [take_of_some htoken, List.foldlM_append, ih, Option.bind_eq_bind, Option.bind_some,
        List.foldlM_cons, step?_eq hpos, walkAfter_of_some htoken]
      rfl

/-- **The counters of a walk mirror the open elements.** After any number of the events of a
document, the depth in the body is the number of elements from the outermost body element on. A
block is open if there is one among the elements inside that body element. Its depth is the number
of elements inside the outermost such block, and its skip the number of those from the outermost
media reference on. A text is captured only while the element that it was begun with is open, and
its depth is the number of elements from that one on. So no counter is taken below zero, and the
depth in the body is left at zero only by closes outside the body. -/
theorem counters_walkAfter (document : List Char) (n : Nat) :
    let tokens := (events document).1
    let elements := openElements tokens n
    let w := walkAfter tokens n
    (∀ name, tokens[n]? = some (.close name) →
      ∃ outer e, elements = outer ++ [e] ∧ e.tag.name = name) ∧
    w.bodyDepth = (bodyElements elements).length ∧
    (w.bodyDepth = 0 ↔ ∀ e ∈ elements, e.tag.localName ≠ bodyName) ∧
    (w.block.isSome ↔ ∃ e ∈ (bodyElements elements).tail, e.tag.localName = blockName) ∧
    (∀ b, w.block = some b →
      b.depth = (blockElements elements).tail.length ∧ b.skip = (mediaElements elements).length ∧
        b.skip ≤ b.depth ∧ b.depth + 2 ≤ w.bodyDepth) ∧
    (∀ c, w.capture = some c → ∃ outer e inner, elements = outer ++ e :: inner ∧
      CapturedSince tokens n e c.field ∧ c.depth = inner.length + 1) ∧
    (tokens.take n).foldlM Walk.step? .start = some w := by
  intro tokens elements w
  have hc : Counts elements w := counts_walkAfter tokens n
  refine ⟨fun name ↦ exists_eq_concat_of_close document, hc.bodyDepth, ?_, hc.isSome_block_iff,
    fun b ↦ hc.of_block_eq_some, countsText tokens n, foldlM_step? tokens n⟩
  rw [hc.bodyDepth, List.length_eq_zero_iff, bodyElements, fromOutermost_eq_nil_iff]

end NewsWire.Article

import NewsWire.Article.Content
import NewsWire.Markup.Event
import NewsWire.Text.Blank

/-!
# Extracting content from a rendition document

The events of a document are walked once, with counters in place of a tree. Elements are matched by
the local part of their names.

* `date.issue` and `ed-msg` give the first value of their `norm` and `info` attribute that can be
  resolved.
* An element whose `id` is `headline`, a `byline` and an `abstract` give the trimmed text of their
  subtree. One text is captured at a time, so a candidate inside another one is part of its text.
  A field that is set, or whose candidate turns out blank, is left as it is.
* Inside `body.content` the outermost `block` elements give the body: their inner markup with
  subheadings promoted and media references removed, every line trimmed and the lines run together.
  A block counts once it is closed.

Whatever was found before the reading of the document came to its end is kept.

The walk does three things at once that have nothing to do with each other: it takes attributes, it
captures texts, and it copies blocks. Each has a part of the state of its own, and no part is read
by another, but for the content, which says what has been found already. So each can be studied
without the others, and a document that breaks off leaves every part where it was.
-/

/-! ## Growing texts

The body of an article is written piece by piece at its end. The pieces are kept with the last one
first, so writing takes the same time however long the text has become. `Growing.toList` is the text
that has been written, and all that is to be known about a growing text is what each operation does
to it. -/

namespace NewsWire.Text

structure Growing where
  pieces : List (List Char)
  deriving DecidableEq, Repr

namespace Growing

/-- Nothing written. -/
def empty : Growing := ⟨[]⟩

/-- One more piece at the end. -/
def write (g : Growing) (piece : List Char) : Growing := ⟨piece :: g.pieces⟩

/-- The text that has been written. -/
def toList (g : Growing) : List Char := g.pieces.reverse.flatten

@[simp] theorem toList_empty : empty.toList = [] := rfl

@[simp] theorem toList_write (g : Growing) (piece : List Char) :
    (g.write piece).toList = g.toList ++ piece := by
  simp [toList, write]

end Growing

end NewsWire.Text

namespace NewsWire.Article

open NewsWire.Markup NewsWire.Text

/-! ## Names

The names are those of the News Industry Text Format. They stand for local parts, so a document may
put its elements in a namespace. -/

def headlineId : List Char := "headline".toList

def issueDateName : List Char := "date.issue".toList

def editorMessageName : List Char := "ed-msg".toList

def bylineName : List Char := "byline".toList

def summaryName : List Char := "abstract".toList

def bodyName : List Char := "body.content".toList

def blockName : List Char := "block".toList

/-- Subheadings, as they come. -/
def subheadingName : List Char := "hl2".toList

/-- Subheadings, as they are written. -/
def promotedName : List Char := "h1".toList

def mediaName : List Char := "media-reference".toList

/-! ## The markup of a block

Two counters say where the walk is inside a block: `depth` counts the elements that are open in it,
so that its own closing tag is recognised, and `skip` those from the outermost media reference
on, so that nothing is written until that one is closed. Elements of either name that are nested in
themselves are thereby handled without a tree. -/

/-- The name under which an element is written. -/
def outputName (name : List Char) : List Char :=
  if localName name = subheadingName then promotedName else name

def startMarkup (t : Tag) : List Char :=
  '<' :: (outputName t.name ++ t.attributes ++ ['>'])

/-- The tag of an empty element as it is written. -/
def emptyMarkup (t : Tag) : List Char :=
  '<' :: (outputName t.name ++ t.attributes ++ ['/', '>'])

def closeMarkup (name : List Char) : List Char :=
  '<' :: '/' :: (outputName name ++ ['>'])

theorem outputName_of_subheading {name : List Char} (h : localName name = "hl2".toList) :
    outputName name = "h1".toList := if_pos h

theorem outputName_of_ne {name : List Char} (h : localName name ≠ "hl2".toList) :
    outputName name = name := if_neg h

theorem startMarkup_of_subheading {t : Tag} (h : t.localName = "hl2".toList) :
    startMarkup t = "<h1".toList ++ (t.attributes ++ ">".toList) := by
  rw [startMarkup, outputName_of_subheading h, List.append_assoc]
  rfl

theorem emptyMarkup_of_subheading {t : Tag} (h : t.localName = "hl2".toList) :
    emptyMarkup t = "<h1".toList ++ (t.attributes ++ "/>".toList) := by
  rw [emptyMarkup, outputName_of_subheading h, List.append_assoc]
  rfl

theorem closeMarkup_of_subheading {name : List Char} (h : localName name = "hl2".toList) :
    closeMarkup name = "</h1>".toList := by
  rw [closeMarkup, outputName_of_subheading h]
  rfl

def literalMarkup (content : List Char) : List Char :=
  "<![CDATA[".toList ++ content ++ "]]>".toList

def commentMarkup (content : List Char) : List Char :=
  "<!--".toList ++ content ++ "-->".toList

/-- The block being read: how many of its elements are open, how many of them from the outermost
media reference on, and the markup so far. -/
structure Block where
  depth : Nat
  skip : Nat
  markup : Growing
  deriving DecidableEq, Repr

def Block.start : Block := ⟨0, 0, .empty⟩

/-- The block with more markup, unless a media reference is open. -/
def Block.write (b : Block) (markup : List Char) : Block :=
  if b.skip = 0 then { b with markup := b.markup.write markup } else b

def Block.onStart (b : Block) (t : Tag) : Block :=
  if b.skip > 0 then { b with depth := b.depth + 1, skip := b.skip + 1 }
  else if t.localName = mediaName then { b with depth := b.depth + 1, skip := 1 }
  else { b with depth := b.depth + 1, markup := b.markup.write (startMarkup t) }

def Block.onEmpty (b : Block) (t : Tag) : Block :=
  if t.localName = mediaName then b else b.write (emptyMarkup t)

/-- An element ends: nothing is left when it is the block itself. -/
def Block.onClose (b : Block) (name : List Char) : Option Block :=
  if b.depth = 0 then none
  else if b.skip > 0 then some { b with depth := b.depth - 1, skip := b.skip - 1 }
  else some { b with depth := b.depth - 1, markup := b.markup.write (closeMarkup name) }

/-- What a finished block contributes to the body. -/
def Block.fragment (b : Block) : List Char := joinLines b.markup.toList

/-! ## Captured texts

A captured text is closed by the tag that brings its depth to nothing, whatever the name of that
tag is: the nesting of a document has been checked before it is walked. -/

inductive TextField where
  | byline
  | headline
  | summary
  deriving DecidableEq, Repr

def Content.text? (c : Content) : TextField → Option String
  | .byline => c.byline
  | .headline => c.headline
  | .summary => c.summary

def Content.setText (c : Content) (field : TextField) (text : String) : Content :=
  match field with
  | .byline => { c with byline := some text }
  | .headline => { c with headline := some text }
  | .summary => { c with summary := some text }

/-- The content with the text of a closed candidate, which counts only when it is not blank. -/
def Content.offer (c : Content) (field : TextField) (text : List Char) : Content :=
  match trim text with
  | [] => c
  | t => c.setText field (String.ofList t)

/-- The field that an element is a candidate for. -/
def textField? (t : Tag) : Option TextField :=
  if t.attribute? "id" = some headlineId then some .headline
  else if t.localName = bylineName then some .byline
  else if t.localName = summaryName then some .summary
  else none

/-- The text being captured: its field, how many of its elements are open, and the text so far. -/
structure Capture where
  field : TextField
  depth : Nat
  text : Growing
  deriving DecidableEq, Repr

/-- The content with the attributes that a tag gives. -/
def Content.offerAttributes (c : Content) (t : Tag) : Content :=
  if t.localName = issueDateName then
    { c with issueDate := c.issueDate.or ((t.attribute? "norm").map String.ofList) }
  else if t.localName = editorMessageName then
    { c with editorMessage := c.editorMessage.or ((t.attribute? "info").map String.ofList) }
  else c

/-! ## The walk

Each event is given to all parts. A closing tag meets the counters as they stood inside its element:
`closeCapture` and `closeBlock` decide by them whether it ends a text or a block, and the depth of
the body is lowered last. -/

/-- Where a walk stands: the content so far, the text being captured, the block being read, how many
elements are open from the outermost body element on, and the fragments of the finished blocks, if
there are any. -/
structure Walk where
  content : Content
  capture : Option Capture
  block : Option Block
  bodyDepth : Nat
  fragments : Option Growing
  deriving DecidableEq, Repr

/-- The walk at the beginning of a document. -/
def Walk.start : Walk := ⟨.empty, none, none, 0, none⟩

/-- The text being captured after a start tag, given the content so far. -/
def captureAfterStart (content : Content) (t : Tag) : Option Capture → Option Capture
  | some c => some { c with depth := c.depth + 1 }
  | none =>
    match textField? t with
    | some field => if (content.text? field).isSome then none else some ⟨field, 1, .empty⟩
    | none => none

/-- The block being read after a start tag. -/
def blockAfterStart (bodyDepth : Nat) (t : Tag) : Option Block → Option Block
  | some b => some (b.onStart t)
  | none => if bodyDepth > 0 ∧ t.localName = blockName then some .start else none

/-- The depth in the body after a start tag. -/
def bodyDepthAfterStart (bodyDepth : Nat) (t : Tag) : Nat :=
  if bodyDepth > 0 then bodyDepth + 1
  else if t.localName = bodyName then 1
  else 0

/-- The walk with one more finished block. -/
def Walk.addFragment (w : Walk) (fragment : List Char) : Walk :=
  { w with fragments := some ((w.fragments.getD .empty).write fragment) }

def Walk.onStart (w : Walk) (t : Tag) : Walk :=
  let content := w.content.offerAttributes t
  { w with
    content
    capture := captureAfterStart content t w.capture
    block := blockAfterStart w.bodyDepth t w.block
    bodyDepth := bodyDepthAfterStart w.bodyDepth t }

def Walk.onEmpty (w : Walk) (t : Tag) : Walk :=
  let w := { w with content := w.content.offerAttributes t }
  match w.block with
  | some b => { w with block := some (b.onEmpty t) }
  | none =>
    if w.bodyDepth > 0 ∧ t.localName = blockName then w.addFragment [] else w

/-- The capture after a closing tag, and the content with its text if it is closed. -/
def Walk.closeCapture (w : Walk) : Walk :=
  match w.capture with
  | none => w
  | some c =>
    if c.depth = 1 then { w with capture := none, content := w.content.offer c.field c.text.toList }
    else { w with capture := some { c with depth := c.depth - 1 } }

/-- The block after a closing tag, and its fragment if it is closed. -/
def Walk.closeBlock (w : Walk) (name : List Char) : Walk :=
  match w.block with
  | none => w
  | some b =>
    match b.onClose name with
    | some b => { w with block := some b }
    | none => { w with block := none }.addFragment b.fragment

def Walk.onClose (w : Walk) (name : List Char) : Walk :=
  let w := w.closeCapture.closeBlock name
  { w with bodyDepth := w.bodyDepth - 1 }

/-- Text: one form for a captured text, another for the markup of a block. -/
def Walk.onText (w : Walk) (text markup : List Char) : Walk :=
  { w with
    capture := w.capture.map fun c ↦ { c with text := c.text.write text }
    block := w.block.map fun b ↦ b.write markup }

/-- The walk after an event. A text whose references cannot be resolved is taken as it stands. -/
def Walk.step (w : Walk) : Token → Walk
  | .start t => w.onStart t
  | .empty t => w.onEmpty t
  | .close name => w.onClose name
  | .text raw => w.onText ((unescape raw).getD raw) raw
  | .literal content => w.onText content (literalMarkup content)
  | .comment content => { w with block := w.block.map fun b ↦ b.write (commentMarkup content) }
  | .instruction _ => w

/-- The content at the end of a walk. There is a body when some block was finished. -/
def Walk.finish (w : Walk) : Content :=
  match w.fragments with
  | none => w.content
  | some fragments => { w.content with body := some (String.ofList fragments.toList) }

def extractFrom (document : List Char) : Content :=
  ((events document).1.foldl Walk.step .start).finish

def extract (document : String) : Content := extractFrom document.toList

end NewsWire.Article

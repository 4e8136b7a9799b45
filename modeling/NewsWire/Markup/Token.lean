import NewsWire.Markup.Tag

/-!
# Tokens of a marked-up text

A text is cut into tokens from left to right: runs of text up to the next opening angle bracket, and
markup. `nextToken` returns one token and the text after it, which is strictly shorter.

* A tag ends at the first closing angle bracket outside quotation marks, also a closing tag.
* A comment ends at the first `-->`, a literal section at the first `]]>`, an instruction at the
  first `?>`.
* A document type declaration ends at the first closing angle bracket that leaves the brackets
  inside it balanced.

Markup that has no end in the text is a fault of its own, `unfinished`: only such a fault can go
away when more text follows. All other faults are there whatever follows.
-/

namespace NewsWire.Markup

/-! ## Tokens -/

/-- A token of a marked-up text. -/
inductive Token where
  /-- A run of text, references unresolved. -/
  | text (raw : List Char)
  | start (tag : Tag)
  | empty (tag : Tag)
  /-- A closing tag, by its name. -/
  | close (name : List Char)
  | comment (content : List Char)
  /-- A section of literal text. -/
  | literal (content : List Char)
  /-- Declarations and processing instructions. -/
  | instruction (content : List Char)
  deriving DecidableEq, Repr

/-- Why a text cannot be read further. -/
inductive Fault where
  /-- The text ends inside markup. -/
  | unfinished
  /-- Neither a comment, a literal section nor a document type declaration. -/
  | badDeclaration
  | badInstruction
  | unnamedDocumentType
  /-- A closing tag names another element than the one that is open. -/
  | mismatchedClose (name : List Char)
  /-- A closing tag with no element open. -/
  | unmatchedClose (name : List Char)
  deriving DecidableEq, Repr

/-- What stands at the beginning of a text. -/
inductive Step where
  | finished
  | next (token : Token) (rest : List Char)
  | stuck (fault : Fault)
  deriving DecidableEq, Repr

/-! ## Where markup ends

The characters that have been passed are held with the last one first, so whether markup ends at a
bracket is seen from what stands before it: each kind of markup is a predicate on a list, and one
function cuts all of them off. -/

/-- The text of a tag, and the text after its closing angle bracket. `quote` is the quotation mark
that is open. -/
def splitTag (quote : Option Char) : List Char → Option (List Char × List Char)
  | [] => none
  | c :: cs =>
    match quote with
    | some q =>
      (splitTag (if c = q then none else some q) cs).map fun (t, rest) ↦ (c :: t, rest)
    | none =>
      if c = '>' then some ([], cs)
      else
        (splitTag (if c = '\x22' || c = '\x27' then some c else none) cs).map
          fun (t, rest) ↦ (c :: t, rest)

/-- The text up to the first closing angle bracket at which `isEnd` holds of what has been passed,
last character first, and the text after it. -/
def splitMarkup (isEnd : List Char → Bool) (passed : List Char) :
    List Char → Option (List Char × List Char)
  | [] => none
  | c :: cs =>
    if c = '>' && isEnd passed then some (passed.reverse, cs)
    else splitMarkup isEnd (c :: passed) cs

/-- A comment ends here: `!`, two dashes, the content and two dashes have been passed. -/
def isCommentEnd (passed : List Char) : Bool :=
  passed.take 2 == ['-', '-'] && passed.length > 4

def isLiteralEnd (passed : List Char) : Bool :=
  passed.take 2 == [']', ']']

/-- A document type declaration ends here: as many angle brackets have been closed as opened. -/
def isDocumentTypeEnd (passed : List Char) : Bool :=
  passed.count '<' == passed.count '>'

def isInstructionEnd (passed : List Char) : Bool :=
  passed.head? == some '?'

theorem length_of_splitTag {quote : Option Char} {cs t rest : List Char}
    (h : splitTag quote cs = some (t, rest)) : rest.length < cs.length := by
  induction cs generalizing quote t with
  | nil => simp [splitTag] at h
  | cons c cs ih =>
    rw [splitTag.eq_def] at h
    simp only at h
    split at h
    · obtain ⟨⟨t', rest'⟩, hs, he⟩ := Option.map_eq_some_iff.1 h
      simp only [Prod.mk.injEq] at he
      have := ih (he.2 ▸ hs)
      simp only [List.length_cons]
      omega
    · split at h
      · simp only [Option.some.injEq, Prod.mk.injEq] at h
        simp [← h.2]
      · obtain ⟨⟨t', rest'⟩, hs, he⟩ := Option.map_eq_some_iff.1 h
        simp only [Prod.mk.injEq] at he
        have := ih (he.2 ▸ hs)
        simp only [List.length_cons]
        omega

theorem length_of_splitMarkup {isEnd : List Char → Bool} {passed cs t rest : List Char}
    (h : splitMarkup isEnd passed cs = some (t, rest)) : rest.length < cs.length := by
  induction cs generalizing passed with
  | nil => simp [splitMarkup] at h
  | cons c cs ih =>
    rw [splitMarkup] at h
    split at h
    · simp only [Option.some.injEq, Prod.mk.injEq] at h
      simp [← h.2]
    · have := ih h
      simp only [List.length_cons]
      omega

/-! ## Reading markup

Cutting off and reading are apart: `splitMarkup` only finds the end, and what has been cut off is
read without a view of what follows. That is what makes a token independent of the text after it. -/

/-- The text without its first `n` and its last `m` characters. -/
def inner (n m : Nat) (cs : List Char) : List Char :=
  (cs.take (cs.length - m)).drop n

def readComment (t : List Char) : Except Fault Token :=
  if t.take 3 == ['!', '-', '-'] then .ok (.comment (inner 3 2 t)) else .error .badDeclaration

def readLiteral (t : List Char) : Except Fault Token :=
  if t.take 8 == ['!', '[', 'C', 'D', 'A', 'T', 'A', '['] then .ok (.literal (inner 8 2 t))
  else .error .badDeclaration

/-- The text of a document type declaration, in letters of either case. It must name something. -/
def readDocumentType (t : List Char) : Except Fault Token :=
  if (t.take 8).map Char.toUpper == ['!', 'D', 'O', 'C', 'T', 'Y', 'P', 'E'] then
    match (t.drop 8).dropWhile isSpace with
    | [] => .error .unnamedDocumentType
    | name => .ok (.instruction name)
  else .error .badDeclaration

/-- The text of an instruction, both question marks included. -/
def readInstruction (t : List Char) : Except Fault Token :=
  if t.length > 1 then .ok (.instruction (inner 1 1 t)) else .error .badInstruction

/-- The text of a closing tag after its slash: blanks after the name do not belong to it. -/
def readClose (t : List Char) : Token :=
  match t.reverse.dropWhile isSpace with
  | [] => .close t
  | name => .close name.reverse

/-- The text of any other tag; a slash at its end makes it a tag of an empty element. -/
def readTag (t : List Char) : Token :=
  if t.getLast? = some '/' then .empty (.ofText t.dropLast) else .start (.ofText t)

/-- A token read from markup that has been split off. -/
def Step.ofSplit (read : List Char → Except Fault Token) :
    Option (List Char × List Char) → Step
  | none => .stuck .unfinished
  | some (t, rest) =>
    match read t with
    | .ok token => .next token rest
    | .error fault => .stuck fault

/-- The token whose opening angle bracket has been passed. -/
def nextMarkup (cs : List Char) : Step :=
  match cs with
  | [] => .stuck .unfinished
  | '!' :: rest =>
    match rest with
    | [] => .stuck .unfinished
    | '-' :: _ => .ofSplit readComment (splitMarkup isCommentEnd [] cs)
    | '[' :: _ => .ofSplit readLiteral (splitMarkup isLiteralEnd [] cs)
    | 'D' :: _ => .ofSplit readDocumentType (splitMarkup isDocumentTypeEnd [] cs)
    | 'd' :: _ => .ofSplit readDocumentType (splitMarkup isDocumentTypeEnd [] cs)
    | _ => .stuck .badDeclaration
  | '?' :: _ => .ofSplit readInstruction (splitMarkup isInstructionEnd [] cs)
  | '/' :: rest => .ofSplit (fun t ↦ .ok (readClose t)) (splitTag none rest)
  | _ => .ofSplit (fun t ↦ .ok (readTag t)) (splitTag none cs)

/-- The token at the beginning of a text. -/
def nextToken (cs : List Char) : Step :=
  match cs with
  | [] => .finished
  | c :: rest =>
    if c = '<' then nextMarkup rest
    else .next (.text (cs.takeWhile (· != '<'))) (cs.dropWhile (· != '<'))

theorem Step.length_of_ofSplit {read : List Char → Except Fault Token}
    {split : Option (List Char × List Char)} {token : Token} {rest : List Char} {n : Nat}
    (hlt : ∀ t r, split = some (t, r) → r.length < n)
    (h : Step.ofSplit read split = .next token rest) : rest.length < n := by
  cases split with
  | none => simp [Step.ofSplit] at h
  | some s =>
    obtain ⟨t, r⟩ := s
    simp only [Step.ofSplit] at h
    split at h
    · simp only [Step.next.injEq] at h
      exact h.2 ▸ hlt t r rfl
    · simp at h

theorem length_of_nextMarkup {cs rest : List Char} {token : Token}
    (h : nextMarkup cs = .next token rest) : rest.length < cs.length := by
  rw [nextMarkup.eq_def] at h
  split at h
  · simp at h
  · split at h
    · simp at h
    · exact Step.length_of_ofSplit (fun _ _ h ↦ length_of_splitMarkup h) h
    · exact Step.length_of_ofSplit (fun _ _ h ↦ length_of_splitMarkup h) h
    · exact Step.length_of_ofSplit (fun _ _ h ↦ length_of_splitMarkup h) h
    · exact Step.length_of_ofSplit (fun _ _ h ↦ length_of_splitMarkup h) h
    · simp at h
  · exact Step.length_of_ofSplit (fun _ _ h ↦ length_of_splitMarkup h) h
  · exact Step.length_of_ofSplit
      (fun _ _ h ↦ Nat.lt_succ_of_lt (length_of_splitTag h)) h
  · exact Step.length_of_ofSplit (fun _ _ h ↦ length_of_splitTag h) h

theorem length_of_nextToken {cs rest : List Char} {token : Token}
    (h : nextToken cs = .next token rest) : rest.length < cs.length := by
  rw [nextToken.eq_def] at h
  split at h
  · simp at h
  · next c r =>
    split at h
    · have := length_of_nextMarkup h
      simp only [List.length_cons]
      omega
    · next hc =>
      simp only [Step.next.injEq] at h
      have hc' : (c != '<') = true := by simpa using hc
      rw [List.dropWhile_cons, if_pos hc'] at h
      have := length_dropWhile_le (· != '<') r
      rw [← h.2, List.length_cons]
      omega

end NewsWire.Markup

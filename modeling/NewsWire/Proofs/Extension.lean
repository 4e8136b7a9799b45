import Mathlib.Data.List.TakeWhile
import NewsWire.Feed.Source
import NewsWire.Proofs.Except
import NewsWire.Url.Parse

/-!
# Text appended to a URL

A cursor is the text of a URL with a suffix appended, and it is read as a URL again only when it is
used. What becomes of the suffix depends on where the URL ends.

Once a slash, a question mark or a number sign has come after the host and the port, these cannot
change any more. The same holds of a URL of which it is seen that it has no host. The host of such a
URL is settled (`hostSettled`), and no text that is appended makes it unreadable
(`exists_parse_append`). Without it the suffix becomes part of the host or the port.

The suffix is any text here, since it is one of the settings of a source. So the condition has to
cover suffixes that begin with slashes: a scheme with nothing after it, or with one slash, has no
host yet, but two slashes may come about when text is appended, and what follows would be one.
-/

namespace NewsWire.Url

open NewsWire.Text

/-! ## Ends of a text

Blanks at the end of a URL do not count, unless something follows them. So a text that is appended
does not simply come after what was read before: `trailing` comes between. -/

/-- A blank or a control character, which does not count at either end of a URL. -/
def isOuter (c : Char) : Bool := c.toNat ≤ 0x20

/-- What trimming takes from the end of a text. -/
def trailing (cs : List Char) : List Char :=
  ((cs.dropWhile isOuter).reverse.takeWhile isOuter).reverse

theorem trimEnds_eq (cs : List Char) :
    trimEnds cs = ((cs.dropWhile isOuter).reverse.dropWhile isOuter).reverse := rfl

theorem trimEnds_append_trailing (cs : List Char) :
    trimEnds cs ++ trailing cs = cs.dropWhile isOuter := by
  rw [trimEnds_eq, trailing, ← List.reverse_append, List.takeWhile_append_dropWhile,
    List.reverse_reverse]

theorem trimEnds_append {cs : List Char} (h : trimEnds cs ≠ []) (more : List Char) :
    trimEnds (cs ++ more) =
      if (more.reverse.dropWhile isOuter).isEmpty then trimEnds cs
      else trimEnds cs ++ (trailing cs ++ (more.reverse.dropWhile isOuter).reverse) := by
  have hfront : (cs.dropWhile isOuter).isEmpty = false := by
    rw [Bool.eq_false_iff]
    intro hempty
    rw [trimEnds_eq, List.isEmpty_iff.mp hempty] at h
    exact h rfl
  rw [trimEnds_eq (cs ++ more), List.dropWhile_append, hfront, if_neg Bool.false_ne_true,
    List.reverse_append, List.dropWhile_append]
  split
  · rfl
  · rw [List.reverse_append, List.reverse_reverse, ← trimEnds_append_trailing, List.append_assoc]

theorem exists_trimEnds_append {cs : List Char} (h : trimEnds cs ≠ []) (more : List Char) :
    ∃ z, trimEnds (cs ++ more) = trimEnds cs ++ z := by
  rw [trimEnds_append h]
  split
  · exact ⟨[], (List.append_nil _).symm⟩
  · exact ⟨_, rfl⟩

theorem trimEnds_append_of_getLast {cs more : List Char} (h : trimEnds cs ≠ [])
    (hmore : ∃ c ∈ more.getLast?, isOuter c = false) :
    trimEnds (cs ++ more) = trimEnds cs ++ (trailing cs ++ more) := by
  obtain ⟨c, hlast, hc⟩ := hmore
  obtain ⟨init, rfl⟩ := List.getLast?_eq_some_iff.mp hlast
  have hdrop : (init ++ [c]).reverse.dropWhile isOuter = (init ++ [c]).reverse := by
    rw [List.reverse_concat, List.dropWhile_cons_of_neg (by simp [hc])]
  rw [trimEnds_append h, hdrop, List.reverse_reverse, if_neg (by simp)]

/-! ## Parts of a text -/

/-- What a text begins with does not change by what is appended once something else has come. -/
theorem takeWhile_dropWhile_append (p : Char → Bool) {cs : List Char} (h : ∃ c ∈ cs, p c = false)
    (more : List Char) :
    (cs ++ more).takeWhile p = cs.takeWhile p ∧
      (cs ++ more).dropWhile p = cs.dropWhile p ++ more := by
  obtain ⟨c, hmem, hc⟩ := h
  induction cs with
  | nil => cases hmem
  | cons d cs ih =>
    by_cases hd : p d = true
    · have hmem' : c ∈ cs := by
        obtain rfl | hmem := List.mem_cons.mp hmem
        · rw [hc] at hd
          cases hd
        · exact hmem
      rw [List.cons_append, List.takeWhile_cons_of_pos hd, List.takeWhile_cons_of_pos hd,
        List.dropWhile_cons_of_pos hd, List.dropWhile_cons_of_pos hd, (ih hmem').1, (ih hmem').2]
      exact ⟨rfl, rfl⟩
    · rw [List.cons_append, List.takeWhile_cons_of_neg hd, List.takeWhile_cons_of_neg hd,
        List.dropWhile_cons_of_neg hd, List.dropWhile_cons_of_neg hd]
      exact ⟨rfl, rfl⟩

theorem splitBefore_append_of_any {p : Char → Bool} {cs : List Char} (h : cs.any p = true)
    (more : List Char) :
    splitBefore p (cs ++ more) = ((splitBefore p cs).1, (splitBefore p cs).2 ++ more) := by
  obtain ⟨c, hmem, hc⟩ := List.any_eq_true.mp h
  obtain ⟨htake, hdrop⟩ := takeWhile_dropWhile_append (fun c ↦ !p c) ⟨c, hmem, by simp [hc]⟩ more
  rw [splitBefore, splitBefore, htake, hdrop]

theorem withoutBreaks_append (cs ds : List Char) :
    withoutBreaks (cs ++ ds) = withoutBreaks cs ++ withoutBreaks ds := List.filter_append cs ds

/-! ## The scheme -/

theorem dropWhile_of_splitScheme {cs scheme rest : List Char}
    (h : splitScheme cs = some (scheme, rest)) : cs.dropWhile isSchemeChar = ':' :: rest := by
  cases cs with
  | nil => cases h
  | cons c cs =>
    rw [splitScheme] at h
    split at h
    · cases h
    · split at h
      · next rest' hdrop =>
        obtain ⟨-, rfl⟩ := Prod.mk.inj (Option.some.inj h)
        exact hdrop
      · cases h

theorem colon_mem_of_splitScheme {cs scheme rest : List Char}
    (h : splitScheme cs = some (scheme, rest)) : ':' ∈ cs :=
  (List.dropWhile_suffix _).subset (dropWhile_of_splitScheme h ▸ List.mem_cons_self)

theorem splitScheme_append {cs scheme rest : List Char} (h : splitScheme cs = some (scheme, rest))
    (more : List Char) : splitScheme (cs ++ more) = some (scheme, rest ++ more) := by
  have hdrop := dropWhile_of_splitScheme h
  obtain ⟨htake, hrest⟩ :=
    takeWhile_dropWhile_append isSchemeChar ⟨':', colon_mem_of_splitScheme h, rfl⟩ more
  cases cs with
  | nil => cases h
  | cons c cs =>
    rw [splitScheme] at h
    rw [List.cons_append, splitScheme]
    split at h
    · cases h
    · next hc =>
      rw [if_neg hc, ← List.cons_append, hrest, htake, hdrop]
      rw [hdrop] at h
      obtain ⟨hscheme, -⟩ := Prod.mk.inj (Option.some.inj h)
      rw [← hscheme]
      rfl

theorem scheme_parseAfterSlashes {kind : Kind} {scheme cs : List Char} {u : Url}
    (h : parseAfterSlashes kind scheme cs = .ok u) : u.scheme = scheme := by
  rw [parseAfterSlashes] at h
  obtain ⟨authority, -, h⟩ := bind_eq_ok_iff.mp h
  rw [← Except.ok.inj h]
  rfl

theorem scheme_parseFile {scheme cs : List Char} {u : Url} (h : parseFile scheme cs = .ok u) :
    u.scheme = scheme := by
  have hfinish : ∀ {host body}, (.ok (finishFile scheme host body) : Except Error Url) = .ok u →
      u.scheme = scheme := by
    intro host body hu
    rw [← Except.ok.inj hu]
    rfl
  rw [parseFile] at h
  simp only at h
  split at h
  · exact hfinish h
  · split at h
    · exact hfinish h
    · split at h
      · exact hfinish h
      · -- Whether the host is read or empty, one of two paths is finished.
        split at h <;> obtain ⟨host, -, h⟩ := bind_eq_ok_iff.mp h <;> split at h <;>
          exact hfinish h

theorem scheme_of_parse {text : List Char} {u : Url} (h : parse text = .ok u) :
    ∃ rest, splitScheme (withoutBreaks (trimEnds text)) = some (u.scheme, rest) := by
  rw [parse] at h
  simp only at h
  split at h
  · cases h
  · next scheme rest hscheme =>
    refine ⟨rest, ?_⟩
    suffices hu : u.scheme = scheme by rw [hscheme, hu]
    split at h
    · exact scheme_parseAfterSlashes h
    · exact scheme_parseFile h
    · split at h
      · exact scheme_parseAfterSlashes h
      · rw [← Except.ok.inj h]
        rfl
      · rw [← Except.ok.inj h]
        rfl

theorem trimEnds_ne_nil {text : List Char} {u : Url} (h : parse text = .ok u) :
    trimEnds text ≠ [] := by
  obtain ⟨rest, hscheme⟩ := scheme_of_parse h
  intro hnil
  rw [hnil] at hscheme
  cases hscheme

theorem splitScheme_trimEnds_append {text scheme rest more z : List Char}
    (hscheme : splitScheme (withoutBreaks (trimEnds text)) = some (scheme, rest))
    (hz : trimEnds (text ++ more) = trimEnds text ++ z) :
    splitScheme (withoutBreaks (trimEnds (text ++ more))) =
      some (scheme, rest ++ withoutBreaks z) := by
  rw [hz, withoutBreaks_append]
  exact splitScheme_append hscheme _

/-! ## The host

Which of two URLs has a host is decided by the kind of its scheme. A special scheme always has one,
after any number of slashes. Another scheme has one after two slashes, and so its text must go on
with something else than slashes for it to be settled that there is none. -/

def otherHostSettled : List Char → Bool
  | '/' :: '/' :: rest => rest.any (endsAuthority false)
  | ['/'] => false
  | rest => !rest.isEmpty

/-- The same of the URL of a file, where line breaks and tabs may stand between the slashes. -/
def fileHostSettled (cs : List Char) : Bool :=
  match afterSlash? cs with
  | none => cs.any fun c ↦ !isBreak c
  | some rest =>
    match afterSlash? rest with
    | none => rest.any fun c ↦ !isBreak c
    | some rest => rest.any (endsAuthority true)

def fileText (text : List Char) : List Char := ((trimEnds text).dropWhile (· != ':')).drop 1

/-- Text that is appended to the URL does not touch its host. -/
def hostSettled (text : List Char) : Bool :=
  match splitScheme (withoutBreaks (trimEnds text)) with
  | none => false
  | some (scheme, rest) =>
    match kindOf scheme with
    | .special _ => (rest.dropWhile (isSlash true)).any (endsAuthority true)
    | .file => fileHostSettled (fileText text)
    | .other => otherHostSettled rest

section Kinds

variable {text scheme rest : List Char} {port : Nat}

theorem parse_of_special
    (hscheme : splitScheme (withoutBreaks (trimEnds text)) = some (scheme, rest))
    (hkind : kindOf scheme = .special port) :
    parse text = parseAfterSlashes (.special port) scheme (rest.dropWhile (isSlash true)) := by
  rw [parse]
  simp only [hscheme, hkind]

theorem parse_of_file
    (hscheme : splitScheme (withoutBreaks (trimEnds text)) = some (scheme, rest))
    (hkind : kindOf scheme = .file) : parse text = parseFile scheme (fileText text) := by
  rw [parse, fileText]
  simp only [hscheme, hkind]

theorem parse_of_other {tail : List Char}
    (hscheme : splitScheme (withoutBreaks (trimEnds text)) = some (scheme, '/' :: '/' :: tail))
    (hkind : kindOf scheme = .other) : parse text = parseAfterSlashes .other scheme tail := by
  rw [parse]
  simp only [hscheme, hkind]

/-- A URL without a host is readable, whatever its path is. -/
theorem exists_parse_of_other
    (hscheme : splitScheme (withoutBreaks (trimEnds text)) = some (scheme, rest))
    (hkind : kindOf scheme = .other) (hrest : ∀ tail, rest ≠ '/' :: '/' :: tail) :
    ∃ u, parse text = .ok u := by
  rw [parse]
  simp only [hscheme, hkind]
  split
  · next tail => exact absurd rfl (hrest tail)
  · exact ⟨_, rfl⟩
  · exact ⟨_, rfl⟩

end Kinds

theorem parseAfterSlashes_append (kind : Kind) {scheme cs : List Char} {u : Url}
    (hends : cs.any (endsAuthority kind.isSpecial) = true)
    (h : parseAfterSlashes kind scheme cs = .ok u) :
    ∃ authority tail, u = finish kind scheme (some authority) tail ∧
      ∀ more, parseAfterSlashes kind scheme (cs ++ more) =
        .ok (finish kind scheme (some authority) (tail ++ more)) := by
  -- Something follows the host already, so it does not matter to it what is appended.
  have hrest : ∀ more,
      ((splitBefore (endsAuthority kind.isSpecial) cs).2 ++ more).isEmpty = false := by
    intro more
    obtain ⟨c, hmem, hc⟩ := List.any_eq_true.mp hends
    rw [List.isEmpty_eq_false_iff, splitBefore]
    refine List.append_ne_nil_of_left_ne_nil (fun hnil ↦ ?_) more
    have := List.dropWhile_eq_nil_iff.mp hnil c hmem
    rw [hc] at this
    cases this
  have heq : ∀ more, parseAfterSlashes kind scheme (cs ++ more) =
      (parseAuthority kind false
        (splitAtPort (splitBefore (endsAuthority kind.isSpecial) cs).1).1).map fun authority ↦
          finish kind scheme (some authority)
            ((splitAtPort (splitBefore (endsAuthority kind.isSpecial) cs).1).2 ++
              (splitBefore (endsAuthority kind.isSpecial) cs).2 ++ more) := by
    intro more
    rw [parseAfterSlashes, splitBefore_append_of_any hends]
    simp only [hrest, Bool.and_false, List.append_assoc]
    rfl
  rw [← List.append_nil cs, heq] at h
  obtain ⟨authority, hauthority, hu⟩ : ∃ a, _ ∧ _ := by
    cases hp : parseAuthority kind false
        (splitAtPort (splitBefore (endsAuthority kind.isSpecial) cs).1).1 with
    | error e =>
      rw [hp] at h
      cases h
    | ok a =>
      rw [hp] at h
      exact ⟨a, hp, (Except.ok.inj h).symm⟩
  refine ⟨authority, _, by rw [hu, List.append_nil], fun more ↦ ?_⟩
  rw [heq, hauthority]
  rfl

/-- Text appended to a URL of a special scheme goes to the path, the query or the fragment. -/
theorem parse_append {text scheme rest : List Char} {port : Nat} {u : Url}
    (hscheme : splitScheme (withoutBreaks (trimEnds text)) = some (scheme, rest))
    (hkind : kindOf scheme = .special port) (hsettled : hostSettled text = true)
    (h : parse text = .ok u) :
    ∃ authority tail, u = finish (.special port) scheme (some authority) tail ∧
      ∀ more z, trimEnds (text ++ more) = trimEnds text ++ z →
        parse (text ++ more) =
          .ok (finish (.special port) scheme (some authority) (tail ++ withoutBreaks z)) := by
  have hany : (rest.dropWhile (isSlash true)).any (endsAuthority true) = true := by
    rw [hostSettled, hscheme] at hsettled
    simpa only [hkind] using hsettled
  rw [parse_of_special hscheme hkind] at h
  obtain ⟨authority, tail, hu, happend⟩ := parseAfterSlashes_append (.special port) hany h
  refine ⟨authority, tail, hu, fun more z hz ↦ ?_⟩
  have hslashes : (rest ++ withoutBreaks z).dropWhile (isSlash true) =
      rest.dropWhile (isSlash true) ++ withoutBreaks z := by
    -- The slashes after the scheme end before the character that ends the host.
    cases hdrop : rest.dropWhile (isSlash true) with
    | nil =>
      rw [hdrop] at hany
      cases hany
    | cons c cs =>
      have hc : isSlash true c = false := by
        have := List.head?_dropWhile_not (isSlash true) rest
        rw [hdrop, List.head?_cons] at this
        simpa using this
      have hmem : c ∈ rest := (List.dropWhile_suffix _).subset (hdrop ▸ List.mem_cons_self)
      rw [(takeWhile_dropWhile_append (isSlash true) ⟨c, hmem, hc⟩ _).2, hdrop]
  rw [parse_of_special (splitScheme_trimEnds_append hscheme hz) hkind, hslashes, happend]

/-! ### Other schemes -/

/-- Where it is seen whether a host follows, two slashes do not come later. -/
theorem eq_of_otherHostSettled {rest more tail : List Char} (h : otherHostSettled rest = true)
    (heq : rest ++ more = '/' :: '/' :: tail) : ∃ tail', rest = '/' :: '/' :: tail' := by
  rcases rest with _ | ⟨c, _ | ⟨d, rest⟩⟩
  · cases h
  · obtain ⟨rfl, -⟩ := List.cons_eq_cons.mp heq
    cases h
  · obtain ⟨rfl, hrest⟩ := List.cons_eq_cons.mp heq
    obtain ⟨rfl, -⟩ := List.cons_eq_cons.mp hrest
    exact ⟨rest, rfl⟩

theorem exists_parse_append_of_other {text scheme rest : List Char} {u : Url}
    (hscheme : splitScheme (withoutBreaks (trimEnds text)) = some (scheme, rest))
    (hkind : kindOf scheme = .other) (hsettled : otherHostSettled rest = true)
    (h : parse text = .ok u) (more : List Char) : ∃ u', parse (text ++ more) = .ok u' := by
  obtain ⟨z, hz⟩ := exists_trimEnds_append (trimEnds_ne_nil h) more
  have hscheme' := splitScheme_trimEnds_append hscheme hz
  by_cases hslashes : ∃ tail, rest = '/' :: '/' :: tail
  · obtain ⟨tail, rfl⟩ := hslashes
    have hends : tail.any (endsAuthority false) = true := hsettled
    rw [parse_of_other hscheme hkind] at h
    obtain ⟨authority, tail', -, happend⟩ := parseAfterSlashes_append .other hends h
    rw [List.cons_append, List.cons_append] at hscheme'
    rw [parse_of_other hscheme' hkind, happend]
    exact ⟨_, rfl⟩
  · exact exists_parse_of_other hscheme' hkind fun tail htail ↦
      hslashes (eq_of_otherHostSettled hsettled htail)

theorem afterSlash?_append {cs : List Char} (h : (cs.any fun c ↦ !isBreak c) = true)
    (more : List Char) : afterSlash? (cs ++ more) = (afterSlash? cs).map (· ++ more) := by
  obtain ⟨c, hmem, hc⟩ := List.any_eq_true.mp h
  rw [Bool.not_eq_true'] at hc
  rw [afterSlash?, afterSlash?, (takeWhile_dropWhile_append isBreak ⟨c, hmem, hc⟩ more).2]
  cases hdrop : cs.dropWhile isBreak with
  | nil =>
    have := List.dropWhile_eq_nil_iff.mp hdrop c hmem
    rw [hc] at this
    cases this
  | cons d ds =>
    rw [List.cons_append]
    dsimp only
    split <;> rfl

theorem any_of_afterSlash? {cs rest : List Char} (h : afterSlash? cs = some rest) :
    (cs.any fun c ↦ !isBreak c) = true := by
  by_contra hany
  have hall : ∀ c ∈ cs, isBreak c = true := by simpa using hany
  rw [afterSlash?, List.dropWhile_eq_nil_iff.mpr hall] at h
  cases h

/-- After two slashes the URL of a file is readable if the text up to its path names a host, or
no host. -/
theorem exists_parseFile_iff {scheme cs first second : List Char}
    (hfirst : afterSlash? cs = some first) (hsecond : afterSlash? first = some second) :
    (∃ u, parseFile scheme cs = .ok u) ↔
      let text := withoutBreaks (splitBefore (endsAuthority true) second).1
      isDriveLetter text = true ∨ text = [] ∨ ∃ host, parseHost true text = .ok host := by
  rw [parseFile, hfirst]
  dsimp only
  rw [hsecond]
  dsimp only
  generalize splitBefore (endsAuthority true) second = parts
  obtain ⟨text, path⟩ := parts
  dsimp only
  generalize withoutBreaks text = text
  by_cases hdrive : isDriveLetter text = true
  · rw [if_pos hdrive]
    exact iff_of_true ⟨_, rfl⟩ (Or.inl hdrive)
  · rw [if_neg hdrive]
    cases text with
    | nil => exact iff_of_true ⟨_, rfl⟩ (Or.inr (Or.inl rfl))
    | cons c text =>
      rw [List.isEmpty_cons, if_neg Bool.false_ne_true]
      constructor
      · rintro ⟨u, h⟩
        obtain ⟨host, hhost, -⟩ := bind_eq_ok_iff.mp h
        exact Or.inr (Or.inr ⟨host, hhost⟩)
      · rintro (h | h | ⟨host, hhost⟩)
        · exact absurd h hdrive
        · cases h
        · rw [hhost]
          by_cases hlocal : (decide (host = .name []) ||
              decide (host = .name "localhost".toList)) = true
          · exact ⟨_, if_pos hlocal⟩
          · exact ⟨_, if_neg hlocal⟩

theorem exists_parseFile_append {scheme cs : List Char} {u : Url}
    (hsettled : fileHostSettled cs = true) (h : parseFile scheme cs = .ok u) (more : List Char) :
    ∃ u', parseFile scheme (cs ++ more) = .ok u' := by
  rw [fileHostSettled] at hsettled
  split at hsettled
  · next hslash =>
    rw [parseFile, afterSlash?_append hsettled, hslash]
    exact ⟨_, rfl⟩
  · next first hfirst =>
    have hfirst' := afterSlash?_append (any_of_afterSlash? hfirst) more
    rw [hfirst, Option.map_some] at hfirst'
    split at hsettled
    · next hslash =>
      have hslash' := afterSlash?_append hsettled more
      rw [hslash, Option.map_none] at hslash'
      rw [parseFile, hfirst']
      dsimp only
      rw [hslash']
      exact ⟨_, rfl⟩
    · next second hsecond =>
      have hsecond' := afterSlash?_append (any_of_afterSlash? hsecond) more
      rw [hsecond, Option.map_some] at hsecond'
      have hhost := (exists_parseFile_iff hfirst hsecond).mp ⟨u, h⟩
      rw [exists_parseFile_iff hfirst' hsecond', splitBefore_append_of_any hsettled]
      exact hhost

theorem exists_parse_append_of_file {text scheme rest : List Char} {u : Url}
    (hscheme : splitScheme (withoutBreaks (trimEnds text)) = some (scheme, rest))
    (hkind : kindOf scheme = .file) (hsettled : fileHostSettled (fileText text) = true)
    (h : parse text = .ok u) (more : List Char) : ∃ u', parse (text ++ more) = .ok u' := by
  obtain ⟨z, hz⟩ := exists_trimEnds_append (trimEnds_ne_nil h) more
  have hfile : fileText (text ++ more) = fileText text ++ z := by
    have hcolon : ':' ∈ trimEnds text := (List.mem_filter.mp (colon_mem_of_splitScheme hscheme)).1
    rw [fileText, hz, (takeWhile_dropWhile_append (· != ':') ⟨':', hcolon, rfl⟩ z).2, fileText,
      List.drop_append_of_le_length]
    refine List.length_pos_iff.mpr fun hnil ↦ ?_
    cases List.dropWhile_eq_nil_iff.mp hnil ':' hcolon
  rw [parse_of_file hscheme hkind] at h
  rw [parse_of_file (splitScheme_trimEnds_append hscheme hz) hkind, hfile]
  exact exists_parseFile_append hsettled h z

/-- **No text makes a URL unreadable whose host is settled.** -/
theorem exists_parse_append {text : List Char} {u : Url} (hsettled : hostSettled text = true)
    (h : parse text = .ok u) (more : List Char) : ∃ u', parse (text ++ more) = .ok u' := by
  obtain ⟨rest, hscheme⟩ := scheme_of_parse h
  cases hkind : kindOf u.scheme with
  | special port =>
    obtain ⟨authority, tail, -, happend⟩ := parse_append hscheme hkind hsettled h
    obtain ⟨z, hz⟩ := exists_trimEnds_append (trimEnds_ne_nil h) more
    exact ⟨_, happend more z hz⟩
  | file =>
    rw [hostSettled, hscheme] at hsettled
    simp only [hkind] at hsettled
    exact exists_parse_append_of_file hscheme hkind hsettled h more
  | other =>
    rw [hostSettled, hscheme] at hsettled
    simp only [hkind] at hsettled
    exact exists_parse_append_of_other hscheme hkind hsettled h more

/-! ## Texts -/

theorem ofString_append (text suffix : String) :
    Url.ofString (text ++ suffix) = parse (text.toList ++ suffix.toList) := by
  rw [Url.ofString, String.toList_append]

/-- The text of a URL to which any text may be appended. -/
structure Extensible (text : String) : Prop where
  exists_url : ∃ u, Url.ofString text = .ok u
  settled : hostSettled text.toList = true

theorem Extensible.append {text : String} (h : Extensible text) (suffix : String) :
    ∃ u, Url.ofString (text ++ suffix) = .ok u := by
  obtain ⟨u, hu⟩ := h.exists_url
  rw [ofString_append]
  exact exists_parse_append h.settled hu suffix.toList

end NewsWire.Url

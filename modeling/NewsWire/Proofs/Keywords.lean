import Mathlib.Data.List.Forall2
import Mathlib.Logic.Relation
import NewsWire.Payload.Transform

/-!
# Keywords

The keywords of a payload are the names of the subjects that the item is directly about, as they
are, and then the words of its free-text keywords. A word is a maximal run of characters that are
not blank (`Text.HasRuns`), so no word is empty or holds a blank.

As a run ends at every blank, it makes no difference how the free text is divided among keywords.
They may be joined with blanks between them, cut beside a blank, or have blank ones among them
(`Regroups`), and the payload is the same. In particular the words may themselves be the keywords:
a word is the only run of itself.

The words of a text are those of its two parts if there is a blank where the parts meet
(`Text.words_append`). All of the above is this one equation.

Names of subjects are not split: a name with a blank in it is one keyword, while the free text of
two feeds may hold the same words in one string or in several.
-/

namespace NewsWire.Text

variable {c : Char} {cs as bs blanks run : List Char} {runs : List (List Char)}

/-! ## Runs -/

/-- These are the maximal runs of characters of the text that are not blank, in order: before a run
there is nothing or blanks, and after it the text ends or goes on with a blank. -/
inductive HasRuns : List Char → List (List Char) → Prop
  | nil {blanks : List Char} : (∀ c ∈ blanks, isBlank c = true) → HasRuns blanks []
  | cons {blanks run rest : List Char} {runs : List (List Char)} :
      (∀ c ∈ blanks, isBlank c = true) → run ≠ [] → (∀ c ∈ run, isBlank c = false) →
      (∀ c ∈ rest.head?, isBlank c = true) → HasRuns rest runs →
      HasRuns (blanks ++ (run ++ rest)) (run :: runs)

theorem HasRuns.cons_blank (h : HasRuns cs runs) (hc : isBlank c = true) :
    HasRuns (c :: cs) runs := by
  rcases h with hblanks | ⟨hblanks, hrun, hink, hrest, hruns⟩
  · exact .nil (List.forall_mem_cons.mpr ⟨hc, hblanks⟩)
  · rw [← List.cons_append]
    exact .cons (List.forall_mem_cons.mpr ⟨hc, hblanks⟩) hrun hink hrest hruns

/-- A character that is not blank begins a run, or makes the first one longer. -/
theorem HasRuns.exists_cons (h : HasRuns cs runs) (hc : ¬isBlank c = true) :
    ∃ runs', HasRuns (c :: cs) runs' := by
  rw [Bool.not_eq_true] at hc
  have hsingle : ∀ d ∈ [c], isBlank d = false := List.forall_mem_singleton.mpr hc
  have hstart (hhead : ∀ d ∈ cs.head?, isBlank d = true) :
      HasRuns ([] ++ ([c] ++ cs)) ([c] :: runs) :=
    .cons (List.forall_mem_nil _) (List.cons_ne_nil c []) hsingle hhead h
  rcases h with hblanks | @⟨blanks, run, rest, runs, hblanks, hrun, hink, hrest, hruns⟩
  · exact ⟨_, hstart fun d hd ↦ hblanks d (List.mem_of_mem_head? hd)⟩
  · rcases blanks with _ | ⟨b, blanks⟩
    · have hlonger : HasRuns ([] ++ (c :: run ++ rest)) ((c :: run) :: runs) :=
        .cons (List.forall_mem_nil _) (List.cons_ne_nil c run)
          (List.forall_mem_cons.mpr ⟨hc, hink⟩) hrest hruns
      exact ⟨_, hlonger⟩
    · refine ⟨_, hstart fun d hd ↦ ?_⟩
      rw [List.cons_append, List.head?_cons, Option.mem_some_iff] at hd
      exact hd ▸ hblanks b List.mem_cons_self

theorem exists_hasRuns (cs : List Char) : ∃ runs, HasRuns cs runs := by
  induction cs with
  | nil => exact ⟨[], .nil (List.forall_mem_nil _)⟩
  | cons c cs ih =>
    rcases ih with ⟨runs, hruns⟩
    by_cases hc : isBlank c = true
    · exact ⟨runs, hruns.cons_blank hc⟩
    · exact hruns.exists_cons hc

/-! ## Words -/

theorem words_append_cons (hc : isBlank c = true) (as bs : List Char) :
    words (as ++ c :: bs) = words as ++ words bs := by
  rw [words, pieces_append_cons hc, List.filter_append, ← words, ← words]

theorem words_cons_of_blank (hc : isBlank c = true) (cs : List Char) :
    words (c :: cs) = words cs :=
  words_append_cons hc [] cs

theorem words_blanks_append (hblanks : ∀ c ∈ blanks, isBlank c = true) (cs : List Char) :
    words (blanks ++ cs) = words cs := by
  induction blanks with
  | nil => rfl
  | cons b blanks ih =>
    rw [List.forall_mem_cons] at hblanks
    rw [List.cons_append, words_cons_of_blank hblanks.1, ih hblanks.2]

theorem words_of_blanks (hblanks : ∀ c ∈ blanks, isBlank c = true) : words blanks = [] := by
  have hwords := words_blanks_append hblanks []
  rw [List.append_nil] at hwords
  exact hwords

/-- The words of a text are those of its parts, if there is a blank where these meet. -/
theorem words_append
    (h : (∃ c ∈ as.getLast?, isBlank c = true) ∨ ∃ c ∈ bs.head?, isBlank c = true) :
    words (as ++ bs) = words as ++ words bs := by
  rcases h with ⟨c, hlast, hc⟩ | ⟨c, hhead, hc⟩
  · rcases List.getLast?_eq_some_iff.mp hlast with ⟨before, rfl⟩
    rw [List.append_assoc, List.singleton_append, words_append_cons hc, words_append_cons hc,
      words_of_blanks (List.forall_mem_nil _), List.append_nil]
  · rcases List.head?_eq_some_iff.mp hhead with ⟨after, rfl⟩
    rw [words_append_cons hc, words_cons_of_blank hc]

theorem words_of_run (hrun : run ≠ []) (hink : ∀ c ∈ run, isBlank c = false) :
    words run = [run] := by
  have hempty : run.isEmpty = false := by rwa [List.isEmpty_eq_false_iff]
  rw [words, pieces_of_forall hink, List.filter_cons_of_pos (by rw [hempty]; rfl), List.filter_nil]

theorem HasRuns.words_eq (h : HasRuns cs runs) : words cs = runs := by
  induction h with
  | nil hblanks => exact words_of_blanks hblanks
  | @cons blanks run rest runs hblanks hrun hink hrest _ ih =>
    have happend : words (run ++ rest) = words run ++ words rest := by
      rcases rest with _ | ⟨c, rest⟩
      · rw [List.append_nil, words_of_blanks (List.forall_mem_nil _), List.append_nil]
      · exact words_append (.inr ⟨c, rfl, hrest c rfl⟩)
    rw [words_blanks_append hblanks, happend, words_of_run hrun hink, ih, List.singleton_append]

/-- The words of a text are its runs, and these are determined by it. -/
theorem words_eq_iff : words cs = runs ↔ HasRuns cs runs := by
  constructor
  · rintro rfl
    rcases exists_hasRuns cs with ⟨runs, hruns⟩
    rwa [hruns.words_eq]
  · exact HasRuns.words_eq

theorem HasRuns.mem_iff (h : HasRuns cs runs) {run : List Char} (hrun : run ∈ runs) :
    run ≠ [] ∧ ∀ c ∈ run, isBlank c = false := by
  induction h with
  | nil => cases hrun
  | cons _ hne hink _ _ ih =>
    rcases List.mem_cons.mp hrun with rfl | hrun
    · exact ⟨hne, hink⟩
    · exact ih hrun

end NewsWire.Text

namespace NewsWire

open NewsWire.Feed NewsWire.Text

/-! ## Free text divided among keywords -/

/-- A step from one way of dividing free text among keywords to another. -/
inductive Regroups : List String → List String → Prop
  /-- Two keywords in a row are joined with blanks between them. -/
  | join (before after : List String) (a gap b : String) :
      gap ≠ "" → (∀ c ∈ gap.toList, isBlank c = true) →
      Regroups (before ++ a :: b :: after) (before ++ (a ++ gap ++ b) :: after)
  /-- A keyword is cut before or after a blank. -/
  | cut (before after : List String) {a b : String} :
      (∃ c ∈ a.toList.getLast?, isBlank c = true) ∨ (∃ c ∈ b.toList.head?, isBlank c = true) →
      Regroups (before ++ (a ++ b) :: after) (before ++ a :: b :: after)
  /-- A keyword without words is put in. -/
  | insert (before after : List String) {blank : String} :
      (∀ c ∈ blank.toList, isBlank c = true) →
      Regroups (before ++ after) (before ++ blank :: after)

namespace Payload

theorem keywordTokens_cons (k : String) (ks : List String) :
    keywordTokens (k :: ks) = (words k.toList).map String.ofList ++ keywordTokens ks :=
  List.flatMap_cons

theorem keywordTokens_append (ks ks' : List String) :
    keywordTokens (ks ++ ks') = keywordTokens ks ++ keywordTokens ks' :=
  List.flatMap_append

/-- However free text is divided, the words are the same. -/
theorem keywordTokens_of_regroups {ks ks' : List String} (h : Regroups ks ks') :
    keywordTokens ks' = keywordTokens ks := by
  rcases h with ⟨before, after, a, gap, b, hgap, hblank⟩ | ⟨before, after, hmeet⟩ |
    ⟨before, after, hblank⟩
  · have hwords : words (a ++ gap ++ b).toList = words a.toList ++ words b.toList := by
      rw [String.toList_append, String.toList_append, List.append_assoc]
      rcases htext : gap.toList with _ | ⟨c, blanks⟩
      · exact absurd (String.toList_eq_nil_iff.mp htext) hgap
      · rw [htext] at hblank
        have hc : isBlank c = true := hblank c List.mem_cons_self
        rw [words_append (.inr ⟨c, rfl, hc⟩), words_blanks_append hblank]
    rw [keywordTokens_append, keywordTokens_append, keywordTokens_cons, keywordTokens_cons,
      keywordTokens_cons, hwords, List.map_append, List.append_assoc]
  · rw [keywordTokens_append, keywordTokens_append, keywordTokens_cons, keywordTokens_cons,
      keywordTokens_cons, String.toList_append, words_append hmeet, List.map_append,
      List.append_assoc]
  · rw [keywordTokens_append, keywordTokens_append, keywordTokens_cons, words_of_blanks hblank,
      List.map_nil, List.nil_append]

theorem keywordTokens_of_eqvGen {ks ks' : List String} (h : Relation.EqvGen Regroups ks ks') :
    keywordTokens ks' = keywordTokens ks := by
  induction h with
  | rel _ _ hstep => exact keywordTokens_of_regroups hstep
  | refl => rfl
  | symm _ _ _ ih => exact ih.symm
  | trans _ _ _ _ _ ih ih' => exact ih'.trans ih

theorem exists_run_of_mem_keywordTokens {ks : List String} {token : String}
    (h : token ∈ keywordTokens ks) : token ≠ "" ∧ ∀ c ∈ token.toList, isBlank c = false := by
  rcases List.mem_flatMap.mp h with ⟨k, -, hmem⟩
  rcases List.mem_map.mp hmem with ⟨run, hrun, rfl⟩
  have hink := (words_eq_iff.mp rfl : HasRuns k.toList (words k.toList)).mem_iff hrun
  refine ⟨fun hempty ↦ hink.1 ?_, ?_⟩
  · rw [← String.toList_ofList (l := run), hempty]
    rfl
  · rw [String.toList_ofList]
    exact hink.2

theorem keywordTokens_keywordTokens (ks : List String) :
    keywordTokens (keywordTokens ks) = keywordTokens ks := by
  have hself : ∀ tokens : List String,
      (∀ t ∈ tokens, t ≠ "" ∧ ∀ c ∈ t.toList, isBlank c = false) →
        keywordTokens tokens = tokens := by
    intro tokens h
    induction tokens with
    | nil => rfl
    | cons t tokens ih =>
      rw [List.forall_mem_cons] at h
      rw [keywordTokens_cons, ih h.2,
        words_of_run (mt String.toList_eq_nil_iff.mp h.1.1) h.1.2, List.map_singleton,
        String.ofList_toList, List.singleton_append]
  exact hself _ fun _ ht ↦ exists_run_of_mem_keywordTokens ht

/-- The words are the runs of the keywords, one keyword after another. -/
theorem exists_runs_keywordTokens (ks : List String) :
    ∃ runs : List (List (List Char)), List.Forall₂ (fun k rs ↦ HasRuns k.toList rs) ks runs ∧
      keywordTokens ks = runs.flatten.map String.ofList := by
  induction ks with
  | nil => exact ⟨[], .nil, rfl⟩
  | cons k ks ih =>
    rcases ih with ⟨runs, hruns, htokens⟩
    refine ⟨words k.toList :: runs, .cons (words_eq_iff.mp rfl) hruns, ?_⟩
    rw [keywordTokens_cons, htokens, List.flatten_cons, List.map_append]

/-- A payload depends on the keywords of its item only through their words. -/
theorem ofItem_eq_of_keywordTokens {feedTag document : String} {item : Item}
    {content : Article.Content} {ks : List String}
    (h : keywordTokens ks = keywordTokens item.keywords) :
    ofItem feedTag { item with keywords := ks } document content =
      ofItem feedTag item document content := by
  have hkeywords : keywords { item with keywords := ks } = keywords item := by
    rw [keywords, keywords, h]
    rfl
  rw [ofItem, hkeywords]
  rfl

/-- **Keywords are lists of words.** The keywords of a payload are the names of the subjects that
the item is directly about, and after them the maximal runs of its free-text keywords that hold no
blank. None of these is empty. The payload is the same however the free text is divided among the
keywords of the item, and when the words take the place of the keywords. -/
theorem keywords_ofItem (feedTag : String) (item : Item) (document : String)
    (content : Article.Content) :
    ∃ (names tokens : List String) (runs : List (List (List Char))),
      (ofItem feedTag item document content).body.keywords = names ++ tokens ∧
      names = (item.subjects.filter fun s ↦ "direct" ∈ s.relations).filterMap Subject.name ∧
      List.Forall₂ (fun k rs ↦ HasRuns k.toList rs) item.keywords runs ∧
      tokens = runs.flatten.map String.ofList ∧
      (∀ t ∈ tokens, t ≠ "" ∧ ∀ c ∈ t.toList, isBlank c = false) ∧
      (∀ ks, Relation.EqvGen Regroups item.keywords ks →
        ofItem feedTag { item with keywords := ks } document content =
          ofItem feedTag item document content) ∧
      ofItem feedTag { item with keywords := tokens } document content =
        ofItem feedTag item document content := by
  rcases exists_runs_keywordTokens item.keywords with ⟨runs, hruns, htokens⟩
  refine ⟨subjectNames item, keywordTokens item.keywords, runs, rfl, ?_, hruns, htokens, ?_, ?_, ?_⟩
  · rw [subjectNames, directRelation]
    congr 2
    funext s
    rw [List.contains_eq_mem]
  · intro t ht
    exact exists_run_of_mem_keywordTokens ht
  · intro ks hks
    exact ofItem_eq_of_keywordTokens (keywordTokens_of_eqvGen hks)
  · exact ofItem_eq_of_keywordTokens (keywordTokens_keywordTokens item.keywords)

/-- An item about the talks, with keywords that are blank or hold several words. -/
def sampleTagged : Item where
  altIds := none
  version := none
  kind := none
  status := none
  firstCreated := none
  versionCreated := none
  title := none
  headline := none
  urgency := none
  editorNote := none
  bylines := []
  subjects := [⟨some "Peace talks", ["inferred", "direct"]⟩, ⟨some "War", ["inferred"]⟩,
    ⟨none, ["direct"]⟩]
  keywords := ["talks  truce", "", "truce"]
  associations := []
  renditions := []

/-- The blank keyword may go, and the others may be cut and joined at other blanks. -/
theorem keywords_ofItem_sample :
    Relation.EqvGen Regroups sampleTagged.keywords ["talks", "truce\u00a0truce"] ∧
      (ofItem "wire" sampleTagged "" .empty).body.keywords =
        ["Peace talks", "talks", "truce", "truce"] ∧
      ofItem "wire" { sampleTagged with keywords := ["talks", "truce\u00a0truce"] } ""
          .empty =
        ofItem "wire" sampleTagged "" .empty := by
  have hinsert : Regroups ["talks  truce", "truce"] ["talks  truce", "", "truce"] :=
    .insert ["talks  truce"] ["truce"] (List.all_eq_true.mp rfl)
  have hcut : Regroups ["talks", "truce", "truce"] ["talks  truce", "truce"] :=
    .join [] ["truce"] "talks" "  " "truce" (by decide) (List.all_eq_true.mp rfl)
  have hjoin : Regroups ["talks", "truce", "truce"] ["talks", "truce\u00a0truce"] :=
    .join ["talks"] [] "truce" "\u00a0" "truce" (by decide) (List.all_eq_true.mp rfl)
  have hregroups : Relation.EqvGen Regroups sampleTagged.keywords ["talks", "truce\u00a0truce"] :=
    (Relation.EqvGen.rel _ _ hinsert).symm.trans _ _ _
      ((Relation.EqvGen.rel _ _ hcut).symm.trans _ _ _ (.rel _ _ hjoin))
  rcases keywords_ofItem "wire" sampleTagged "" .empty with
    ⟨names, tokens, runs, hkeywords, hnames, hruns, htokens, -, hsame, -⟩
  exact ⟨hregroups, by decide +kernel, hsame _ hregroups⟩

end Payload

end NewsWire

import Mathlib.Data.List.Forall2
import NewsWire.Json.Decoder
import NewsWire.Proofs.ReadBack

/-!
# Decoders that restore what is written

A decoder restores a value from what it is written as if its schema reads that back and what it
makes of it is the value (`Decoder.Restores`). Then it gives the value back from every text that
spells it (`Decoder.Restores.parse`), and so from both forms (`Decoder.Undoes`).

This is put together like the decoders are. A list is restored when its items are, a record when its
fields are. A field that is absent may be left out or written as null, as long as a value that is
there is not written as null (`Fields.restores_maybe`, `Fields.restores_orNull`). The fields of a
record are looked up by their names, so a record needs names that differ
(`Fields.Restores.record`).
-/

namespace NewsWire.Json

variable {α β : Type} {d : Decoder α} {v : Value} {a : α} {name : String} {presence : Presence}

/-! ## Decoders -/

/-- The decoder restores a value from what it is written as. -/
structure Decoder.Restores (d : Decoder α) (v : Value) (a : α) : Prop where
  reads : Scan.ReadsBack d.schema.read v
  ofValue : d.ofValue v = .ok a

namespace Decoder

/-- What is restored from its JSON is restored from every text of it. -/
theorem Restores.parse {text blanks : List Char} (h : d.Restores v a) (hspells : Spells v text)
    (hblanks : Blanks blanks) : d.parse (text ++ blanks) = .ok a := by
  rw [Decoder.parse, parse_of_readsBack h.reads hspells hblanks]
  simp only [h.ofValue]

/-- The decoder undoes the encoder, in both forms of a text. -/
def Undoes (d : Decoder α) (encode : α → Value) : Prop :=
  ∀ a, d.parse (encode a).compact = .ok a ∧ d.parse ((encode a).layout 0) = .ok a

theorem undoes_of_restores {encode : α → Value} (h : ∀ a, d.Restores (encode a) a) :
    d.Undoes encode := by
  intro a
  have hcompact := (h a).parse (encode a).spells_compact blanks_nil
  have hlayout := (h a).parse ((encode a).spells_layout 0) blanks_nil
  rw [List.append_nil] at hcompact hlayout
  exact ⟨hcompact, hlayout⟩

theorem restores_text (s : String) : Decoder.text.Restores (.string s) s := ⟨readsBack_text s, rfl⟩

theorem Restores.mapping {f : α → β} {b : β} (h : d.Restores v a) (hb : f a = b) :
    (d.mapping f).Restores v b where
  reads := h.reads
  ofValue := by
    simp only [Decoder.mapping, h.ofValue, ← hb]
    rfl

theorem restores_int {r : IntRange} {i : ℤ} (hmin : r.min ≤ i) (hmax : i ≤ r.max)
    (hlow : Text.minInt64 ≤ i) (hhigh : i ≤ Text.maxWord64) :
    (Decoder.int r).Restores (.ofInt i) i :=
  ⟨readsBack_int hmin hmax hlow hhigh, check_of_mem hmin hmax⟩

theorem restores_word32 (n : UInt32) : word32.Restores (.ofNat n.toNat) n := by
  have hlt := n.toNat_lt
  refine (restores_int (i := n.toNat) ?_ ?_ ?_ ?_).mapping ?_
  · simp [IntRange.word32]
  · simp only [IntRange.word32, Text.maxWord32, UInt32.size]
    omega
  · simp only [Text.minInt64]
    omega
  · simp only [Text.maxWord64, UInt64.size]
    omega
  · simp

theorem mem_range_word64 (n : UInt64) :
    IntRange.word64.min ≤ (n.toNat : ℤ) ∧ (n.toNat : ℤ) ≤ IntRange.word64.max := by
  have hlt := n.toNat_lt
  simp only [IntRange.word64, Text.maxWord64, UInt64.size]
  omega

theorem restores_word64 (n : UInt64) : word64.Restores (.ofNat n.toNat) n := by
  have hlt := n.toNat_lt
  obtain ⟨hmin, hmax⟩ := mem_range_word64 n
  refine (restores_int hmin hmax ?_ hmax).mapping (by simp)
  simp only [Text.minInt64]
  omega

theorem mem_range_int64 (i : Int64) :
    IntRange.int64.min ≤ i.toInt ∧ i.toInt ≤ IntRange.int64.max := by
  have hle := i.le_toInt
  have hlt := i.toInt_lt
  simp only [IntRange.int64, Text.minInt64, Text.maxInt64]
  omega

theorem restores_int64 (i : Int64) : int64.Restores (.ofInt i.toInt) i := by
  have hlt := i.toInt_lt
  obtain ⟨hmin, hmax⟩ := mem_range_int64 i
  refine (restores_int hmin hmax hmin ?_).mapping (by simp)
  simp only [Text.maxWord64, UInt64.size]
  omega

theorem mapM_ofValue {encode : α → Value} {as : List α}
    (h : ∀ a ∈ as, d.ofValue (encode a) = .ok a) : (as.map encode).mapM d.ofValue = .ok as := by
  induction as with
  | nil => rfl
  | cons a as ih =>
    rw [List.forall_mem_cons] at h
    rw [List.map_cons, List.mapM_cons, h.1, ok_bind, ih h.2, ok_bind]
    rfl

theorem restores_list {encode : α → Value} {as : List α} (h : ∀ a ∈ as, d.Restores (encode a) a) :
    d.list.Restores (.array (as.map encode)) as where
  reads := readsBack_list (List.forall_mem_map.mpr fun a ha ↦ (h a ha).reads)
  ofValue := mapM_ofValue fun a ha ↦ (h a ha).ofValue

theorem restores_optional_none : d.optional.Restores .null none :=
  ⟨readsBack_optional_null d.schema, rfl⟩

theorem Restores.optional (h : d.Restores v a) (hv : v ≠ .null) :
    d.optional.Restores v (some a) where
  reads := readsBack_optional h.reads hv
  ofValue := by
    rw [ofValue_optional hv, h.ofValue]
    rfl

end Decoder

/-! ## Fields

The hypothesis about the object that is read is only that it has what the fields are written as.
Other members and their order are left open, so fields can be put together one after another: each
finds its own in an object with all the others. -/

/-- The value of a field, if it has one, is read back by the schema of the field, and it has one if
it must be there. -/
structure WrittenAs (field : String × Presence × Schema) (written : String × Option Value) :
    Prop where
  name_eq : field.1 = written.1
  reads : ∀ v ∈ written.2, Scan.ReadsBack field.2.2.read v
  isSome : field.2.1 = .required → written.2.isSome

/-- The fields are found in every object that has what they are written as, each under its name or
left out. It does not matter what else there is. -/
def Fields.Finds (fields : Fields α) (written : List (String × Option Value)) (a : α) : Prop :=
  ∀ members : Members, (∀ w ∈ written, members.lookup w.1 = w.2) →
    fields.ofMembers members = .ok a

/-- The fields restore a value from what they are written as, each under its name or left out. It
does not matter what else there is. -/
structure Fields.Restores (fields : Fields α) (written : List (String × Option Value)) (a : α) :
    Prop where
  aligned : List.Forall₂ WrittenAs fields.table written
  ofMembers : ∀ members : Members, (∀ w ∈ written, members.lookup w.1 = w.2) →
    fields.ofMembers members = .ok a

namespace Fields

variable {fields : Fields (α → β)} {more : Fields α} {f : α → β}
  {written written' : List (String × Option Value)}

theorem finds_done (a : α) : (done a).Finds [] a := fun _ _ ↦ rfl

theorem Finds.both (hf : fields.Finds written f) (ha : more.Finds written' a) :
    (fields.both more).Finds (written ++ written') (f a) := by
  intro members hmembers
  rw [List.forall_mem_append] at hmembers
  simp only [Fields.both, hf members hmembers.1, ha members hmembers.2]

theorem Finds.map (ha : more.Finds written a) (f : α → β) : (f <$> more).Finds written (f a) :=
  (finds_done f).both ha

theorem Finds.seq (hf : fields.Finds written f) (ha : more.Finds written' a) :
    (fields <*> more).Finds (written ++ written') (f a) := hf.both ha

theorem finds_field (h : d.ofValue v = .ok a) (absent : Option α) :
    (field name presence absent d).Finds [(name, some v)] a := by
  intro members hmembers
  have hlookup := hmembers _ List.mem_cons_self
  simp only [field, hlookup, h]
  rfl

theorem restores_done (a : α) : (done a).Restores [] a := ⟨.nil, finds_done a⟩

theorem Restores.both (hf : fields.Restores written f) (ha : more.Restores written' a) :
    (fields.both more).Restores (written ++ written') (f a) where
  aligned := List.rel_append hf.aligned ha.aligned
  ofMembers := Finds.both hf.ofMembers ha.ofMembers

theorem Restores.map (ha : more.Restores written a) (f : α → β) :
    (f <$> more).Restores written (f a) := (restores_done f).both ha

theorem Restores.seq (hf : fields.Restores written f) (ha : more.Restores written' a) :
    (fields <*> more).Restores (written ++ written') (f a) := hf.both ha

theorem restores_field (h : d.Restores v a) (absent : Option α) :
    (field name presence absent d).Restores [(name, some v)] a where
  aligned := .cons ⟨rfl, fun _ hw ↦ Option.some.inj hw ▸ h.reads, fun _ ↦ rfl⟩ .nil
  ofMembers := finds_field h.ofValue absent

/-- A field that is left out. -/
theorem restores_field_absent (hpresence : presence ≠ .required) (d : Decoder α) (a : α) :
    (field name presence (some a) d).Restores [(name, none)] a where
  aligned := .cons ⟨rfl, nofun, fun h ↦ absurd h hpresence⟩ .nil
  ofMembers members hmembers := by
    have hlookup := hmembers _ List.mem_cons_self
    simp only [field, hlookup]

theorem restores_required (name : String) (h : d.Restores v a) :
    (required name d).Restores [(name, some v)] a := restores_field h none

variable {encode : α → Value}

/-- A field that may be null is left out if it is absent. -/
theorem restores_maybe (hpresence : presence ≠ .required) (name : String) (o : Option α)
    (h : ∀ a, d.Restores (encode a) a) (hnull : ∀ a, encode a ≠ .null) :
    (field name presence (some none) d.optional).Restores [(name, o.map encode)] o := by
  cases o with
  | none => exact restores_field_absent hpresence d.optional none
  | some a => exact restores_field ((h a).optional (hnull a)) (some none)

/-- Or it is written as null. -/
theorem restores_orNull (name : String) (o : Option α) (h : ∀ a, d.Restores (encode a) a)
    (hnull : ∀ a, encode a ≠ .null) :
    (field name presence (some none) d.optional).Restores
      [(name, some (o.elim .null encode))] o := by
  cases o with
  | none => exact restores_field Decoder.restores_optional_none (some none)
  | some a => exact restores_field ((h a).optional (hnull a)) (some none)

theorem restores_optional (name : String) (o : Option α) (h : ∀ a, d.Restores (encode a) a)
    (hnull : ∀ a, encode a ≠ .null) : (optional name d).Restores [(name, o.map encode)] o :=
  restores_maybe (by decide) name o h hnull

theorem restores_nullable (name : String) (o : Option α) (h : ∀ a, d.Restores (encode a) a)
    (hnull : ∀ a, encode a ≠ .null) : (nullable name d).Restores [(name, o.map encode)] o :=
  restores_maybe (by decide) name o h hnull

end Fields

/-! ## Records -/

theorem mem_present {written : List (String × Option Value)} {m : String × Value} :
    m ∈ written.filterMap (fun w ↦ w.2.map (w.1, ·)) ↔ (m.1, some m.2) ∈ written := by
  rw [List.mem_filterMap]
  constructor
  · rintro ⟨⟨name, o⟩, hmem, hm⟩
    obtain ⟨v, rfl, rfl⟩ := Option.map_eq_some_iff.mp hm
    exact hmem
  · intro hmem
    exact ⟨_, hmem, rfl⟩

theorem nodup_keys_present {written : List (String × Option Value)}
    (hnames : (written.map Prod.fst).Nodup) :
    ((written.filterMap fun w ↦ w.2.map (w.1, ·)).map Prod.fst).Nodup := by
  rw [List.Nodup, List.pairwise_map] at hnames ⊢
  refine List.pairwise_filterMap.mpr (hnames.imp ?_)
  intro w w' hne m hm m' hm'
  obtain ⟨v, -, rfl⟩ := Option.map_eq_some_iff.mp hm
  obtain ⟨v', -, rfl⟩ := Option.map_eq_some_iff.mp hm'
  exact hne

theorem lookup_of_mem {members : List (String × α)} (hkeys : (members.map Prod.fst).Nodup)
    {key : String} (hmem : (key, a) ∈ members) : members.lookup key = some a := by
  obtain ⟨before, after, rfl⟩ := List.mem_iff_append.mp hmem
  refine List.lookup_eq_some_iff.mpr ⟨before, after, rfl, fun m hm ↦ bne_iff_ne.mpr ?_⟩
  rintro rfl
  rw [List.map_append, List.map_cons, List.nodup_middle, List.nodup_cons] at hkeys
  have hkey : m.1 ∈ before.map Prod.fst := List.mem_map_of_mem hm
  exact hkeys.1 (List.mem_append_left _ hkey)

theorem lookup_present {written : List (String × Option Value)}
    (hnames : (written.map Prod.fst).Nodup) {w : String × Option Value} (hw : w ∈ written) :
    (written.filterMap fun w ↦ w.2.map (w.1, ·)).lookup w.1 = w.2 := by
  obtain ⟨name, value⟩ := w
  cases value with
  | none =>
    refine List.lookup_eq_none_iff.mpr fun m hm ↦ bne_iff_ne.mpr ?_
    rintro rfl
    have heq := List.inj_on_of_nodup_map hnames hw (mem_present.mp hm) rfl
    cases heq
  | some v => exact lookup_of_mem (nodup_keys_present hnames) (mem_present.mpr hw)

theorem lookup_eq_some_iff_mem {entries : List (String × α)} (hkeys : (entries.map Prod.fst).Nodup)
    {key : String} : entries.lookup key = some a ↔ (key, a) ∈ entries := by
  refine ⟨fun h ↦ ?_, lookup_of_mem hkeys⟩
  obtain ⟨before, after, rfl, -⟩ := List.lookup_eq_some_iff.mp h
  exact List.mem_append_right before List.mem_cons_self

/-- Where keys differ, the order of the entries does not matter. -/
theorem lookup_eq_of_perm {entries entries' : List (String × α)}
    (hkeys : (entries.map Prod.fst).Nodup) (h : entries'.Perm entries) (key : String) :
    entries'.lookup key = entries.lookup key := by
  have hkeys' : (entries'.map Prod.fst).Nodup := (h.map Prod.fst).nodup_iff.mpr hkeys
  ext a
  rw [lookup_eq_some_iff_mem hkeys', lookup_eq_some_iff_mem hkeys, h.mem_iff]

theorem exists_of_forall₂ {α β : Type*} {R : α → β → Prop} {as : List α} {bs : List β}
    (h : List.Forall₂ R as bs) {b : β} (hb : b ∈ bs) : ∃ a ∈ as, R a b := by
  induction h with
  | nil => cases hb
  | @cons a b' as bs hab _ ih =>
    obtain rfl | hb := List.mem_cons.mp hb
    · exact ⟨a, List.mem_cons_self, hab⟩
    · obtain ⟨a', ha', hab'⟩ := ih hb
      exact ⟨a', List.mem_cons_of_mem a ha', hab'⟩

/-- A record is found when its fields are. -/
theorem Fields.Finds.record {fields : Fields α} {written : List (String × Option Value)}
    (h : fields.Finds written a) (name : String) (hnames : (written.map Prod.fst).Nodup) :
    (Fields.record name fields).ofValue (present written) = .ok a := by
  have hmembers := h _ fun w hw ↦ lookup_present hnames hw
  have hpresent : present written = .object (written.filterMap fun w ↦ w.2.map (w.1, ·)) := rfl
  rw [hpresent, Fields.record]
  simp only [hmembers]
  rfl

theorem Fields.Finds.object {fields : Fields α} {written : List (String × Option Value)}
    {members : Members} (h : fields.Finds written a) (name : String)
    (hnames : (written.map Prod.fst).Nodup)
    (hmembers : written.filterMap (fun w ↦ w.2.map (w.1, ·)) = members) :
    (Fields.record name fields).ofValue (.object members) = .ok a :=
  hmembers ▸ h.record name hnames

theorem Fields.Restores.record {fields : Fields α} {written : List (String × Option Value)}
    (h : fields.Restores written a) (name : String) (hnames : (written.map Prod.fst).Nodup) :
    (Fields.record name fields).Restores (present written) a where
  reads := by
    have haligned : fields.table.map Prod.fst = written.map Prod.fst := by
      rw [← List.forall₂_eq_eq_eq, List.forall₂_map_left_iff, List.forall₂_map_right_iff]
      exact h.aligned.imp fun _ _ hfield ↦ hfield.name_eq
    refine readsBack_record (by rwa [haligned]) (nodup_keys_present hnames) ?_ ?_
    -- Each member is read by the field that it was written for, and each field that must be there
    -- has a member.
    · intro m hm
      obtain ⟨⟨name, presence, s⟩, hfield, hwritten⟩ :=
        exists_of_forall₂ h.aligned (mem_present.mp hm)
      obtain rfl : name = m.1 := hwritten.name_eq
      exact ⟨presence, s, hfield, hwritten.reads m.2 rfl⟩
    · intro field hfield hrequired
      obtain ⟨w, hw, hwritten⟩ := exists_of_forall₂ h.aligned.flip hfield
      rw [hwritten.name_eq]
      exact (lookup_present hnames hw).symm ▸ hwritten.isSome hrequired
  ofValue := Finds.record h.ofMembers name hnames

end NewsWire.Json

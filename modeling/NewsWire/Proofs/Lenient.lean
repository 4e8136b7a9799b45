import Mathlib.Data.List.DropRight
import NewsWire.Proofs.Alike
import NewsWire.Proofs.Numeral
import NewsWire.Proofs.Written

/-!
# Lenient numbers

Two fields of an item, its version and its urgency, may be written as a number or as a text. What
they are read as is said by `LenientNumber`: a text is never refused, and it is a number if there is
a numeral of the range in it with nothing but blanks around. Other values than whole numbers of the
range, texts and null are refused, and the item with them.

An item without such a field is read if and only if the others can be read. So the field is judged
by itself: it is given to an item that can be read without it, and then the item can be read if and
only if the field can, and differs in nothing but the field (`Item.ofValue_number`). In particular a
number and its decimal text give the same item.

The two fields differ in their range, and in nothing else that matters here, so they are the values
of a type `NumberField` and there is one proof for both. The version of a payload is a text again,
and in it a numeral has lost the zeros that it was written with.
-/

namespace NewsWire.Text

variable {signed : Prop} {i : ℤ} {n : ℕ} {cs ds : List Char}

/-! ## Between blanks -/

theorem trim_of_padded {before text after : List Char} (hbefore : ∀ c ∈ before, isBlank c = true)
    (hafter : ∀ c ∈ after, isBlank c = true) (htext : ∀ c ∈ text, isBlank c = false) :
    trim (before ++ (text ++ after)) = text := by
  rw [trim, trimStart, List.dropWhile_append_of_pos hbefore]
  rcases text with _ | ⟨c, text⟩
  · rw [List.nil_append, List.dropWhile_eq_nil_iff.mpr hafter]
    rfl
  · have hreverse : (c :: text).reverse.dropWhile isBlank = (c :: text).reverse := by
      rw [List.dropWhile_eq_self_iff]
      intro hpos
      have hlast := htext _ (List.mem_reverse.mp (List.getElem_mem hpos))
      rw [hlast]
      exact Bool.false_ne_true
    rw [List.cons_append, List.dropWhile_cons_of_neg (by simp [htext c]), ← List.cons_append,
      trimEnd, List.reverse_append, List.dropWhile_append_of_pos (by simpa using hafter), hreverse,
      List.reverse_reverse]

theorem exists_padding (cs : List Char) :
    ∃ before after, cs = before ++ (trim cs ++ after) ∧ (∀ c ∈ before, isBlank c = true) ∧
      ∀ c ∈ after, isBlank c = true := by
  refine ⟨cs.takeWhile isBlank, ((trimStart cs).reverse.takeWhile isBlank).reverse, ?_,
    fun c ↦ List.mem_takeWhile_imp, fun c hc ↦ List.mem_takeWhile_imp (List.mem_reverse.mp hc)⟩
  rw [trim, trimEnd, ← List.reverse_append, List.takeWhile_append_dropWhile, List.reverse_reverse,
    trimStart, List.takeWhile_append_dropWhile]

/-- The text is a numeral of the integer, with nothing but blanks before and after it. -/
def PaddedNumeral (signed : Prop) (i : ℤ) (cs : List Char) : Prop :=
  ∃ before numeral after, cs = before ++ (numeral ++ after) ∧ (∀ c ∈ before, isBlank c = true) ∧
    (∀ c ∈ after, isBlank c = true) ∧ Numeral signed i numeral

theorem isBlank_of_isDigit {c : Char} (h : c.isDigit = true) : isBlank c = false := by
  have hrange : 48 ≤ c.toNat ∧ c.toNat ≤ 57 := by
    rw [Char.isDigit, Bool.and_eq_true, decide_eq_true_iff, decide_eq_true_iff] at h
    exact h
  simp only [isBlank, Bool.or_eq_false_iff, Bool.and_eq_false_iff, decide_eq_false_iff_not,
    beq_eq_false_iff_ne]
  omega

theorem Numeral.isBlank_eq_false (h : Numeral signed i cs) : ∀ c ∈ cs, isBlank c = false := by
  have hdigits {n : ℕ} {ds : List Char} (hds : IsDigits n ds) : ∀ c ∈ ds, isBlank c = false :=
    fun c hc ↦ isBlank_of_isDigit (hds.isDigit c hc)
  rcases h with hds | hds | ⟨-, hds⟩
  · exact hdigits hds
  · exact List.forall_mem_cons.mpr ⟨by decide, hdigits hds⟩
  · exact List.forall_mem_cons.mpr ⟨by decide, hdigits hds⟩

theorem paddedNumeral_iff : PaddedNumeral signed i cs ↔ Numeral signed i (trim cs) := by
  constructor
  · rintro ⟨before, numeral, after, rfl, hbefore, hafter, hnumeral⟩
    rwa [trim_of_padded hbefore hafter hnumeral.isBlank_eq_false]
  · intro h
    rcases exists_padding cs with ⟨before, after, heq, hbefore, hafter⟩
    exact ⟨before, trim cs, after, heq, hbefore, hafter, h⟩

/-! ## Decimal texts -/

theorem IsDigits.replicate_append (h : IsDigits n ds) (zeros : ℕ) :
    IsDigits n (List.replicate zeros '0' ++ ds) where
  ne_nil := List.append_ne_nil_of_right_ne_nil _ h.ne_nil
  isDigit := by
    intro d hd
    rcases List.mem_append.mp hd with hd | hd
    · rw [List.eq_of_mem_replicate hd]
      rfl
    · exact h.isDigit d hd
  value := by
    rw [Nat.ofDigitChars_append, Nat.ofDigitChars_replicate_zero, Nat.mul_zero, h.value]

/-- The decimal text of an integer with further zeros before its digits. -/
def decimalText (zeros : ℕ) (i : ℤ) : List Char :=
  (if i < 0 then ['-'] else []) ++ (List.replicate zeros '0' ++ Nat.toDigits 10 i.natAbs)

theorem numeral_decimalText (zeros : ℕ) (hsigned : i < 0 → signed) :
    Numeral signed i (decimalText zeros i) := by
  have hdigits := (isDigits_toDigits i.natAbs).replicate_append zeros
  rw [decimalText]
  by_cases hneg : i < 0
  · have habs : -(i.natAbs : ℤ) = i := by omega
    have hminus := Numeral.minus (hsigned hneg) hdigits
    rwa [if_pos hneg, List.singleton_append, ← habs, Int.natAbs_neg, Int.natAbs_natCast]
  · have habs : (i.natAbs : ℤ) = i := by omega
    have hplain : Numeral signed i.natAbs _ := .plain hdigits
    rw [habs] at hplain
    rwa [if_neg hneg, List.nil_append]

/-- The digits of a number without zeros before them; zero itself is one zero. -/
structure Canonical (n : ℕ) (ds : List Char) : Prop extends IsDigits n ds where
  eq_zero : ds.head? = some '0' → ds = ['0']

theorem canonical_toDigits (n : ℕ) : Canonical n (Nat.toDigits 10 n) where
  toIsDigits := isDigits_toDigits n
  eq_zero h := by rw [Json.eq_zero_of_head?_toDigits h, Nat.toDigits_zero]

end NewsWire.Text

namespace NewsWire.Json

/-! ## What is read as a number

`LenientNumber` has a constructor for every kind of value that is read, and what is refused is what
has none. A text has two: one for a numeral of the range and one for all others, so that a text
which is out of range is seen to be absent and not refused. -/

/-- What a value is read as where a number may come as a number or as a text. A text is absent if it
is a numeral of no integer of the range. -/
inductive LenientNumber (r : IntRange) : Value → Option ℤ → Prop
  | null : LenientNumber r .null none
  | number {i : ℤ} : r.min ≤ i → i ≤ r.max → LenientNumber r (.ofInt i) (some i)
  | numeral {s : String} {i : ℤ} : Text.PaddedNumeral (r.min < 0) i s.toList → r.min ≤ i →
      i ≤ r.max → LenientNumber r (.string s) (some i)
  | text {s : String} :
    (∀ i, Text.PaddedNumeral (r.min < 0) i s.toList → ¬(r.min ≤ i ∧ i ≤ r.max)) →
      LenientNumber r (.string s) none

variable {r : IntRange} {v : Value} {o : Option ℤ}

theorem lenientNumber_string_iff {s : String} :
    LenientNumber r (.string s) o ↔ Text.integer? r.min r.max (Text.trim s.toList) = o := by
  have hsome {i : ℤ} : Text.integer? r.min r.max (Text.trim s.toList) = some i ↔
      Text.PaddedNumeral (r.min < 0) i s.toList ∧ r.min ≤ i ∧ i ≤ r.max := by
    rw [Text.integer?_eq_some_iff, Text.paddedNumeral_iff]
  constructor
  · rintro (_ | _ | ⟨hnumeral, hmin, hmax⟩ | hnone)
    · exact hsome.mpr ⟨hnumeral, hmin, hmax⟩
    · refine Option.eq_none_iff_forall_ne_some.mpr fun i hi ↦ ?_
      exact hnone i (hsome.mp hi).1 (hsome.mp hi).2
  · intro h
    rcases o with _ | i
    · refine .text fun i hnumeral hrange ↦ ?_
      rw [hsome.mpr ⟨hnumeral, hrange⟩] at h
      cases h
    · rcases hsome.mp h with ⟨hnumeral, hmin, hmax⟩
      exact .numeral hnumeral hmin hmax

theorem LenientNumber.mem_range {i : ℤ} (h : LenientNumber r v (some i)) :
    r.min ≤ i ∧ i ≤ r.max := by
  rcases h with _ | ⟨hmin, hmax⟩ | ⟨-, hmin, hmax⟩
  · exact ⟨hmin, hmax⟩
  · exact ⟨hmin, hmax⟩

namespace Decoder

variable {α : Type}

/-- The reader of lenient numbers reads just these. -/
theorem ofValue_lenient_eq_ok_iff : (lenient r).ofValue v = .ok o ↔ LenientNumber r v o := by
  rcases v with _ | b | n | s | items | members
  case string =>
    rw [lenientNumber_string_iff]
    change Except.ok _ = Except.ok o ↔ _
    rw [Except.ok.injEq]
  case number =>
    constructor
    · intro h
      rcases n with i | x
      · by_cases hrange : r.min ≤ i ∧ i ≤ r.max
        · have hread := ofValue_lenient_ofInt hrange.1 hrange.2
          obtain rfl : some i = o := Except.ok.inj (hread.symm.trans h)
          exact .number hrange.1 hrange.2
        · have hcheck : r.check (.int i) = .error (.wrongValue (.number (.int i)) r.name) :=
            if_neg (by simpa using hrange)
          simp only [lenient, hcheck] at h
          cases h
      · cases h
    · rintro (_ | ⟨hmin, hmax⟩ | _ | _)
      exact ofValue_lenient_ofInt hmin hmax
  case null =>
    constructor
    · intro h
      obtain rfl : none = o := Except.ok.inj h
      exact .null
    · rintro (_ | _ | _ | _)
      rfl
  all_goals exact iff_of_false (by rintro ⟨⟩) (by rintro ⟨⟩)

/-- The reader reads lenient numbers, as values that stand for integers. -/
def ReadsLenient (d : Decoder (Option α)) (r : IntRange) (toInt : α → ℤ) : Prop :=
  ∀ v o, (∃ a, d.ofValue v = .ok a ∧ a.map toInt = o) ↔ LenientNumber r v o

theorem readsLenient_mapping {toInt : α → ℤ} {ofInt : ℤ → α}
    (h : ∀ i, r.min ≤ i → i ≤ r.max → toInt (ofInt i) = i) :
    ((lenient r).mapping fun o ↦ o.map ofInt).ReadsLenient r toInt := by
  have hback {v : Value} {o : Option ℤ} (ho : LenientNumber r v o) :
      (o.map ofInt).map toInt = o := by
    rcases o with _ | i
    · rfl
    · rw [Option.map_some, Option.map_some, h i ho.mem_range.1 ho.mem_range.2]
  intro v o
  have hmap : ((lenient r).mapping fun o ↦ o.map ofInt).ofValue v =
      ((lenient r).ofValue v).map fun o ↦ o.map ofInt := rfl
  constructor
  · rintro ⟨a, ha, rfl⟩
    rcases hread : (lenient r).ofValue v with m | read
    · rw [hmap, hread] at ha
      cases ha
    · rw [hmap, hread] at ha
      obtain rfl : read.map ofInt = a := Except.ok.inj ha
      have hnumber := ofValue_lenient_eq_ok_iff.mp hread
      rwa [hback hnumber]
  · intro ho
    refine ⟨o.map ofInt, ?_, hback ho⟩
    rw [hmap, ofValue_lenient_eq_ok_iff.mpr ho]
    rfl

theorem readsLenient_word64 :
    lenientWord64.ReadsLenient .word64 fun n ↦ (n.toNat : ℤ) := by
  refine readsLenient_mapping fun i hmin hmax ↦ ?_
  simp only [IntRange.word64, Text.maxWord64, UInt64.size] at hmin hmax
  rw [UInt64.toNat_ofNat', Nat.mod_eq_of_lt (by omega), Int.toNat_of_nonneg hmin]

theorem readsLenient_int64 : lenientInt64.ReadsLenient .int64 Int64.toInt := by
  refine readsLenient_mapping fun i hmin hmax ↦ ?_
  simp only [IntRange.int64, Text.minInt64, Text.maxInt64] at hmin hmax
  exact Int64.toInt_ofInt_of_le (by omega) (by omega)

end Decoder

end NewsWire.Json

namespace NewsWire.Feed

open NewsWire.Json

/-! ## Number fields

In an object the field is a member, and in an array it is a place. To judge the field by itself it
is taken out of the value, and put in again as what is found for it. -/

/-- The fields of an item that may be a number or a text. -/
inductive NumberField where
  | version
  | urgency

namespace NumberField

/-- The name of the field in an object. -/
def name : NumberField → String
  | version => "version"
  | urgency => "urgency"

/-- The place of the field in an array. -/
def place : NumberField → ℕ
  | version => 1
  | urgency => 8

/-- The integers that the field may be. -/
def range : NumberField → IntRange
  | version => .word64
  | urgency => .int64

/-- The integer that the field of an item stands for. -/
def value : NumberField → Item → Option ℤ
  | version, item => item.version.map fun n ↦ (n.toNat : ℤ)
  | urgency, item => item.urgency.map Int64.toInt

/-- The item without the field. -/
def cleared : NumberField → Item → Item
  | version, item => { item with version := none }
  | urgency, item => { item with urgency := none }

/-- What is found for the field. -/
def found (f : NumberField) : Value → Option Value
  | .object members => members.lookup f.name
  | .array items => items[f.place]?
  | _ => none

/-- The value without the field. In an array the places of the others must stay, so there the field
is made null. -/
def removed (f : NumberField) : Value → Value
  | .object members => .object (Members.without f.name members)
  | .array items => .array (items.set f.place .null)
  | v => v

/-- What is found for the field is read as the number; a field that is left out is no number. -/
def Reads (f : NumberField) (found : Option Value) (o : Option ℤ) : Prop :=
  found.elim (o = none) (LenientNumber f.range · o)

variable {f : NumberField} {item item' : Item}

theorem reads_of_found {v x : Value} {o : Option ℤ} (h : f.found v = some x)
    (hx : LenientNumber f.range x o) : f.Reads (f.found v) o := by
  rw [h]
  exact hx

theorem ext_of_cleared (hvalue : f.value item = f.value item')
    (hcleared : f.cleared item = f.cleared item') : item = item' := by
  cases f with
  | version =>
    have hversion : item.version = item'.version :=
      Option.map_injective (fun n n' h ↦ UInt64.toNat_inj.mp (Int.ofNat_inj.mp h)) hvalue
    calc item = { cleared .version item with version := item.version } := rfl
      _ = { cleared .version item' with version := item'.version } := by rw [hcleared, hversion]
      _ = item' := rfl
  | urgency =>
    have hurgency : item.urgency = item'.urgency :=
      Option.map_injective (fun i i' h ↦ Int64.toInt_inj.mp h) hvalue
    calc item = { cleared .urgency item with urgency := item.urgency } := rfl
      _ = { cleared .urgency item' with urgency := item'.urgency } := by rw [hcleared, hurgency]
      _ = item' := rfl

theorem cleared_eq_self (h : f.value item = none) : f.cleared item = item := by
  cases f with
  | version =>
    have hversion : item.version = none := Option.map_eq_none_iff.mp h
    rw [cleared, ← hversion]
  | urgency =>
    have hurgency : item.urgency = none := Option.map_eq_none_iff.mp h
    rw [cleared, ← hurgency]

theorem exists_readsLenient (f : NumberField) :
    ∃ (α : Type) (d : Decoder (Option α)) (toInt : α → ℤ),
      Reading.withDefault f.name none d ∈ RecordKind.item.readings ∧
        d.ReadsLenient f.range toInt := by
  cases f with
  | version =>
    exact ⟨_, _, _, List.mem_of_getElem? (i := 1) rfl, Decoder.readsLenient_word64⟩
  | urgency => exact ⟨_, _, _, List.mem_of_getElem? (i := 8) rfl, Decoder.readsLenient_int64⟩

theorem exists_read_iff {α : Type} {d : Decoder (Option α)} {toInt : α → ℤ}
    (h : d.ReadsLenient f.range toInt) {found : Option Value} {o : Option ℤ} :
    (∃ a, (Reading.withDefault f.name none d).read found = some a ∧ a.map toInt = o) ↔
      f.Reads found o := by
  rcases found with _ | v
  · constructor
    · rintro ⟨a, ha, rfl⟩
      obtain rfl : none = a := Option.some.inj ha
      rfl
    · intro ho
      exact ⟨none, rfl, Eq.symm ho⟩
  · rw [Reads, Option.elim_some, ← h v o]
    exact exists_congr fun a ↦ and_congr_left fun _ ↦ toOption_eq_some_iff

/-- The field of an item that is read is a number. -/
theorem exists_reads {members : Members} (h : Item.decoder.ofValue (.object members) = .ok item) :
    ∃ o, f.Reads (members.lookup f.name) o := by
  rcases exists_readsLenient f with ⟨α, d, toInt, hmem, hd⟩
  rcases RecordKind.item.exists_shows with ⟨name, fields, heq, hshows⟩
  rcases hread : (Reading.withDefault f.name none d).read (members.lookup f.name) with _ | a
  · have hnone := hshows.eq_none members _ hmem hread
    rw [← Fields.toOption_ofValue_record_object name, ← heq] at hnone
    rw [← toOption_eq_some_iff] at h
    cases h.symm.trans hnone
  · exact ⟨_, (exists_read_iff hd).mp ⟨a, hread, rfl⟩⟩

/-- Two items with the same other fields can both be read or not, and they differ in the field
only. -/
theorem rel_of_reads {members members' : Members}
    (hothers : ∀ r ∈ RecordKind.item.readings, r.name ≠ f.name →
      members.lookup r.name = members'.lookup r.name) {o o' : Option ℤ}
    (ho : f.Reads (members.lookup f.name) o) (ho' : f.Reads (members'.lookup f.name) o') :
    Option.Rel
      (fun item item' ↦ f.value item = o ∧ f.value item' = o' ∧ f.cleared item = f.cleared item')
      (Item.decoder.ofValue (.object members)).toOption
      (Item.decoder.ofValue (.object members')).toOption := by
  have hown {α : Type} {d : Decoder (Option α)} {toInt : α → ℤ}
      (hd : d.ReadsLenient f.range toInt) :
      (Fields.withDefault f.name none d).Relates (fun ms ms' ↦ ms = members ∧ ms' = members')
        fun a a' ↦ a.map toInt = o ∧ a'.map toInt = o' := by
    refine Fields.relates_withDefault ?_
    rintro _ _ ⟨rfl, rfl⟩
    rcases (exists_read_iff hd).mpr ho with ⟨a, ha, hao⟩
    rcases (exists_read_iff hd).mpr ho' with ⟨a', ha', hao'⟩
    rw [ha, ha']
    exact .some ⟨hao, hao'⟩
  have hother {α : Type} {name : String} {default : α} {d : Decoder α}
      (hmem : Reading.withDefault name default d ∈ RecordKind.item.readings)
      (hname : name ≠ f.name) :
      (Fields.withDefault name default d).Relates (fun ms ms' ↦ ms = members ∧ ms' = members')
        (· = ·) := by
    refine Fields.relates_withDefault ?_
    rintro _ _ ⟨rfl, rfl⟩
    exact rel_eq_iff.mpr (congrArg _ (hothers _ hmem hname))
  have hrest : ∀ r ∈ RecordKind.item.readings, r.name ∉ Item.relatedNames →
      ∀ ms ms' : Members, ms = members ∧ ms' = members' →
        r.read (ms.lookup r.name) = r.read (ms'.lookup r.name) := by
    rintro r hr hname _ _ ⟨rfl, rfl⟩
    have hne : r.name ≠ f.name := fun heq ↦ hname (heq ▸ by cases f <;> decide)
    rw [hothers r hr hne]
  cases f with
  | version =>
    have hfields := Item.relates_fields hrest (hown Decoder.readsLenient_word64)
      (hother (List.mem_of_getElem? (i := 8) rfl) (by decide))
      (hother (List.mem_of_getElem? (i := 13) rfl) (by decide))
      (hother (List.mem_of_getElem? (i := 14) rfl) (by decide))
    refine rel_imp (fun item item' h ↦ ⟨h.version.1, h.version.2, ?_⟩)
      (hfields.record "RawFeedItem" ⟨rfl, rfl⟩)
    have hitem := h.others
    rw [← h.urgency, ← h.associations, ← h.renditions] at hitem
    rw [← hitem]
    rfl
  | urgency =>
    have hfields := Item.relates_fields hrest
      (hother (List.mem_of_getElem? (i := 1) rfl) (by decide)) (hown Decoder.readsLenient_int64)
      (hother (List.mem_of_getElem? (i := 13) rfl) (by decide))
      (hother (List.mem_of_getElem? (i := 14) rfl) (by decide))
    refine rel_imp (fun item item' h ↦ ⟨h.urgency.1, h.urgency.2, ?_⟩)
      (hfields.record "RawFeedItem" ⟨rfl, rfl⟩)
    have hitem := h.others
    rw [← h.version, ← h.associations, ← h.renditions] at hitem
    rw [← hitem]
    rfl

/-- An item goes by its members, and an array by those that its values are under the names of the
fields. So does the item without the field. -/
theorem exists_members {v : Value} {base : Item}
    (hbase : Item.decoder.ofValue (f.removed v) = .ok base) :
    ∃ members others : Members,
      (Item.decoder.ofValue v).toOption = (Item.decoder.ofValue (.object members)).toOption ∧
        members.lookup f.name = f.found v ∧
        (Item.decoder.ofValue (.object others)).toOption = some base ∧
        f.Reads (others.lookup f.name) none ∧
        ∀ r ∈ RecordKind.item.readings, r.name ≠ f.name →
          members.lookup r.name = others.lookup r.name := by
  rw [← toOption_eq_some_iff] at hbase
  rcases v with _ | _ | _ | _ | items | members
  case object =>
    refine ⟨members, Members.without f.name members, rfl, rfl, hbase, ?_, fun r _ hname ↦ ?_⟩
    · rw [Members.lookup_without_self]
      rfl
    · exact (Members.lookup_without_of_ne hname members).symm
  case array =>
    have hnames := RecordKind.item.nodup_fieldNames
    have hplace : RecordKind.item.fieldNames[f.place]? = some f.name := by cases f <;> rfl
    have harray := RecordKind.item.toOption_ofValue_array
    rw [removed] at hbase
    have hlength : items.length ≤ RecordKind.item.fieldNames.length := by
      by_contra hlength
      rw [← List.length_set] at hlength
      cases hbase.symm.trans ((harray _).trans (if_neg hlength))
    refine ⟨_, _, (harray items).trans (if_pos hlength), lookup_zip hnames items hplace,
      ((harray _).trans (if_pos (List.length_set.trans_le hlength))).symm.trans hbase, ?_, ?_⟩
    · rw [lookup_zip hnames _ hplace, List.getElem?_set_self']
      rcases items[f.place]? with _ | v
      · rfl
      · exact .null
    · intro r hr hname
      rcases List.mem_iff_getElem?.mp (List.mem_map_of_mem (f := Reading.name) hr) with ⟨i, hi⟩
      rw [RecordKind.map_name_readings] at hi
      have hne : f.place ≠ i := by
        rintro rfl
        exact hname (Option.some.inj (hi.symm.trans hplace))
      rw [lookup_zip hnames _ hi, lookup_zip hnames _ hi, List.getElem?_set_ne hne]
  all_goals cases hbase

section Given

variable {v : Value} {base : Item} (hbase : Item.decoder.ofValue (f.removed v) = .ok base)
include hbase

theorem exists_item_of_reads {o : Option ℤ} (ho : f.Reads (f.found v) o) :
    ∃ item, Item.decoder.ofValue v = .ok item ∧ f.value item = o ∧ f.cleared item = base := by
  rcases exists_members hbase with ⟨members, others, hread, hfound, hothers, hnone, hlookup⟩
  have hrel := rel_of_reads hlookup (hfound ▸ ho) hnone
  rw [hothers] at hrel
  rcases hitem : (Item.decoder.ofValue (.object members)).toOption with _ | item
  · rw [hitem] at hrel
    cases hrel
  · rw [hitem] at hrel
    rcases hrel with ⟨hvalue, hbaseValue, hcleared⟩
    refine ⟨item, toOption_eq_some_iff.mp (hread.trans hitem), hvalue, ?_⟩
    rw [hcleared, cleared_eq_self hbaseValue]

theorem reads_of_ok (h : Item.decoder.ofValue v = .ok item) :
    f.Reads (f.found v) (f.value item) ∧ f.cleared item = base := by
  rcases exists_members hbase with ⟨members, -, hread, hfound, -, -, -⟩
  have hitem := toOption_eq_some_iff.mp (hread.symm.trans (toOption_eq_some_iff.mpr h))
  rcases exists_reads (f := f) hitem with ⟨o, ho⟩
  rw [hfound] at ho
  rcases exists_item_of_reads hbase ho with ⟨item', hitem', rfl, hcleared⟩
  obtain rfl : item = item' := Except.ok.inj (h.symm.trans hitem')
  exact ⟨ho, hcleared⟩

theorem exists_error (h : ∀ o, ¬f.Reads (f.found v) o) :
    ∃ m, Item.decoder.ofValue v = .error m := by
  rcases hread : Item.decoder.ofValue v with m | item
  · exact ⟨m, rfl⟩
  · exact absurd (reads_of_ok hbase hread).1 (h _)

end Given

end NumberField

/-- **A number may be written as a text.** If an item can be read without its version or its
urgency, what is found for this field decides whether it can be read with it, and the field is all
that it adds. Every text is read. What is neither null nor a text nor a whole number of the range is
refused. A number of the range and a decimal text of it, with further zeros in it and blanks around
it, give the same item. The version of a payload is the version of the item without further zeros,
and `0` if there is none. -/
theorem Item.ofValue_number (f : NumberField) {v : Value} {base : Item}
    (hbase : Item.decoder.ofValue (f.removed v) = .ok base) :
    (∀ item, Item.decoder.ofValue v = .ok item →
      f.Reads (f.found v) (f.value item) ∧ f.cleared item = base) ∧
    (∀ o, f.Reads (f.found v) o → ∃ item, Item.decoder.ofValue v = .ok item ∧ f.value item = o) ∧
    (∀ s, f.found v = some (.string s) → ∃ item, Item.decoder.ofValue v = .ok item) ∧
    (∀ x, f.found v = some x → x ≠ .null → (∀ s, x ≠ .string s) →
      (∀ i, f.range.min ≤ i → i ≤ f.range.max → x ≠ .ofInt i) →
        ∃ m, Item.decoder.ofValue v = .error m) ∧
    (∀ i zeros before after, f.range.min ≤ i → i ≤ f.range.max →
      (∀ c ∈ before, Text.isBlank c = true) → (∀ c ∈ after, Text.isBlank c = true) →
      f.found v = some (.ofInt i) → ∀ v', f.removed v' = f.removed v →
        f.found v' = some (.string (.ofList (before ++ (Text.decimalText zeros i ++ after)))) →
          ∃ item, Item.decoder.ofValue v = .ok item ∧ Item.decoder.ofValue v' = .ok item ∧
            f.value item = some i) ∧
    ∀ item (n : ℕ), (NumberField.version.value item).getD 0 = n → ∀ feedTag document content,
      Text.Canonical n (Payload.ofItem feedTag item document content).body.version.toList := by
  refine ⟨fun item ↦ NumberField.reads_of_ok hbase, fun o ho ↦ ?_, fun s hs ↦ ?_, ?_, ?_, ?_⟩
  · rcases NumberField.exists_item_of_reads hbase ho with ⟨item, hitem, hvalue, -⟩
    exact ⟨item, hitem, hvalue⟩
  · have hreads := NumberField.reads_of_found hs (lenientNumber_string_iff.mpr rfl)
    rcases NumberField.exists_item_of_reads hbase hreads with ⟨item, hitem, -, -⟩
    exact ⟨item, hitem⟩
  · intro x hx hnull hstring hint
    refine NumberField.exists_error hbase fun o ho ↦ ?_
    rw [hx] at ho
    rcases ho with _ | ⟨hmin, hmax⟩ | _ | _
    · exact hnull rfl
    · exact hint _ hmin hmax rfl
    · exact hstring _ rfl
    · exact hstring _ rfl
  · intro i zeros before after hmin hmax hbefore hafter hnumber v' hremoved htext
    have hpadded : Text.PaddedNumeral (f.range.min < 0) i
        (String.ofList (before ++ (Text.decimalText zeros i ++ after))).toList := by
      rw [String.toList_ofList]
      exact ⟨before, _, after, rfl, hbefore, hafter,
        Text.numeral_decimalText zeros fun hneg ↦ Int.lt_of_le_of_lt hmin hneg⟩
    have hreads := NumberField.reads_of_found hnumber (.number hmin hmax)
    have hreads' := NumberField.reads_of_found htext (.numeral hpadded hmin hmax)
    rcases NumberField.exists_item_of_reads hbase hreads with ⟨item, hitem, hvalue, hcleared⟩
    rcases NumberField.exists_item_of_reads (hremoved ▸ hbase) hreads' with
      ⟨item', hitem', hvalue', hcleared'⟩
    obtain rfl : item = item' :=
      NumberField.ext_of_cleared (hvalue.trans hvalue'.symm) (hcleared.trans hcleared'.symm)
    exact ⟨item, hitem, hitem', hvalue⟩
  · intro item n hn feedTag document content
    have hversion : (item.version.getD 0).toNat = n := by
      rw [NumberField.value] at hn
      rcases hword : item.version with _ | word
      · rw [hword] at hn
        exact Int.ofNat_inj.mp hn
      · rw [hword] at hn
        exact Int.ofNat_inj.mp hn
    rw [Payload.ofItem, String.toList_ofList, hversion]
    exact Text.canonical_toDigits n

/-- An urgent item of some version. -/
def urgentOf (version : Value) : Value := .object [("urgency", .ofInt 5), ("version", version)]

theorem Item.ofValue_number_sample :
    ∃ base item,
      Item.decoder.ofValue (NumberField.version.removed (urgentOf (.ofInt 7))) = .ok base ∧
      Item.decoder.ofValue (urgentOf (.ofInt 7)) = .ok item ∧
      Item.decoder.ofValue (urgentOf (.string "\u00a0007 ")) = .ok item ∧
      NumberField.version.value item = some 7 := by
  have hbase : Item.decoder.ofValue (NumberField.version.removed (urgentOf (.ofInt 7))) =
      .ok { (default : Item) with urgency := some 5 } := rfl
  rcases Item.ofValue_number .version hbase with ⟨-, -, -, -, hsame, -⟩
  rcases hsame 7 2 ['\u00a0'] [' '] (by decide) (by decide) (List.forall_mem_singleton.mpr rfl)
    (List.forall_mem_singleton.mpr rfl) rfl (urgentOf (.string "\u00a0007 ")) rfl rfl with
    ⟨item, hnumber, htext, hvalue⟩
  exact ⟨_, item, hbase, hnumber, htext, hvalue⟩

end NewsWire.Feed

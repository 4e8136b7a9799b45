import Mathlib.Data.List.Nodup
import NewsWire.Feed.Page
import NewsWire.Proofs.Fields

/-!
# Null fields

Every field of an item, and of the records in it, may be left out. A field of a single value may
also be null, and then it reads as if it were left out. A list or a map may not: null in its place
is refused, and the whole item with it, wherever in the item the record stands
(`Item.ofValue_null`).

The records of an item stand in optional fields, in lists and in maps. What is common to these is
that the outer reader reads the same when the inner one does, and fails when it fails
(`Decoder.Holds`). So a change to a record deep in an item is judged by the reader of this record
alone.

Nothing in the format of the feed sets the fields that refuse null apart from the others: all of
them may be left out, and a feed that writes null for what it leaves out loses its items by it. The
entries of a page are a list as well, and null in their place reads as if they were left out.
-/

namespace NewsWire.Json

variable {α β γ : Type}

/-! ## Records in a value -/

/-- A step from a value to a part of it. -/
inductive PathStep where
  | member (key : String)
  | index (i : ℕ)
  deriving DecidableEq

/-- The value with the members of the object at a path changed. Where the path leads nowhere nothing
is changed. -/
def Value.alterAt (f : Members → Members) : List PathStep → Value → Value
  | [], .object members => .object (f members)
  | .member key :: path, .object members => .object (Members.alter key (alterAt f path) members)
  | .index i :: path, .array items => .array (items.modify i (alterAt f path))
  | _, v => v

/-- The members of the object at a path. -/
def Value.membersAt? : List PathStep → Value → Option Members
  | [], .object members => some members
  | .member key :: path, .object members => (members.lookup key).bind (membersAt? path)
  | .index i :: path, .array items => items[i]?.bind (membersAt? path)
  | _, _ => none

/-- The members without those under a key. -/
def Members.without (key : String) (members : Members) : Members :=
  members.filter fun m ↦ m.1 != key

theorem Members.lookup_without_self (key : String) (members : Members) :
    (Members.without key members).lookup key = none := by
  rw [List.lookup_eq_none_iff]
  intro m hm
  rw [without, List.mem_filter, bne_comm] at hm
  exact hm.2

theorem Members.lookup_without_of_ne {key other : String} (h : other ≠ key) (members : Members) :
    (Members.without key members).lookup other = members.lookup other := by
  induction members with
  | nil => rfl
  | cons m rest ih =>
    rcases m with ⟨k, v⟩
    rw [without, List.filter_cons, ← without]
    by_cases hk : k = key
    · have hbeq : (other == k) = false := by simpa [hk] using h
      rw [if_neg (by simp [hk]), ih, List.lookup_cons, hbeq]
    · rw [if_pos (by simpa using hk), List.lookup_cons, List.lookup_cons, ih]

theorem Value.alterAt_null (f : Members → Members) (path : List PathStep) :
    Value.alterAt f path .null = .null := by
  rcases path with _ | ⟨_ | _, path⟩ <;> rfl

theorem Value.alterAt_eq_null_iff {f : Members → Members} {path : List PathStep} {v : Value} :
    Value.alterAt f path v = .null ↔ v = .null := by
  constructor
  · intro h
    rcases v with _ | _ | _ | _ | _ | _
    · rfl
    all_goals rcases path with _ | ⟨_ | _, path⟩ <;> cases h
  · rintro rfl
    exact alterAt_null f path

/-! ## Readers in readers -/

namespace Decoder

/-- The same is read after either of two changes to the object at a path. -/
def AgreesAt (d : Decoder α) (path : List PathStep) (f g : Members → Members) : Prop :=
  ∀ v : Value, (d.ofValue (v.alterAt f path)).toOption = (d.ofValue (v.alterAt g path)).toOption

/-- Nothing is read after a change to the object at a path. -/
def FailsAt (d : Decoder α) (path : List PathStep) (f : Members → Members) : Prop :=
  ∀ v : Value, (v.membersAt? path).isSome → (d.ofValue (v.alterAt f path)).toOption = none

/-- After these steps the outer reader goes by the inner one. -/
structure Holds (outer : Decoder α) (steps : List PathStep) (inner : Decoder β) : Prop where
  agrees : ∀ path f g, inner.AgreesAt path f g → outer.AgreesAt (steps ++ path) f g
  fails : ∀ path f, inner.FailsAt path f → outer.FailsAt (steps ++ path) f

variable {d : Decoder α} {steps more : List PathStep}

theorem holds_self (d : Decoder α) : d.Holds [] d := ⟨fun _ _ _ h ↦ h, fun _ _ h ↦ h⟩

theorem Holds.trans {outer : Decoder α} {middle : Decoder β} {inner : Decoder γ}
    (h : outer.Holds steps middle) (h' : middle.Holds more inner) :
    outer.Holds (steps ++ more) inner where
  agrees path f g hinner := by
    rw [List.append_assoc]
    exact h.agrees _ f g (h'.agrees path f g hinner)
  fails path f hinner := by
    rw [List.append_assoc]
    exact h.fails _ f (h'.fails path f hinner)

theorem toOption_ofValue_optional {v : Value} (h : v ≠ .null) :
    (d.optional.ofValue v).toOption = (d.ofValue v).toOption.map some := by
  rw [ofValue_optional h]
  cases d.ofValue v <;> rfl

theorem holds_optional (d : Decoder α) : d.optional.Holds [] d where
  agrees path f g h v := by
    by_cases hv : v = .null
    · rw [hv, List.nil_append, Value.alterAt_null, Value.alterAt_null]
    · have hne (f : Members → Members) : v.alterAt f path ≠ .null :=
        mt Value.alterAt_eq_null_iff.mp hv
      rw [List.nil_append, toOption_ofValue_optional (hne f), toOption_ofValue_optional (hne g),
        h v]
  fails path f h v hv := by
    have hne : v ≠ .null := by
      rintro rfl
      rcases path with _ | ⟨_ | _, path⟩ <;> cases hv
    rw [List.nil_append, toOption_ofValue_optional (mt Value.alterAt_eq_null_iff.mp hne), h v hv,
      Option.map_none]

theorem toOption_ofValue_list (d : Decoder α) (items : List Value) :
    (d.list.ofValue (.array items)).toOption = items.mapM fun v ↦ (d.ofValue v).toOption :=
  toOption_mapM d.ofValue items

theorem holds_list (d : Decoder α) (i : ℕ) : d.list.Holds [.index i] d where
  agrees path f g h v := by
    rcases v with _ | _ | _ | _ | items | _
    case array =>
      rw [List.singleton_append, Value.alterAt, Value.alterAt, toOption_ofValue_list,
        toOption_ofValue_list]
      refine mapM_eq_of_map_eq (List.ext_getElem? fun j ↦ ?_)
      rw [List.getElem?_map, List.getElem?_map, List.getElem?_modify, List.getElem?_modify]
      by_cases hj : i = j
      · rcases items[j]? with _ | w
        · rfl
        · simp [hj, h w]
      · simp [hj]
    all_goals rfl
  fails path f h v hv := by
    rcases v with _ | _ | _ | _ | items | _
    case array =>
      rw [List.singleton_append, Value.membersAt?] at hv
      rcases hitem : items[i]? with _ | w
      · rw [hitem] at hv
        cases hv
      · rw [hitem, Option.bind_some] at hv
        rw [List.singleton_append, Value.alterAt, toOption_ofValue_list]
        refine mapM_eq_none_of_mem (List.mem_of_getElem? (i := i) ?_) (h w hv)
        rw [List.getElem?_modify_eq, hitem]
        rfl
    all_goals cases hv

theorem toOption_ofValue_map (d : Decoder α) (members : Members) :
    (d.map.ofValue (.object members)).toOption =
      members.mapM fun m ↦ (d.ofValue m.2).toOption.map (m.1, ·) := by
  refine (toOption_mapM _ members).trans ?_
  congr 1
  funext ⟨k, v⟩
  change ((d.ofValue v).map (k, ·)).toOption = (d.ofValue v).toOption.map (k, ·)
  cases d.ofValue v <;> rfl

theorem holds_map (d : Decoder α) (key : String) : d.map.Holds [.member key] d where
  agrees path f g h v := by
    rcases v with _ | _ | _ | _ | _ | members
    case object =>
      rw [List.singleton_append, Value.alterAt, Value.alterAt, toOption_ofValue_map,
        toOption_ofValue_map]
      refine mapM_eq_of_map_eq ?_
      rw [Members.alter, Members.alter, List.map_map, List.map_map]
      refine List.map_congr_left fun m _ ↦ ?_
      by_cases hkey : m.1 = key
      · simp [hkey, h m.2]
      · simp [hkey]
    all_goals rfl
  fails path f h v hv := by
    rcases v with _ | _ | _ | _ | _ | members
    case object =>
      rw [List.singleton_append, Value.membersAt?] at hv
      rcases hlookup : members.lookup key with _ | w
      · rw [hlookup] at hv
        cases hv
      · rw [hlookup, Option.bind_some] at hv
        have hmem : (key, w) ∈ members := by
          rcases List.lookup_eq_some_iff.mp hlookup with ⟨before, after, rfl, -⟩
          exact List.mem_append_right before List.mem_cons_self
        rw [List.singleton_append, Value.alterAt, toOption_ofValue_map]
        refine mapM_eq_none_of_mem (List.mem_map_of_mem hmem) ?_
        rw [if_pos rfl, h w hv, Option.map_none]
    all_goals cases hv

end Decoder

/-! ## Records in records -/

section Record

variable {fields : Fields α} {readings : List Reading} {name key : String}

/-- Of fields with different names one is looked at under its name. -/
theorem eq_of_mem_readings (hnames : (readings.map Reading.name).Nodup) {r r' : Reading}
    (hr : r ∈ readings) (hr' : r' ∈ readings) (h : r.name = r'.name) : r = r' :=
  List.inj_on_of_nodup_map hnames hr hr' h

theorem Fields.Shows.holds (hshows : fields.Shows readings)
    (hnames : (readings.map Reading.name).Nodup) {default : β} {d : Decoder β}
    (hmem : Reading.withDefault key default d ∈ readings) :
    (Fields.record name fields).Holds [.member key] d where
  agrees path f g h v := by
    rcases v with _ | _ | _ | _ | _ | members
    case object =>
      rw [List.singleton_append, Value.alterAt, Value.alterAt,
        Fields.toOption_ofValue_record_object, Fields.toOption_ofValue_record_object]
      refine hshows.congr _ _ fun r hr ↦ ?_
      rw [Members.lookup_alter, Members.lookup_alter]
      by_cases hkey : r.name = key
      · obtain rfl := eq_of_mem_readings hnames hr hmem hkey
        rw [if_pos hkey, if_pos hkey]
        rcases members.lookup _ with _ | w
        · rfl
        · exact h w
      · rw [if_neg hkey, if_neg hkey]
    all_goals rfl
  fails path f h v hv := by
    rcases v with _ | _ | _ | _ | _ | members
    case object =>
      rw [List.singleton_append, Value.membersAt?] at hv
      rcases hlookup : members.lookup key with _ | w
      · rw [hlookup] at hv
        cases hv
      · rw [hlookup, Option.bind_some] at hv
        rw [List.singleton_append, Value.alterAt, Fields.toOption_ofValue_record_object]
        refine hshows.eq_none _ _ hmem ?_
        have hname : (Reading.withDefault key default d).name = key := rfl
        rw [Members.lookup_alter, if_pos hname, hname, hlookup]
        exact h w hv
    all_goals cases hv

/-- Where null reads as nothing, setting a field to null is removing it. -/
theorem Fields.Shows.agreesAt_null (hshows : fields.Shows readings)
    (hnull : ∀ r ∈ readings, r.name = key → r.read (some .null) = r.read none) :
    (Fields.record name fields).AgreesAt [] (Members.insert key .null) (Members.without key) := by
  intro v
  rcases v with _ | _ | _ | _ | _ | members
  case object =>
    rw [Value.alterAt, Value.alterAt, Fields.toOption_ofValue_record_object,
      Fields.toOption_ofValue_record_object]
    refine hshows.congr _ _ fun r hr ↦ ?_
    by_cases hkey : r.name = key
    · rw [hkey, Members.lookup_insert_self, Members.lookup_without_self, hnull r hr hkey]
    · rw [Members.lookup_insert_of_ne _ _ hkey, Members.lookup_without_of_ne hkey]
  all_goals rfl

/-- Where null is refused, setting a field to null makes the record fail. -/
theorem Fields.Shows.failsAt_null (hshows : fields.Shows readings) {r : Reading}
    (hr : r ∈ readings) (hnull : r.read (some .null) = none) :
    (Fields.record name fields).FailsAt [] (Members.insert r.name .null) := by
  intro v hv
  rcases v with _ | _ | _ | _ | _ | members
  case object =>
    rw [Value.alterAt, Fields.toOption_ofValue_record_object]
    refine hshows.eq_none _ r hr ?_
    rw [Members.lookup_insert_self, hnull]
  all_goals cases hv

end Record

end NewsWire.Json

namespace NewsWire.Feed

open NewsWire.Json

/-! ## The records of an item

The kinds of records are the values of a type, and each has its reader, the names of its fields and
which of them hold lists or maps. A statement about all fields of all records is then one statement,
and the table is what a reader of the documentation has to compare. -/

/-- The records that make up an item. -/
inductive RecordKind where
  | item
  | altIds
  | byline
  | subject
  | association
  | rendition
  deriving DecidableEq

namespace RecordKind

/-- What a record of a kind is read as. -/
abbrev Record : RecordKind → Type
  | item => Item
  | altIds => AltIds
  | byline => Byline
  | subject => Subject
  | association => Association
  | rendition => Rendition

def decoder : (kind : RecordKind) → Decoder kind.Record
  | item => Item.decoder
  | altIds => AltIds.decoder
  | byline => Byline.decoder
  | subject => Subject.decoder
  | association => Association.decoder
  | rendition => Rendition.decoder

/-- The names of the fields that a reader of records looks for. -/
def fieldNames (kind : RecordKind) : List String :=
  match kind.decoder.schema with
  | .record _ table => table.map Prod.fst
  | _ => []

/-- The fields of a record that hold a list or a map. -/
def collections : RecordKind → List String
  | item => ["bylines", "subject", "keywords", "associations", "renditions"]
  | subject => ["rels"]
  | _ => []

/-- The readings of the fields of a record, in order. -/
def readings : RecordKind → List Reading
  | item =>
    [.optional "altids" AltIds.decoder, .withDefault "version" none .lenientWord64,
      .optional "type" .text, .optional "pubstatus" .text, .optional "firstcreated" .text,
      .optional "versioncreated" .text, .optional "title" .text, .optional "headline" .text,
      .withDefault "urgency" none .lenientInt64, .optional "ednote" .text,
      .withDefault "bylines" [] (.list Byline.decoder),
      .withDefault "subject" [] (.list Subject.decoder), .withDefault "keywords" [] (.list .text),
      .withDefault "associations" [] (.map Association.decoder),
      .withDefault "renditions" [] (.map Rendition.decoder)]
  | altIds => [.optional "etag" .text, .optional "itemid" .text]
  | byline => [.optional "by" .text]
  | subject => [.optional "name" .text, .withDefault "rels" [] (.list .text)]
  | association =>
    [.optional "type" .text, .optional "itemid" .text, .optional "altids" AltIds.decoder]
  | rendition => [.optional "href" .text]

/-- A reader of records is put together from the readings of its fields. -/
theorem exists_shows (kind : RecordKind) :
    ∃ name fields, kind.decoder = Fields.record name fields ∧ fields.Shows kind.readings := by
  cases kind with
  | item =>
    refine ⟨"RawFeedItem", Item.fields, rfl, ?_⟩
    exact (Fields.shows_optional "altids" AltIds.decoder).map Item.mk
      |>.seq (Fields.shows_withDefault "version" none .lenientWord64)
      |>.seq (Fields.shows_optional "type" .text)
      |>.seq (Fields.shows_optional "pubstatus" .text)
      |>.seq (Fields.shows_optional "firstcreated" .text)
      |>.seq (Fields.shows_optional "versioncreated" .text)
      |>.seq (Fields.shows_optional "title" .text)
      |>.seq (Fields.shows_optional "headline" .text)
      |>.seq (Fields.shows_withDefault "urgency" none .lenientInt64)
      |>.seq (Fields.shows_optional "ednote" .text)
      |>.seq (Fields.shows_withDefault "bylines" [] (.list Byline.decoder))
      |>.seq (Fields.shows_withDefault "subject" [] (.list Subject.decoder))
      |>.seq (Fields.shows_withDefault "keywords" [] (.list .text))
      |>.seq (Fields.shows_withDefault "associations" [] (.map Association.decoder))
      |>.seq (Fields.shows_withDefault "renditions" [] (.map Rendition.decoder))
  | altIds =>
    exact ⟨"AltIds", _, rfl, (Fields.shows_optional "etag" .text).map AltIds.mk
      |>.seq (Fields.shows_optional "itemid" .text)⟩
  | byline => exact ⟨"Byline", _, rfl, (Fields.shows_optional "by" .text).map Byline.mk⟩
  | subject =>
    exact ⟨"Subject", _, rfl, (Fields.shows_optional "name" .text).map Subject.mk
      |>.seq (Fields.shows_withDefault "rels" [] (.list .text))⟩
  | association =>
    exact ⟨"Association", _, rfl, (Fields.shows_optional "type" .text).map Association.mk
      |>.seq (Fields.shows_optional "itemid" .text)
      |>.seq (Fields.shows_optional "altids" AltIds.decoder)⟩
  | rendition => exact ⟨"Rendition", _, rfl, (Fields.shows_optional "href" .text).map Rendition.mk⟩

theorem map_name_readings (kind : RecordKind) :
    kind.readings.map Reading.name = kind.fieldNames := by
  cases kind <;> rfl

theorem nodup_fieldNames (kind : RecordKind) : kind.fieldNames.Nodup := by
  cases kind <;> decide

/-- Null is refused by the fields that hold a list or a map, and is nothing to the others. -/
theorem read_null (kind : RecordKind) : ∀ r ∈ kind.readings,
    r.read (some .null) = if r.name ∈ kind.collections then none else r.read none := by
  -- Each field is looked at by itself, and what it reads null as is computed.
  cases kind <;>
    simp only [readings, List.forall_mem_cons, List.not_mem_nil, IsEmpty.forall_iff, implies_true,
      and_true] <;>
    and_intros <;> rfl

theorem holds_field (kind : RecordKind) {α : Type} {key : String} {default : α} {d : Decoder α}
    (hmem : Reading.withDefault key default d ∈ kind.readings) :
    kind.decoder.Holds [.member key] d := by
  rcases kind.exists_shows with ⟨name, fields, heq, hshows⟩
  rw [heq]
  exact hshows.holds (kind.map_name_readings ▸ kind.nodup_fieldNames) hmem

theorem exists_mem_readings {kind : RecordKind} {field : String} (h : field ∈ kind.fieldNames) :
    ∃ r ∈ kind.readings, r.name = field := by
  rwa [← map_name_readings, List.mem_map] at h

/-- A field of a single value that is null reads as if it were left out. -/
theorem agreesAt_null (kind : RecordKind) {field : String} (h : field ∉ kind.collections) :
    kind.decoder.AgreesAt [] (Members.insert field .null) (Members.without field) := by
  rcases kind.exists_shows with ⟨name, fields, heq, hshows⟩
  rw [heq]
  refine hshows.agreesAt_null fun r hr hname ↦ ?_
  rw [kind.read_null r hr, hname, if_neg h]

/-- A record with a list or a map that is null is refused. -/
theorem failsAt_null (kind : RecordKind) {field : String} (hfield : field ∈ kind.fieldNames)
    (h : field ∈ kind.collections) : kind.decoder.FailsAt [] (Members.insert field .null) := by
  rcases exists_mem_readings hfield with ⟨r, hr, rfl⟩
  rcases kind.exists_shows with ⟨name, fields, heq, hshows⟩
  rw [heq]
  refine hshows.failsAt_null hr ?_
  rw [kind.read_null r hr, if_pos h]

end RecordKind

/-! ## Where records stand

A place is a finite path from an item to a record in it. There are seven kinds of places, and
`holds` is shown by walking each path with the lemmas for lists, maps and optional fields. -/

/-- The places of records in an item. -/
inductive Place where
  | item
  | altIds
  | byline (i : ℕ)
  | subject (i : ℕ)
  | association (key : String)
  | associationAltIds (key : String)
  | rendition (key : String)

namespace Place

def kind : Place → RecordKind
  | item => .item
  | altIds | associationAltIds _ => .altIds
  | byline _ => .byline
  | subject _ => .subject
  | association _ => .association
  | rendition _ => .rendition

/-- The way from an item to the record at a place. -/
def path : Place → List PathStep
  | item => []
  | altIds => [.member "altids"]
  | byline i => [.member "bylines", .index i]
  | subject i => [.member "subject", .index i]
  | association key => [.member "associations", .member key]
  | associationAltIds key => [.member "associations", .member key, .member "altids"]
  | rendition key => [.member "renditions", .member key]

/-- An item goes by the reader of the record at each place. -/
theorem holds (place : Place) : Item.decoder.Holds place.path place.kind.decoder := by
  have halt : Item.decoder.Holds [.member "altids"] AltIds.decoder.optional :=
    RecordKind.item.holds_field (List.mem_of_getElem? (i := 0) rfl)
  have hbylines : Item.decoder.Holds [.member "bylines"] (.list Byline.decoder) :=
    RecordKind.item.holds_field (List.mem_of_getElem? (i := 10) rfl)
  have hsubjects : Item.decoder.Holds [.member "subject"] (.list Subject.decoder) :=
    RecordKind.item.holds_field (List.mem_of_getElem? (i := 11) rfl)
  have hassociations (key : String) :
      Item.decoder.Holds [.member "associations", .member key] Association.decoder :=
    (RecordKind.item.holds_field (List.mem_of_getElem? (i := 13) rfl)).trans
      (Decoder.holds_map Association.decoder key)
  have hrenditions : Item.decoder.Holds [.member "renditions"] (.map Rendition.decoder) :=
    RecordKind.item.holds_field (List.mem_of_getElem? (i := 14) rfl)
  have hinner : Association.decoder.Holds [.member "altids"] AltIds.decoder.optional :=
    RecordKind.association.holds_field (List.mem_of_getElem? (i := 2) rfl)
  cases place with
  | item => exact Decoder.holds_self Item.decoder
  | altIds => exact halt.trans (Decoder.holds_optional AltIds.decoder)
  | byline i => exact hbylines.trans (Decoder.holds_list Byline.decoder i)
  | subject i => exact hsubjects.trans (Decoder.holds_list Subject.decoder i)
  | association key => exact hassociations key
  | associationAltIds key =>
    exact ((hassociations key).trans hinner).trans (Decoder.holds_optional AltIds.decoder)
  | rendition key => exact hrenditions.trans (Decoder.holds_map Rendition.decoder key)

end Place

/-! ## Fields that are null -/

/-- A field of a single value that is null reads as if it were left out. A list or a map that is
null is refused, and the item with it. -/
theorem Item.ofValue_null (place : Place) {field : String} (hfield : field ∈ place.kind.fieldNames)
    (v : Value) :
    (field ∉ place.kind.collections →
      (Item.decoder.ofValue (v.alterAt (Members.insert field .null) place.path)).toOption =
        (Item.decoder.ofValue (v.alterAt (Members.without field) place.path)).toOption) ∧
    (field ∈ place.kind.collections → (v.membersAt? place.path).isSome →
      (Item.decoder.ofValue (v.alterAt (Members.insert field .null) place.path)).toOption =
        none) := by
  constructor
  · intro h
    have hagrees := place.holds.agrees [] _ _ (place.kind.agreesAt_null h) v
    rwa [List.append_nil] at hagrees
  · intro h hv
    have hfails := place.holds.fails [] _ (place.kind.failsAt_null hfield h) v
    rw [List.append_nil] at hfails
    exact hfails hv

theorem Item.ofValue_null_sample :
    "by" ∈ (Place.byline 0).kind.fieldNames ∧ "rels" ∈ (Place.subject 0).kind.fieldNames ∧
      (Item.decoder.ofValue
          (.object [("bylines", .array [.object [("by", .null)]])])).toOption =
        (Item.decoder.ofValue (.object [("bylines", .array [.object []])])).toOption ∧
      (Item.decoder.ofValue (.object [("subject",
          .array [.object [("name", .string "War"), ("rels", .null)]])])).toOption = none := by
  have hby : "by" ∈ (Place.byline 0).kind.fieldNames := by decide
  have hrels : "rels" ∈ (Place.subject 0).kind.fieldNames := by decide
  refine ⟨hby, hrels, ?_, ?_⟩
  · exact (Item.ofValue_null (.byline 0) hby
      (.object [("bylines", .array [.object [("by", .string "A. Writer")]])])).1 (by decide)
  · exact (Item.ofValue_null (.subject 0) hrels
      (.object [("subject", .array [.object [("name", .string "War")]])])).2 (by decide) rfl

/-- An item without authors is read, but the same item with null for its authors is refused, and
the entry that holds it is dropped. -/
theorem readEntry_of_null_bylines :
    (Item.decoder.ofValue (.object (Members.insert "bylines" .null []))).toOption ≠
        (Item.decoder.ofValue (.object (Members.without "bylines" []))).toOption ∧
      (readEntry (.object [("item", .object [])])).toOption.isSome ∧
      readEntry (.object [("item", .object [("bylines", .null)])]) =
        .error (.malformed none (.wrongType .null "a sequence")) := by
  refine ⟨?_, rfl, rfl⟩
  intro h
  cases h

end NewsWire.Feed

import NewsWire.Proofs.Alike
import NewsWire.Proofs.Written

/-!
# The order of members

An item does not depend on the order in which its members come, nor on members that are not its
own. This holds of every record in it as well, wherever the record stands, and of the map of its
renditions (`Item.ofValue_rearranged`). One order does count, that of the associations, and it is
kept.

`Rearranged` says what may become of a record. Its members may come in another order and have others
among them, and each of its fields may change in its own way. The changes of the fields are listed
once for each record, and only the list of an item says where further records stand.

A field is found under its name as long as keys differ, so a field finds its own value, changed or
not, in what is rearranged (`Rearranged.lookup`). The rest is what records are read as, given what
their fields find.
-/

namespace NewsWire.Json

variable {α : Type}

/-! ## Changes

A relation between values is more than a permutation of members: a record may stand in a record, and
both be rearranged at once. `FieldChange` attaches to each field what may become of its value, so
the relation of an item refers to those of its parts, and each is as exact as the record needs. -/

/-- A field of a record, and what may become of its value. -/
abbrev FieldChange := String × (Value → Value → Prop)

/-- The key stays, and the value of a field changes in the way of the field. Any other value
stays. -/
structure MemberChange (fields : List FieldChange) (m m' : String × Value) : Prop where
  key_eq : m.1 = m'.1
  known : ∀ field ∈ fields, field.1 = m.1 → field.2 m.2 m'.2
  unknown : m.1 ∉ fields.map Prod.fst → m.2 = m'.2

/-- What may become of a record with these fields. The members of an object may come in another
order and have others among them that are no fields. The values of an array are fields by their
places. -/
inductive Rearranged (fields : List FieldChange) : Value → Value → Prop
  | same (v : Value) : Rearranged fields v v
  | object {members changed more members' : Members} :
      List.Forall₂ (MemberChange fields) members changed →
      (∀ m ∈ more, m.1 ∉ fields.map Prod.fst) → members'.Perm (changed ++ more) →
      (members'.map Prod.fst).Nodup → Rearranged fields (.object members) (.object members')
  | array {items items' : List Value} : items.length = items'.length →
      (∀ (i : ℕ) field, fields[i]? = some field → Option.Rel field.2 items[i]? items'[i]?) →
      Rearranged fields (.array items) (.array items')

/-- What may become of a list of records. -/
inductive Listed (R : Value → Value → Prop) : Value → Value → Prop
  | same (v : Value) : Listed R v v
  | array {items items' : List Value} : List.Forall₂ R items items' →
      Listed R (.array items) (.array items')

/-- The key of an entry stays, and its value changes. -/
inductive EntryChange (R : Value → Value → Prop) : String × Value → String × Value → Prop
  | intro (key : String) {v v' : Value} : R v v' → EntryChange R (key, v) (key, v')

/-- What may become of a map of records whose order counts. -/
inductive Mapped (R : Value → Value → Prop) : Value → Value → Prop
  | same (v : Value) : Mapped R v v
  | object {members members' : Members} :
      List.Forall₂ (EntryChange R) members members' →
      Mapped R (.object members) (.object members')

/-- What may become of a map of records whose order does not count. -/
inductive Shuffled (R : Value → Value → Prop) : Value → Value → Prop
  | same (v : Value) : Shuffled R v v
  | object {members changed members' : Members} :
      List.Forall₂ (EntryChange R) members changed →
      members'.Perm changed → (members'.map Prod.fst).Nodup →
      Shuffled R (.object members) (.object members')

/-- The value of a field has changed in the way of the field. -/
theorem MemberChange.of_mem {fields : List FieldChange} (hnames : (fields.map Prod.fst).Nodup)
    {name : String} {R : Value → Value → Prop} (hfield : (name, R) ∈ fields) {v v' : Value}
    (hv : R v v') : MemberChange fields (name, v) (name, v') where
  key_eq := rfl
  known := by
    intro other hother hname
    obtain rfl := List.inj_on_of_nodup_map hnames hother hfield hname
    exact hv
  unknown hunknown := absurd (List.mem_map_of_mem hfield) hunknown

theorem Rearranged.eq_null_iff {fields : List FieldChange} {v v' : Value}
    (h : Rearranged fields v v') : v = .null ↔ v' = .null := by
  rcases h with _ | _ | _
  · exact Iff.rfl
  · exact iff_of_false (by rintro ⟨⟩) (by rintro ⟨⟩)
  · exact iff_of_false (by rintro ⟨⟩) (by rintro ⟨⟩)

/-! ## What fields find

A record is read through lookups only, so of two objects that are rearranged it is enough to compare
what each field finds. That is also where an array and an object meet: in both a field finds
something or nothing. -/

/-- Each field finds in the one what may become of what it finds in the other. -/
def FoundAlike (fields : List FieldChange) (members members' : Members) : Prop :=
  ∀ field ∈ fields, Option.Rel field.2 (members.lookup field.1) (members'.lookup field.1)

theorem lookup_append_of_notMem {members more : Members} {key : String}
    (h : ∀ m ∈ more, m.1 ≠ key) : (members ++ more).lookup key = members.lookup key := by
  have hmore : more.lookup key = none :=
    List.lookup_eq_none_iff.mpr fun m hm ↦ bne_iff_ne.mpr (h m hm).symm
  rw [List.lookup_append, hmore, Option.or_none]

theorem rel_lookup {fields : List FieldChange} {members changed : Members}
    (h : List.Forall₂ (MemberChange fields) members changed) {field : FieldChange}
    (hfield : field ∈ fields) :
    Option.Rel field.2 (members.lookup field.1) (changed.lookup field.1) := by
  induction h with
  | nil => exact .none
  | @cons m m' members changed hm _ ih =>
    rcases m with ⟨key, v⟩
    rcases m' with ⟨key', v'⟩
    obtain rfl : key = key' := hm.key_eq
    rw [List.lookup_cons, List.lookup_cons]
    by_cases hkey : field.1 = key
    · rw [beq_iff_eq.mpr hkey]
      exact .some (hm.known field hfield hkey)
    · rw [beq_eq_false_iff_ne.mpr hkey]
      exact ih

/-- In what becomes of an object the fields find what becomes of their values. -/
theorem foundAlike_of_perm {fields : List FieldChange} {members changed more members' : Members}
    (hchanged : List.Forall₂ (MemberChange fields) members changed)
    (hmore : ∀ m ∈ more, m.1 ∉ fields.map Prod.fst) (hperm : members'.Perm (changed ++ more))
    (hkeys : (members'.map Prod.fst).Nodup) : FoundAlike fields members members' := by
  intro field hfield
  have hkeys' : ((changed ++ more).map Prod.fst).Nodup := (hperm.map Prod.fst).nodup_iff.mp hkeys
  rw [lookup_eq_of_perm hkeys' hperm, lookup_append_of_notMem]
  · exact rel_lookup hchanged hfield
  · intro m hm hkey
    exact hmore m hm (hkey ▸ List.mem_map_of_mem hfield)

/-- So do they in what becomes of an array, if its values are given the names of the fields. -/
theorem foundAlike_of_places {fields : List FieldChange} (hnames : (fields.map Prod.fst).Nodup)
    {items items' : List Value}
    (h : ∀ (i : ℕ) field, fields[i]? = some field → Option.Rel field.2 items[i]? items'[i]?) :
    FoundAlike fields ((fields.map Prod.fst).zip items) ((fields.map Prod.fst).zip items') := by
  intro field hfield
  rcases List.mem_iff_getElem?.mp hfield with ⟨i, hi⟩
  have hname : (fields.map Prod.fst)[i]? = some field.1 := by
    rw [List.getElem?_map, hi]
    rfl
  rw [lookup_zip hnames items hname, lookup_zip hnames items' hname]
  exact h i field hi

/-! ## Readers -/

/-- The field is read as the same after such a change of its value. -/
def Reading.Ignores (r : Reading) (R : Value → Value → Prop) : Prop :=
  ∀ found found' : Option Value, Option.Rel R found found' → r.read found = r.read found'

theorem Reading.ignores_eq (r : Reading) : r.Ignores (· = ·) := by
  intro found found' h
  rw [rel_eq_iff.mp h]

namespace Decoder

variable {d : Decoder α} {R : Value → Value → Prop}

theorem Relates.ignores (h : d.Relates R (· = ·)) (name : String) (default : α) :
    (Reading.withDefault name default d).Ignores R := by
  intro found found' hfound
  exact rel_eq_iff.mp (h.rel_read name rfl hfound)

theorem Relates.list (h : d.Relates R (· = ·)) : d.list.Relates (Listed R) (· = ·) := by
  rintro v v' (_ | hitems)
  · exact rel_eq_iff.mpr rfl
  · rw [toOption_ofValue_list, toOption_ofValue_list, rel_eq_iff]
    have hread := rel_mapM h hitems
    rw [List.forall₂_eq_eq_eq] at hread
    exact rel_eq_iff.mp hread

theorem rel_mapM_members (h : d.Relates R (· = ·)) {members members' : Members}
    (hmembers : List.Forall₂ (EntryChange R) members members') :
    (members.mapM fun m ↦ (d.ofValue m.2).toOption.map (m.1, ·)) =
      members'.mapM fun m ↦ (d.ofValue m.2).toOption.map (m.1, ·) := by
  have hread := rel_mapM (R := EntryChange R) (S := (· = ·))
    (f := fun m ↦ (d.ofValue m.2).toOption.map (m.1, ·)) ?_ hmembers
  · rw [List.forall₂_eq_eq_eq] at hread
    exact rel_eq_iff.mp hread
  · rintro _ _ ⟨key, hv⟩
    exact rel_map (h _ _ hv) fun a a' haa' ↦ congrArg (key, ·) haa'

theorem Relates.map (h : d.Relates R (· = ·)) : d.map.Relates (Mapped R) (· = ·) := by
  rintro v v' (_ | hmembers)
  · exact rel_eq_iff.mpr rfl
  · rw [toOption_ofValue_map, toOption_ofValue_map, rel_eq_iff]
    exact rel_mapM_members h hmembers

theorem keys_of_ofValue_map {members : Members} {entries : List (String × α)}
    (h : (d.map.ofValue (.object members)).toOption = some entries) :
    entries.map Prod.fst = members.map Prod.fst := by
  rw [toOption_ofValue_map] at h
  induction members generalizing entries with
  | nil =>
    obtain rfl : [] = entries := Option.some.inj h
    rfl
  | cons m members ih =>
    rw [List.mapM_cons] at h
    rcases Option.bind_eq_some_iff.mp h with ⟨entry, hentry, h⟩
    rcases Option.bind_eq_some_iff.mp h with ⟨rest, hrest, h⟩
    rcases Option.map_eq_some_iff.mp hentry with ⟨a, -, rfl⟩
    obtain rfl : (m.1, a) :: rest = entries := Option.some.inj h
    rw [List.map_cons, List.map_cons, ih hrest]

/-- What is read of a map in another order is the same map in another order. -/
theorem Relates.map_shuffled (h : d.Relates R (· = ·)) :
    d.map.Relates (Shuffled R) fun entries entries' ↦
      entries.Perm entries' ∧ ∀ key, entries.lookup key = entries'.lookup key := by
  rintro v v' (_ | @⟨members, changed, members', hmembers, hperm, hkeys⟩)
  · exact rel_of_eq (fun entries ↦ ⟨.refl entries, fun _ ↦ rfl⟩) rfl
  · have hread := rel_mapM_of_perm (f := fun m ↦ (d.ofValue m.2).toOption.map (m.1, ·)) hperm.symm
    rw [← rel_mapM_members h hmembers, ← toOption_ofValue_map, ← toOption_ofValue_map] at hread
    rcases hentries : (d.map.ofValue (.object members)).toOption with _ | entries <;>
      rcases hentries' : (d.map.ofValue (.object members')).toOption with _ | entries'
    · exact .none
    · rw [hentries, hentries'] at hread
      cases hread
    · rw [hentries, hentries'] at hread
      cases hread
    · rw [hentries, hentries'] at hread
      rcases hread with ⟨hperm'⟩
      have hnodup : (entries'.map Prod.fst).Nodup := by rwa [keys_of_ofValue_map hentries']
      exact .some ⟨hperm', lookup_eq_of_perm hnodup hperm'⟩

end Decoder

/-- A record goes by what its fields find. -/
theorem Fields.ReadsPlaces.relates_rearranged {reader : Fields α} {fields : List FieldChange}
    {S : α → α → Prop} (hplaces : reader.ReadsPlaces (fields.map Prod.fst))
    (hnames : (fields.map Prod.fst).Nodup) (hS : ∀ a, S a a)
    (h : reader.Relates (FoundAlike fields) S) (name : String) :
    (record name reader).Relates (Rearranged fields) S := by
  rintro v v' (_ | ⟨hchanged, hmore, hperm, hkeys⟩ | ⟨hlength, hitems⟩)
  · exact rel_of_eq hS rfl
  · exact h.record name (foundAlike_of_perm hchanged hmore hperm hkeys)
  · rw [toOption_ofValue_array hplaces hnames, toOption_ofValue_array hplaces hnames, hlength]
    split
    · exact h.record name (foundAlike_of_places hnames hitems)
    · exact .none

end NewsWire.Json

namespace NewsWire.Feed

open NewsWire.Json

/-! ## Records -/

theorem RecordKind.relates_rearranged (kind : RecordKind) {fields : List FieldChange}
    {S : kind.Record → kind.Record → Prop} (hS : ∀ a, S a a)
    (hnames : fields.map Prod.fst = kind.fieldNames)
    (h : ∀ members members', FoundAlike fields members members' →
      Option.Rel S (kind.decoder.ofValue (.object members)).toOption
        (kind.decoder.ofValue (.object members')).toOption) :
    kind.decoder.Relates (Rearranged fields) S := by
  rcases kind.exists_readsPlaces with ⟨name, reader, heq, hplaces⟩
  rw [heq] at h ⊢
  rw [← hnames] at hplaces
  refine hplaces.relates_rearranged (hnames ▸ kind.nodup_fieldNames) hS ?_ name
  intro members members' hfound
  have hrel := h members members' hfound
  rwa [Fields.toOption_ofValue_record_object, Fields.toOption_ofValue_record_object] at hrel

/-- A record whose fields ignore their changes is read as the same. -/
theorem RecordKind.relates_of_ignores (kind : RecordKind) {fields : List FieldChange}
    (h : List.Forall₂ (fun r field ↦ r.name = field.1 ∧ r.Ignores field.2) kind.readings fields) :
    kind.decoder.Relates (Rearranged fields) (· = ·) := by
  have hnames : fields.map Prod.fst = kind.fieldNames := by
    rw [← kind.map_name_readings, eq_comm, ← List.forall₂_eq_eq_eq, List.forall₂_map_left_iff,
      List.forall₂_map_right_iff]
    exact h.imp fun _ _ hfield ↦ hfield.1
  refine kind.relates_rearranged (fun _ ↦ rfl) hnames fun members members' hfound ↦ ?_
  refine rel_eq_iff.mpr (kind.toOption_ofValue_congr fun r hr ↦ ?_)
  rcases exists_of_forall₂ h.flip hr with ⟨field, hfield, hname, hignores⟩
  rw [hname]
  exact hignores _ _ (hfound field hfield)

def AltIds.changes : List FieldChange := [("etag", (· = ·)), ("itemid", (· = ·))]

def Byline.changes : List FieldChange := [("by", (· = ·))]

def Subject.changes : List FieldChange := [("name", (· = ·)), ("rels", (· = ·))]

def Association.changes : List FieldChange :=
  [("type", (· = ·)), ("itemid", (· = ·)), ("altids", Rearranged AltIds.changes)]

def Rendition.changes : List FieldChange := [("href", (· = ·))]

/-- What may become of an item. -/
def Item.changes : List FieldChange :=
  [("altids", Rearranged AltIds.changes), ("version", (· = ·)), ("type", (· = ·)),
    ("pubstatus", (· = ·)), ("firstcreated", (· = ·)), ("versioncreated", (· = ·)),
    ("title", (· = ·)), ("headline", (· = ·)), ("urgency", (· = ·)), ("ednote", (· = ·)),
    ("bylines", Listed (Rearranged Byline.changes)),
    ("subject", Listed (Rearranged Subject.changes)), ("keywords", (· = ·)),
    ("associations", Mapped (Rearranged Association.changes)),
    ("renditions", Shuffled (Rearranged Rendition.changes))]

theorem AltIds.relates_rearranged : AltIds.decoder.Relates (Rearranged changes) (· = ·) :=
  RecordKind.altIds.relates_of_ignores
    (.cons ⟨rfl, Reading.ignores_eq _⟩ (.cons ⟨rfl, Reading.ignores_eq _⟩ .nil))

theorem Byline.relates_rearranged : Byline.decoder.Relates (Rearranged changes) (· = ·) :=
  RecordKind.byline.relates_of_ignores (.cons ⟨rfl, Reading.ignores_eq _⟩ .nil)

theorem Subject.relates_rearranged : Subject.decoder.Relates (Rearranged changes) (· = ·) :=
  RecordKind.subject.relates_of_ignores
    (.cons ⟨rfl, Reading.ignores_eq _⟩ (.cons ⟨rfl, Reading.ignores_eq _⟩ .nil))

theorem Rendition.relates_rearranged : Rendition.decoder.Relates (Rearranged changes) (· = ·) :=
  RecordKind.rendition.relates_of_ignores (.cons ⟨rfl, Reading.ignores_eq _⟩ .nil)

theorem AltIds.relates_optional :
    AltIds.decoder.optional.Relates (Rearranged changes) (· = ·) :=
  AltIds.relates_rearranged.optional fun _ _ h ↦ h.eq_null_iff

theorem Association.relates_rearranged :
    Association.decoder.Relates (Rearranged changes) (· = ·) :=
  RecordKind.association.relates_of_ignores
    (.cons ⟨rfl, Reading.ignores_eq _⟩ (.cons ⟨rfl, Reading.ignores_eq _⟩
      (.cons ⟨rfl, AltIds.relates_optional.ignores "altids" none⟩ .nil)))

/-! ## Items

Of all that an item holds, the renditions alone are read as a map whose order is forgotten, so two
items that are read differ at most there. The associations keep the order of their keys whatever
becomes of the members around them. -/

namespace Item

/-- The fields of an item other than its renditions are read as the same. -/
theorem forall₂_ignores : List.Forall₂
    (fun r field ↦ r.name = field.1 ∧ (r.name ≠ "renditions" → r.Ignores field.2))
    RecordKind.item.readings changes :=
  have hplain (r : Reading) : r.name ≠ "renditions" → r.Ignores (· = ·) := fun _ ↦ r.ignores_eq
  .cons ⟨rfl, fun _ ↦ AltIds.relates_optional.ignores _ _⟩ <|
  .cons ⟨rfl, hplain _⟩ <|
  .cons ⟨rfl, hplain _⟩ <|
  .cons ⟨rfl, hplain _⟩ <|
  .cons ⟨rfl, hplain _⟩ <|
  .cons ⟨rfl, hplain _⟩ <|
  .cons ⟨rfl, hplain _⟩ <|
  .cons ⟨rfl, hplain _⟩ <|
  .cons ⟨rfl, hplain _⟩ <|
  .cons ⟨rfl, hplain _⟩ <|
  .cons ⟨rfl, fun _ ↦ Byline.relates_rearranged.list.ignores _ _⟩ <|
  .cons ⟨rfl, fun _ ↦ Subject.relates_rearranged.list.ignores _ _⟩ <|
  .cons ⟨rfl, hplain _⟩ <|
  .cons ⟨rfl, fun _ ↦ Association.relates_rearranged.map.ignores _ _⟩ <|
  .cons ⟨rfl, fun h ↦ absurd rfl h⟩ .nil

/-- A field of an item finds what may become of its value. -/
theorem read_eq_of_foundAlike {r : Reading} (hr : r ∈ RecordKind.item.readings)
    (hname : r.name ≠ "renditions") {members members' : Members}
    (hfound : FoundAlike changes members members') :
    r.read (members.lookup r.name) = r.read (members'.lookup r.name) := by
  rcases exists_of_forall₂ forall₂_ignores.flip hr with ⟨field, hfield, hfieldName, hignores⟩
  rw [hfieldName]
  exact hignores hname _ _ (hfound field hfield)

/-- Rearranged items are read as the same, but for the order of their renditions. -/
theorem relates_rearranged : Item.decoder.Relates (Rearranged changes) SameAs := by
  have hsteady {α : Type} {name : String} {default : α} {d : Decoder α}
      (hmem : Reading.withDefault name default d ∈ RecordKind.item.readings)
      (hname : name ≠ "renditions") :
      (Fields.withDefault name default d).Relates (FoundAlike changes) (· = ·) :=
    Fields.relates_withDefault fun _ _ hfound ↦
      rel_eq_iff.mpr (read_eq_of_foundAlike hmem hname hfound)
  have hrenditions : (Fields.withDefault "renditions" [] (.map Rendition.decoder)).Relates
      (FoundAlike changes) fun entries entries' ↦
        entries.Perm entries' ∧ ∀ format, entries.lookup format = entries'.lookup format :=
    Fields.relates_withDefault fun _ _ hfound ↦
      Rendition.relates_rearranged.map_shuffled.rel_read _ ⟨.refl [], fun _ ↦ rfl⟩
        (hfound _ (List.mem_of_getElem? (i := 14) rfl))
  have hfields := relates_fields
    (fun r hr hname _ _ hfound ↦
      read_eq_of_foundAlike hr (fun heq ↦ hname (heq ▸ by decide)) hfound)
    (hsteady (List.mem_of_getElem? (i := 1) rfl) (by decide))
    (hsteady (List.mem_of_getElem? (i := 8) rfl) (by decide))
    (hsteady (List.mem_of_getElem? (i := 13) rfl) (by decide)) hrenditions
  refine RecordKind.item.relates_rearranged (fun item ↦ ⟨rfl, .refl _, fun _ ↦ rfl⟩) rfl ?_
  intro members members' hfound
  refine rel_imp (fun item item' hrelated ↦ ?_) (hfields.record "RawFeedItem" hfound)
  have hothers := hrelated.others
  rw [← hrelated.version, ← hrelated.urgency, ← hrelated.associations] at hothers
  exact ⟨hothers, hrelated.renditions.1, hrelated.renditions.2⟩

/-- The associations of an item are what is read off the member of this name. -/
theorem read_associations {members : Members} {item : Item}
    (h : Item.decoder.ofValue (.object members) = .ok item) :
    (Reading.withDefault "associations" [] (.map Association.decoder)).read
      (members.lookup "associations") = some item.associations := by
  -- The item is compared with itself, and nothing is asked of its other fields.
  have hany {α : Type} {name : String} {default : α} {d : Decoder α} :
      (Fields.withDefault name default d).Relates (fun ms ms' ↦ ms = members ∧ ms' = members)
        fun _ _ ↦ True := by
    refine Fields.relates_withDefault ?_
    rintro _ _ ⟨rfl, rfl⟩
    exact rel_of_eq (fun _ ↦ trivial) rfl
  have hassociations : (Fields.withDefault "associations" [] (.map Association.decoder)).Relates
      (fun ms ms' ↦ ms = members ∧ ms' = members) fun as _ ↦
        (Reading.withDefault "associations" [] (.map Association.decoder)).read
          (members.lookup "associations") = some as := by
    refine Fields.relates_withDefault ?_
    rintro _ _ ⟨rfl, rfl⟩
    rcases (Reading.withDefault "associations" [] (.map Association.decoder)).read _ with _ | as
    · exact .none
    · exact .some rfl
  have hfields := relates_fields (by rintro r - - _ _ ⟨rfl, rfl⟩; rfl) hany hany hassociations hany
  have hrelated := hfields.record "RawFeedItem" ⟨rfl, rfl⟩
  rw [← decoder, toOption_eq_some_iff.mpr h] at hrelated
  rcases hrelated with ⟨hitem⟩
  exact hitem.associations

theorem keys_associations {v : Value} {associations : Members} {item : Item}
    (hmember : v.member? "associations" = some (.object associations))
    (h : Item.decoder.ofValue v = .ok item) :
    item.associations.map Prod.fst = associations.map Prod.fst := by
  rcases v with _ | _ | _ | _ | _ | members
  case object =>
    have hread := read_associations h
    rw [Value.member?] at hmember
    rw [hmember] at hread
    exact Decoder.keys_of_ofValue_map hread
  all_goals cases hmember

/-- **Only the order of associations counts.** An item may be rearranged in every record in it, have
members among its own that no reader looks for, and have its renditions in another order: it is read
if and only if it was before, and as an equal item. The keys of its associations are read in the
order in which they come. -/
theorem ofValue_rearranged {v v' : Value} (h : Rearranged changes v v') :
    (∀ item, Item.decoder.ofValue v = .ok item →
      ∃ item', Item.decoder.ofValue v' = .ok item' ∧ item.SameAs item') ∧
    (∀ item', Item.decoder.ofValue v' = .ok item' →
      ∃ item, Item.decoder.ofValue v = .ok item ∧ item.SameAs item') ∧
    ∀ w ∈ [v, v'], ∀ associations item, w.member? "associations" = some (.object associations) →
      Item.decoder.ofValue w = .ok item →
        item.associations.map Prod.fst = associations.map Prod.fst := by
  refine ⟨fun item hitem ↦ ?_, fun item' hitem' ↦ ?_, fun _ _ _ _ ↦ keys_associations⟩
  · exact relates_rearranged.exists_right h hitem
  · exact relates_rearranged.exists_left h hitem'

def plain : Value := .object [
  ("version", .ofInt 2),
  ("associations", .object [("2", .object [("type", .string "picture")]), ("1", .object [])]),
  ("renditions", .object [("nitf", .object [("href", .string "https://doc.test/1")]),
    ("text", .object [])])]

/-- The item in another order, with members that are not its own. -/
def rearranged : Value := .object [
  ("renditions", .object [("text", .object []),
    ("nitf", .object [("size", .ofInt 7), ("href", .string "https://doc.test/1")])]),
  ("language", .array [.null]),
  ("associations", .object [("2", .object [("type", .string "picture"), ("by", .null)]),
    ("1", .object [])]),
  ("version", .ofInt 2)]

theorem plain_rearranged : Rearranged changes plain rearranged := by
  have htype (v : Value) : MemberChange Association.changes ("type", v) ("type", v) :=
    .of_mem (by decide) List.mem_cons_self rfl
  have hhref (v : Value) : MemberChange Rendition.changes ("href", v) ("href", v) :=
    .of_mem (by decide) List.mem_cons_self rfl
  have hversion (v : Value) : MemberChange changes ("version", v) ("version", v) :=
    .of_mem (by decide) (List.mem_of_getElem? (i := 1) rfl) rfl
  -- In the picture and in its own address the item gets further members.
  have hpicture : Rearranged Association.changes (.object [("type", .string "picture")])
      (.object [("type", .string "picture"), ("by", .null)]) :=
    have hmore : ∀ m ∈ [("by", Value.null)], m.1 ∉ Association.changes.map Prod.fst := by decide
    .object (.cons (htype _) .nil) hmore (.refl _) (by decide)
  have hnitf : Rearranged Rendition.changes (.object [("href", .string "https://doc.test/1")])
      (.object [("size", .ofInt 7), ("href", .string "https://doc.test/1")]) :=
    have hmore : ∀ m ∈ [("size", Value.ofInt 7)], m.1 ∉ Rendition.changes.map Prod.fst := by decide
    .object (.cons (hhref _) .nil) hmore (.swap ..) (by decide)
  have hassociations {v v' : Value} (hv : Mapped (Rearranged Association.changes) v v') :
      MemberChange changes ("associations", v) ("associations", v') :=
    .of_mem (by decide) (List.mem_of_getElem? (i := 13) rfl) hv
  have hrenditions {v v' : Value} (hv : Shuffled (Rearranged Rendition.changes) v v') :
      MemberChange changes ("renditions", v) ("renditions", v') :=
    .of_mem (by decide) (List.mem_of_getElem? (i := 14) rfl) hv
  have hmore : ∀ m ∈ [("language", Value.array [.null])], m.1 ∉ changes.map Prod.fst := by decide
  have hempty {fields : List FieldChange} : Rearranged fields (.object []) (.object []) := .same _
  have hpictures := Mapped.object (.cons (.intro "2" hpicture) (.cons (.intro "1" hempty) .nil))
  have haddresses := Shuffled.object
    (.cons (.intro "nitf" hnitf) (.cons (.intro "text" hempty) .nil)) (.swap ..) (by decide)
  have hchanged := List.Forall₂.cons (hversion (.ofInt 2))
    (.cons (hassociations hpictures) (.cons (hrenditions haddresses) .nil))
  exact .object hchanged hmore (by decide) (by decide)

/-- Both are read, as equal items whose associations come in the order of the page. -/
theorem ofValue_rearranged_sample :
    Rearranged changes plain rearranged ∧
      ∃ item item', Item.decoder.ofValue plain = .ok item ∧
        Item.decoder.ofValue rearranged = .ok item' ∧ item.SameAs item' ∧
        item'.associations.map Prod.fst = ["2", "1"] := by
  have hchanges := plain_rearranged
  rcases ofValue_rearranged hchanges with ⟨hread, -, hkeys⟩
  have hplain : (Item.decoder.ofValue plain).toOption.isSome := by decide
  rcases Option.isSome_iff_exists.mp hplain with ⟨item, hitem⟩
  rcases hread item (toOption_eq_some_iff.mp hitem) with ⟨item', hitem', hsame⟩
  exact ⟨hchanges, item, item', toOption_eq_some_iff.mp hitem, hitem', hsame,
    hkeys rearranged (by decide) _ item' rfl hitem'⟩

end Item

end NewsWire.Feed

import Mathlib.Data.List.Induction
import NewsWire.Proofs.Grammar
import NewsWire.Proofs.Rearranged

/-!
# Repeated keys

A text may write several members of an object with one key. Then one member is kept, in the place of
the first and with the value of the last (`Members.kept`), which is what comes of inserting them one
after another (`Members.ofList_eq_kept`).

So a field of a record is read off what is written for it last (`RecordKind.exists_members`), and
members are kept in the order of their first occurrences. What a text writes for one field may
change, and then the record that is read changes in this field only (`Changed.rearranged`).

No feed should repeat a key, and no standard says what it means. But a text that does is read, and a
statement about the order of a map in a text has to say which place and which value count.
-/

namespace NewsWire.Json

/-! ## Members that are kept -/

namespace Members

/-- The members with different keys: each stands in the place of the first with its key, and has the
value of the last. -/
def kept (members : Members) : Members :=
  (members.map Prod.fst).eraseDups.filterMap fun key ↦
    (members.reverse.lookup key).map (key, ·)

theorem ofList_append_singleton (members : Members) (m : String × Value) :
    ofList (members ++ [m]) = (ofList members).insert m.1 m.2 := by
  rw [ofList, List.foldl_append]
  rfl

theorem keys_ofList (members : Members) :
    (ofList members).map Prod.fst = (members.map Prod.fst).eraseDups := by
  induction members using List.reverseRecOn with
  | nil => rfl
  | append_singleton members m ih =>
    rw [ofList_append_singleton, keys_insert, ih, List.map_append, List.eraseDups_append,
      List.map_singleton, List.cons_removeAll, List.contains_eq_mem]
    by_cases hkey : m.1 ∈ members.map Prod.fst
    · rw [if_pos (List.mem_eraseDups.mpr hkey), if_neg (by simpa using hkey)]
      exact (List.append_nil _).symm
    · rw [if_neg (mt List.mem_eraseDups.mp hkey), if_pos (by simpa using hkey)]
      rfl

theorem lookup_ofList (members : Members) (key : String) :
    (ofList members).lookup key = members.reverse.lookup key := by
  induction members using List.reverseRecOn with
  | nil => rfl
  | append_singleton members m ih =>
    rw [ofList_append_singleton, List.reverse_append, List.reverse_singleton,
      List.singleton_append]
    by_cases hkey : key = m.1
    · subst hkey
      rw [lookup_insert_self, List.lookup_cons_self]
    · rw [lookup_insert_of_ne m.2 _ hkey, ih, List.lookup_cons, beq_eq_false_iff_ne.mpr hkey]

theorem nodup_keys_ofList (members : Members) : ((ofList members).map Prod.fst).Nodup := by
  induction members using List.reverseRecOn with
  | nil => exact List.nodup_nil
  | append_singleton members m ih =>
    rw [ofList_append_singleton, keys_insert]
    by_cases hkey : m.1 ∈ (ofList members).map Prod.fst
    · rwa [if_pos hkey]
    · rw [if_neg hkey, ← List.concat_eq_append]
      exact ih.concat hkey

/-- Members with different keys are known by their keys and what is found under them. -/
theorem filterMap_lookup {members : Members} (h : (members.map Prod.fst).Nodup) :
    ((members.map Prod.fst).filterMap fun key ↦ (members.lookup key).map (key, ·)) = members := by
  induction members with
  | nil => rfl
  | cons m members ih =>
    rw [List.map_cons, List.nodup_cons] at h
    rw [List.map_cons, List.filterMap_cons_some (b := m) (by rw [List.lookup_cons_self]; rfl)]
    refine congrArg (m :: ·) (Eq.trans (List.filterMap_congr fun key hkey ↦ ?_) (ih h.2))
    have hne : key ≠ m.1 := by
      rintro rfl
      exact h.1 hkey
    rw [List.lookup_cons, beq_eq_false_iff_ne.mpr hne]

/-- Members that are inserted one after another are those that are kept. -/
theorem ofList_eq_kept (members : Members) : ofList members = members.kept := by
  have h := filterMap_lookup (nodup_keys_ofList members)
  simp only [keys_ofList, lookup_ofList] at h
  exact h.symm

theorem nodup_keys_kept (members : Members) : (members.kept.map Prod.fst).Nodup :=
  members.ofList_eq_kept ▸ members.nodup_keys_ofList

theorem lookup_kept (members : Members) (key : String) :
    members.kept.lookup key = members.reverse.lookup key :=
  members.ofList_eq_kept ▸ members.lookup_ofList key

theorem lookup_map (f : Value → Value) (members : Members) (key : String) :
    (members.map fun m ↦ (m.1, f m.2)).lookup key = (members.lookup key).map f := by
  induction members with
  | nil => rfl
  | cons m members ih =>
    rw [List.map_cons, List.lookup_cons, List.lookup_cons, ih]
    cases key == m.1 <;> rfl

theorem kept_map (f : Value → Value) (members : Members) :
    kept (members.map fun m ↦ (m.1, f m.2)) = (kept members).map fun m ↦ (m.1, f m.2) := by
  rw [kept, kept, List.map_filterMap, ← List.map_reverse, List.map_map]
  refine congrArg (List.filterMap · _) (funext fun key ↦ ?_)
  rw [lookup_map]
  cases members.reverse.lookup key <;> rfl

theorem perm_of_lookup_eq {members members' : Members} (hkeys : (members.map Prod.fst).Nodup)
    (hkeys' : (members'.map Prod.fst).Nodup)
    (h : ∀ key, members.lookup key = members'.lookup key) : members.Perm members' := by
  refine (List.perm_ext_iff_of_nodup hkeys.of_map hkeys'.of_map).mpr fun m ↦ ?_
  rw [← lookup_eq_some_iff_mem hkeys, ← lookup_eq_some_iff_mem hkeys', h]

end Members

/-! ## Fields as they are written -/

namespace Value

/-- What is written for a field of a record: the last member of its name in an object, the value in
its place in an array. -/
def field? (name : String) (place : ℕ) : Value → Option Value
  | .object members => members.reverse.lookup name
  | .array items => items[place]?
  | _ => none

theorem collapsed_object (members : Members) :
    (object members).collapsed = .object (members.kept.map fun m ↦ (m.1, m.2.collapsed)) := by
  rw [collapsed, collapsedMembers_eq_map, Members.ofList_eq_kept, Members.kept_map]

theorem collapsed_array (items : List Value) :
    (array items).collapsed = .array (items.map collapsed) := by
  rw [collapsed, collapsedItems_eq_map]

theorem collapsed_eq_null_iff {v : Value} : v.collapsed = .null ↔ v = .null := by
  rcases v with _ | _ | _ | _ | _ | _
  case null => exact iff_of_true rfl rfl
  all_goals exact iff_of_false (by rintro ⟨⟩) (by rintro ⟨⟩)

theorem lookup_collapsed (members : Members) (name : String) :
    (members.kept.map fun m ↦ (m.1, m.2.collapsed)).lookup name =
      (members.reverse.lookup name).map collapsed := by
  rw [Members.lookup_map, Members.lookup_kept]

theorem keys_collapsed (members : Members) :
    (members.kept.map fun m ↦ (m.1, m.2.collapsed)).map Prod.fst = members.kept.map Prod.fst := by
  rw [List.map_map]
  rfl

end Value

/-! ## Fields that change -/

/-- A field is written in another way, and the rest of the record as before. -/
inductive Changed (name : String) (place : ℕ) (R : Value → Value → Prop) : Value → Value → Prop
  | same (v : Value) : Changed name place R v v
  | object (before after : Members) {v v' : Value} : R v v' →
      Changed name place R (.object (before ++ (name, v) :: after))
        (.object (before ++ (name, v') :: after))
  | array {items : List Value} {v v' : Value} : items[place]? = some v → R v v' →
      Changed name place R (.array items) (.array (items.set place v'))

/-- Under each key the same is written last, or the change is. -/
theorem lookup_reverse_cases (before after : Members) (name key : String) (v v' : Value) :
    (before ++ (name, v) :: after).reverse.lookup key =
        (before ++ (name, v') :: after).reverse.lookup key ∨
      key = name ∧ (before ++ (name, v) :: after).reverse.lookup key = some v ∧
        (before ++ (name, v') :: after).reverse.lookup key = some v' := by
  simp only [List.reverse_append, List.reverse_cons, List.append_assoc, List.lookup_append]
  rcases after.reverse.lookup key with _ | w
  · by_cases hkey : key = name
    · subst hkey
      refine Or.inr ⟨rfl, ?_, ?_⟩ <;> simp
    · refine Or.inl ?_
      simp [List.lookup_cons, beq_eq_false_iff_ne.mpr hkey]
  · exact Or.inl rfl

/-- If the change of a field is one that may become of it, the record is rearranged. -/
theorem Changed.rearranged {fields : List FieldChange} {name : String} {place : ℕ}
    {R S : Value → Value → Prop} (hnames : (fields.map Prod.fst).Nodup)
    (hplace : fields[place]? = some (name, S)) (hsame : ∀ field ∈ fields, ∀ v, field.2 v v)
    (hS : ∀ v v', R v v' → S v.collapsed v'.collapsed) {v v' : Value}
    (h : Changed name place R v v') : Rearranged fields v.collapsed v'.collapsed := by
  have hmem := List.mem_of_getElem? hplace
  rcases h with _ | @⟨before, after, w, w', hw⟩ | @⟨items, w, w', hplace', hw⟩
  · exact .same _
  · have hkeys : ((before ++ (name, w) :: after).map Prod.fst).eraseDups =
        ((before ++ (name, w') :: after).map Prod.fst).eraseDups := by
      simp only [List.map_append, List.map_cons]
    have hchanged : List.Forall₂ (MemberChange fields)
        ((before ++ (name, w) :: after : Members).kept.map fun m ↦ (m.1, m.2.collapsed))
        ((before ++ (name, w') :: after : Members).kept.map fun m ↦ (m.1, m.2.collapsed)) := by
      rw [Members.kept, Members.kept, hkeys, List.map_filterMap, List.map_filterMap]
      refine List.rel_filterMap (R := Eq) (fun key _ heq ↦ ?_) (List.forall₂_eq_eq_eq ▸ rfl)
      subst heq
      rcases lookup_reverse_cases before after name key w w' with hlast | ⟨rfl, hlast, hlast'⟩
      · rw [hlast]
        rcases (before ++ (name, w') :: after).reverse.lookup key with _ | u
        · exact .none
        · exact .some ⟨rfl, fun field hfield _ ↦ hsame field hfield _, fun _ ↦ rfl⟩
      · rw [hlast, hlast']
        exact .some (.of_mem hnames hmem (hS w w' hw))
    rw [Value.collapsed_object, Value.collapsed_object]
    refine .object hchanged (List.forall_mem_nil _) (by rw [List.append_nil]) ?_
    rw [Value.keys_collapsed]
    exact Members.nodup_keys_kept _
  · rw [Value.collapsed_array, Value.collapsed_array]
    refine .array (by simp) fun i field hfield ↦ ?_
    rw [List.getElem?_map, List.getElem?_map]
    by_cases hi : place = i
    · subst hi
      obtain rfl : (name, S) = field := Option.some.inj (hplace.symm.trans hfield)
      rw [hplace', List.getElem?_set_self', hplace']
      exact .some (hS w w' hw)
    · rw [List.getElem?_set_ne hi]
      exact rel_of_eq (hsame field (List.mem_of_getElem? hfield)) rfl

end NewsWire.Json

namespace NewsWire.Feed

open NewsWire.Json

/-- A record is read off what is written for its fields. -/
theorem RecordKind.exists_members (kind : RecordKind) {v : Value} {a : kind.Record}
    (h : kind.decoder.ofValue v.collapsed = .ok a) :
    ∃ members, kind.decoder.ofValue (.object members) = .ok a ∧
      ∀ (i : ℕ) (name : String), kind.fieldNames[i]? = some name →
        members.lookup name = (v.field? name i).map Value.collapsed := by
  rcases v with _ | _ | _ | _ | items | members
  case array =>
    rw [Value.collapsed_array, ← toOption_eq_some_iff, kind.toOption_ofValue_array] at h
    split at h
    · refine ⟨_, toOption_eq_some_iff.mp h, fun i name hname ↦ ?_⟩
      rw [lookup_zip kind.nodup_fieldNames _ hname, List.getElem?_map]
      rfl
    · cases h
  case object =>
    rw [Value.collapsed_object] at h
    exact ⟨_, h, fun _ name _ ↦ Value.lookup_collapsed members name⟩
  all_goals
    rcases kind.exists_readsPlaces with ⟨name, fields, heq, -⟩
    rw [heq] at h
    cases h

end NewsWire.Feed

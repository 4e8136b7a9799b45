import Mathlib.Logic.Basic

/-!
# Steps that may fail

Readers, decoders and checks are sequences of steps, and the first step that fails decides. So a
sequence succeeds if each of its steps does, and it fails as the first that does not. Proofs about a
sequence take it apart with these equivalences, whatever its steps are.

Success and failure have an equivalence each. Where only one of them is asked for, the other need
not be computed, and a step that cannot fail is gone by `ok_bind` without a case.
-/

namespace NewsWire

variable {ε α β : Type} {r : Except ε α} {f : α → Except ε β} {g : α → β} {a : α} {b : β} {e : ε}

/-- After a step that succeeds comes the next one. -/
theorem ok_bind (a : α) (f : α → Except ε β) : (Except.ok a >>= f) = f a := rfl

theorem toOption_eq_some_iff : r.toOption = some a ↔ r = .ok a := by
  cases r <;> simp [Except.toOption]

theorem bind_eq_ok_iff : (r >>= f) = .ok b ↔ ∃ a, r = .ok a ∧ f a = .ok b := by
  cases r <;> simp [bind, Except.bind]

theorem bind_eq_error_iff :
    (r >>= f) = .error e ↔ r = .error e ∨ ∃ a, r = .ok a ∧ f a = .error e := by
  cases r <;> simp [bind, Except.bind]

theorem map_eq_ok_iff : r.map g = .ok b ↔ ∃ a, r = .ok a ∧ g a = b := by
  cases r <;> simp [Except.map]

/-! ## Lists of results

A list is read item by item, so what is known of one reader becomes known of a list of readings. The
lemmas drop the errors first: which of two bad items is reported depends on their order, but not
whether the list is read. -/

theorem toOption_mapM (f : α → Except ε β) (as : List α) :
    (as.mapM f).toOption = as.mapM fun a ↦ (f a).toOption := by
  induction as with
  | nil => rfl
  | cons a as ih =>
    rw [List.mapM_cons, List.mapM_cons, ← ih]
    cases f a with
    | error e => rfl
    | ok b => cases as.mapM f <;> rfl

theorem mapM_eq_of_map_eq {f : α → Option β} {as bs : List α} (h : as.map f = bs.map f) :
    as.mapM f = bs.mapM f := by
  have hid : ∀ cs : List α, cs.mapM f = (cs.map f).mapM id := fun cs ↦ by
    rw [List.mapM_map, Function.id_comp]
  rw [hid, hid, h]

theorem mapM_eq_none_of_mem {f : α → Option β} {as : List α} {a : α} (ha : a ∈ as)
    (hnone : f a = none) : as.mapM f = none := by
  induction as with
  | nil => cases ha
  | cons b as ih =>
    rw [List.mapM_cons]
    rcases List.mem_cons.mp ha with rfl | ha
    · rw [hnone]
      rfl
    · rw [ih ha]
      cases f b <;> rfl

end NewsWire

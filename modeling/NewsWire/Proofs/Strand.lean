import Mathlib.Data.List.Forall2
import NewsWire.Poll.Network

/-!
# What strands under way together come to

Joined strands go on in the order of a schedule, and the network sees their requests in that order.
This file says what of it can be told from the strands alone.

* Whatever the network answers, each strand comes to a result that it can reach
  (`Network.forall₂_reaches_join`).
* Strands that tell nothing after they have been begun are heard in the order of the strands
  (`Network.events_join`).
* Strands that come to one result each, whatever the network has seen besides their requests, come
  to it (`Network.join_eq`): the schedule leaves no trace in the results.
* Strands that ask at most once send each of their requests once, in whatever order
  (`Network.perm_join`).

## Steps and runs

A step of the pool replaces one strand by what is left of it when its request has landed. Each of
the four facts is first one about landing, then one about finishing a strand, and is carried
through the schedule by `Pool.foldl_step_induction`.
-/

namespace NewsWire.Poll

open NewsWire.Http

variable {α β : Type}

namespace Strand

/-! ## Results in reach

What a strand can come to is a relation, since the network may answer anything. It is enough where
the results must only make sense, and no more can be said without a condition on the network. -/

/-- There are outcomes that lead the strand to the result. -/
inductive Reaches : Strand α → α → Prop
  | done (a : α) : Reaches (.done a) a
  | tell {e : Event} {next : Strand α} {a : α} : next.Reaches a → Reaches (.tell e next) a
  | ask {r : Http.Request} {next : Outcome → Strand α} {a : α} (o : Outcome) :
      (next o).Reaches a → Reaches (.ask r next) a

theorem Reaches.of_begun {strand : Strand α} {a : α} (h : strand.begun.Reaches a) :
    strand.Reaches a := by
  induction strand with
  | done b => exact h
  | tell e next ih => exact .tell (ih h)
  | ask r next => exact h

theorem Reaches.of_land {n : Network} {strand : Strand α} {t : Trace} {a : α}
    (h : (strand.land n t).1.Reaches a) : strand.Reaches a := by
  cases strand with
  | done b => exact h
  | tell e next => exact h
  | ask r next => exact .ask _ h.of_begun

theorem reaches_finish (n : Network) (strand : Strand α) (t : Trace) :
    strand.Reaches (strand.finish n t).1 := by
  induction strand generalizing t with
  | done b => exact .done b
  | tell e next ih => exact .tell (ih _)
  | ask r next ih => exact .ask _ (ih _ _)

/-! ## Quiet strands -/

/-- The strand tells nothing, whatever its requests come to. -/
def Quiet : Strand α → Prop
  | .done _ => True
  | .tell _ _ => False
  | .ask _ next => ∀ o, (next o).Quiet

theorem Quiet.begun {strand : Strand α} (h : strand.Quiet) : strand.begun.Quiet := by
  cases strand with
  | done a => exact h
  | tell e next => exact h.elim
  | ask r next => exact h

theorem Quiet.told {strand : Strand α} (h : strand.Quiet) : strand.told = [] := by
  cases strand with
  | done a => rfl
  | tell e next => exact h.elim
  | ask r next => rfl

theorem Quiet.land {strand : Strand α} (h : strand.Quiet) (n : Network) (t : Trace) :
    (strand.land n t).1.Quiet ∧ (strand.land n t).2.events = t.events := by
  cases strand with
  | done a => exact ⟨h, rfl⟩
  | tell e next => exact h.elim
  | ask r next =>
    refine ⟨(h _).begun, ?_⟩
    rw [land_ask, (h _).told, Trace.tell_nil]

theorem Quiet.finish {strand : Strand α} (h : strand.Quiet) (n : Network) (t : Trace) :
    (strand.finish n t).2.events = t.events := by
  induction strand generalizing t with
  | done a => rfl
  | tell e next => exact h.elim
  | ask r next ih =>
    rw [finish_ask, ih _ (h _)]

/-! ## Strands that come to one result

The requests that the network has seen before those of a strand are those of the dialogue so far and
any of the other strands. `ComesTo` quantifies over all lists that begin with the former, so it
holds in any schedule once it holds. -/

/-- Once the network has seen some requests, the strand comes to the result, whatever else the
network has seen when a request of the strand reaches it. -/
def ComesTo (n : Network) (since : List Http.Request) : Strand α → α → Prop
  | .done b, a => b = a
  | .tell _ next, a => next.ComesTo n since a
  | .ask r next, a => ∀ seen, since <+: seen → (next (n.send seen r).1).ComesTo n since a

theorem ComesTo.begun {n : Network} {since : List Http.Request} {strand : Strand α} {a : α}
    (h : strand.ComesTo n since a) : strand.begun.ComesTo n since a := by
  induction strand with
  | done b => exact h
  | tell e next ih => exact ih h
  | ask r next => exact h

end Strand

theorem Network.prefix_send (n : Network) (seen : List Http.Request) (r : Http.Request) :
    seen <+: (n.send seen r).2 := by
  rw [send]
  split
  · exact List.prefix_append _ _
  · exact List.prefix_rfl

namespace Strand

variable {n : Network} {since : List Http.Request} {strand : Strand α} {a : α}

theorem prefix_land (n : Network) (strand : Strand α) (t : Trace) :
    t.seen <+: (strand.land n t).2.seen := by
  cases strand with
  | done a => exact List.prefix_rfl
  | tell e next => exact List.prefix_rfl
  | ask r next => exact n.prefix_send _ _

theorem prefix_finish (n : Network) (strand : Strand α) (t : Trace) :
    t.seen <+: (strand.finish n t).2.seen := by
  induction strand generalizing t with
  | done a => exact List.prefix_rfl
  | tell e next ih =>
    rw [finish]
    exact ih (t.tell [e])
  | ask r next ih =>
    rw [finish_ask]
    exact (n.prefix_send t.seen r).trans (ih _ { t with seen := (n.send t.seen r).2 })

theorem ComesTo.land (h : strand.ComesTo n since a) {t : Trace} (ht : since <+: t.seen) :
    (strand.land n t).1.ComesTo n since a := by
  cases strand with
  | done b => exact h
  | tell e next => exact h
  | ask r next => exact (h t.seen ht).begun

theorem ComesTo.finish (h : strand.ComesTo n since a) {t : Trace} (ht : since <+: t.seen) :
    (strand.finish n t).1 = a := by
  induction strand generalizing t with
  | done b => exact h
  | tell e next ih => exact ih h ht
  | ask r next ih =>
    rw [finish_ask]
    exact ih _ (h t.seen ht) (ht.trans (n.prefix_send _ _))

end Strand

/-! ## Strands that ask at most once -/

/-- The network sees a request that reaches it. -/
theorem Network.seen_send (n : Network) (seen : List Http.Request) (r : Http.Request) :
    (n.send seen r).2 = seen ++ [r].filter n.reaches := by
  rw [send]
  by_cases h : n.reaches r
  · rw [if_pos h, List.filter_cons_of_pos h, List.filter_nil]
  · rw [if_neg h, List.filter_cons_of_neg h, List.filter_nil, List.append_nil]

namespace Strand

/-- The request that the strand will send first, if it asks at all. -/
def requests : Strand α → List Http.Request
  | .done _ => []
  | .tell _ next => next.requests
  | .ask r _ => [r]

/-- Nothing is asked after the first request, whatever that comes to. -/
def AsksOnce : Strand α → Prop
  | .done _ => True
  | .tell _ next => next.AsksOnce
  | .ask _ next => ∀ o, (next o).requests = []

theorem requests_begun (strand : Strand α) : strand.begun.requests = strand.requests := by
  induction strand with
  | done a => rfl
  | tell e next ih => exact ih
  | ask r next => rfl

theorem asksOnce_of_requests {strand : Strand α} (h : strand.requests = []) : strand.AsksOnce := by
  induction strand with
  | done a => trivial
  | tell e next ih => exact ih h
  | ask r next => cases h

theorem AsksOnce.begun {strand : Strand α} (h : strand.AsksOnce) : strand.begun.AsksOnce := by
  induction strand with
  | done a => exact h
  | tell e next ih => exact ih h
  | ask r next => exact h

theorem AsksOnce.land {strand : Strand α} (h : strand.AsksOnce) (n : Network) (t : Trace) :
    (strand.land n t).1.AsksOnce ∧
      (strand.land n t).2.seen ++ (strand.land n t).1.requests.filter n.reaches =
        t.seen ++ strand.requests.filter n.reaches := by
  cases strand with
  | done a => exact ⟨h, rfl⟩
  | tell e next => exact ⟨h, rfl⟩
  | ask r next =>
    have hnone := h (n.send t.seen r).1
    rw [land_ask, Trace.seen_tell, n.seen_send]
    refine ⟨(asksOnce_of_requests hnone).begun, ?_⟩
    rw [requests_begun, hnone, List.filter_nil, List.append_nil]
    rfl

theorem seen_finish_of_requests {strand : Strand α} (h : strand.requests = []) (n : Network)
    (t : Trace) : (strand.finish n t).2.seen = t.seen := by
  induction strand generalizing t with
  | done a => rfl
  | tell e next ih => exact ih h (t.tell [e])
  | ask r next => cases h

theorem AsksOnce.finish {strand : Strand α} (h : strand.AsksOnce) (n : Network) (t : Trace) :
    (strand.finish n t).2.seen = t.seen ++ strand.requests.filter n.reaches := by
  induction strand generalizing t with
  | done a => exact (List.append_nil t.seen).symm
  | tell e next ih => exact ih h (t.tell [e])
  | ask r next =>
    rw [finish_ask, seen_finish_of_requests (h (n.send t.seen r).1) n, n.seen_send]
    rfl

end Strand

/-! ## Steps of a pool -/

namespace Pool

theorem step_cases (n : Network) (pool : Pool α) (t : Trace) (i : ℕ) :
    step n (pool, t) i = (pool, t) ∨
      ∃ strand, pool[i]? = some strand ∧
        step n (pool, t) i = (pool.set i (strand.land n t).1, (strand.land n t).2) := by
  cases hi : pool[i]? with
  | none => exact Or.inl (by simp [step, hi])
  | some strand => exact Or.inr ⟨strand, rfl, by simp [step, hi]⟩

/-- What every step keeps holds after all of them. -/
theorem foldl_step_induction (n : Network) (Keeps : Pool α → Trace → Prop)
    (hstep : ∀ pool t i strand, pool[i]? = some strand → Keeps pool t →
      Keeps (pool.set i (strand.land n t).1) (strand.land n t).2)
    (order : List ℕ) {pool : Pool α} {t : Trace} (h : Keeps pool t) :
    Keeps (order.foldl (step n) (pool, t)).1 (order.foldl (step n) (pool, t)).2 := by
  induction order generalizing pool t with
  | nil => exact h
  | cons i order ih =>
    rw [List.foldl_cons]
    obtain heq | ⟨strand, hi, heq⟩ := step_cases n pool t i
    · rw [heq]
      exact ih h
    · rw [heq]
      exact ih (hstep pool t i strand hi h)

end Pool

/-- One element may be replaced in what is related pointwise. -/
private theorem forall₂_set {R : α → β → Prop} {l : List α} {found : List β} {i : ℕ} {x y : α}
    (hi : l[i]? = some x) (hxy : ∀ b, R x b → R y b) (h : List.Forall₂ R l found) :
    List.Forall₂ R (l.set i y) found := by
  induction h generalizing i with
  | nil => exact .nil
  | cons hab htail ih =>
    cases i with
    | zero =>
      obtain rfl := Option.some.inj hi
      exact .cons (hxy _ hab) htail
    | succ i => exact .cons hab (ih hi)

/-- The same, from what has been replaced. -/
private theorem forall₂_of_set {R : α → β → Prop} {l : List α} {found : List β} {i : ℕ} {x y : α}
    (hi : l[i]? = some x) (hxy : ∀ b, R y b → R x b) (h : List.Forall₂ R (l.set i y) found) :
    List.Forall₂ R l found := by
  obtain ⟨hlt, rfl⟩ := List.getElem?_eq_some_iff.mp hi
  have hback := forall₂_set (List.getElem?_set_self hlt) hxy h
  rwa [List.set_set, List.set_getElem_self] at hback

/-! ## Joined strands -/

namespace Pool

theorem forall₂_reaches_finish (n : Network) (pool : Pool α) (t : Trace) :
    List.Forall₂ Strand.Reaches pool (pool.finish n t).1 := by
  induction pool generalizing t with
  | nil => exact .nil
  | cons strand rest ih => exact .cons (Strand.reaches_finish n strand t) (ih _)

theorem events_finish {n : Network} {pool : Pool α} (h : ∀ strand ∈ pool, strand.Quiet)
    (t : Trace) : (pool.finish n t).2.events = t.events := by
  induction pool generalizing t with
  | nil => rfl
  | cons strand rest ih =>
    rw [List.forall_mem_cons] at h
    exact (ih h.2 (strand.finish n t).2).trans (h.1.finish n t)

theorem finish_eq {n : Network} {since : List Http.Request} {pool : Pool α} {found : List α}
    (h : List.Forall₂ (Strand.ComesTo n since) pool found) {t : Trace} (ht : since <+: t.seen) :
    (pool.finish n t).1 = found := by
  induction h generalizing t with
  | nil => rfl
  | cons hstrand _ ih =>
    rw [← hstrand.finish ht, ← ih (ht.trans (Strand.prefix_finish n _ t))]
    rfl

/-- The requests that are still to be sent. -/
def requests (pool : Pool α) : List Http.Request := pool.flatMap Strand.requests

/-- One strand is replaced, and its requests with it. -/
theorem requests_set {pool : Pool α} {i : ℕ} {strand : Strand α} (hi : pool[i]? = some strand) :
    ∃ before after, pool.requests = before ++ strand.requests ++ after ∧
      ∀ other, requests (pool.set i other) = before ++ other.requests ++ after := by
  obtain ⟨hlt, rfl⟩ := List.getElem?_eq_some_iff.mp hi
  refine ⟨(pool.take i).flatMap Strand.requests, (pool.drop (i + 1)).flatMap Strand.requests,
    ?_, fun other ↦ ?_⟩
  · have hsplit : pool = pool.take i ++ pool[i] :: pool.drop (i + 1) := by
      rw [← List.drop_eq_getElem_cons hlt, List.take_append_drop]
    conv_lhs => rw [requests, hsplit]
    rw [List.flatMap_append, List.flatMap_cons, List.append_assoc]
  · rw [requests, List.set_eq_take_append_cons_drop, if_pos hlt, List.flatMap_append,
      List.flatMap_cons, List.append_assoc]

theorem seen_finish {pool : Pool α} (h : ∀ strand ∈ pool, strand.AsksOnce) (n : Network)
    (t : Trace) : (pool.finish n t).2.seen = t.seen ++ pool.requests.filter n.reaches := by
  induction pool generalizing t with
  | nil => exact (List.append_nil t.seen).symm
  | cons strand rest ih =>
    rw [List.forall_mem_cons] at h
    have hrequests : requests (strand :: rest) = strand.requests ++ requests rest := rfl
    rw [hrequests, List.filter_append, ← List.append_assoc, ← h.1.finish n t]
    exact ih h.2 (strand.finish n t).2

end Pool

namespace Network

variable (n : Network) (order : List ℕ) {strands : List (Strand α)} (t : Trace)

@[simp] theorem join_nil : n.join order ([] : List (Strand α)) t = ([], t) := by
  have hstep : ∀ i, Pool.step n (([] : Pool α), t) i = ([], t) := fun i ↦ rfl
  rw [join, List.map_nil, List.flatMap_nil, Trace.tell_nil, List.foldl_fixed' hstep]
  rfl

theorem forall₂_reaches_join :
    List.Forall₂ Strand.Reaches strands (n.join order strands t).1 := by
  -- Whatever the strands under way can reach is in reach of the strands at the beginning.
  have hpool := Pool.foldl_step_induction n
    (fun pool _ ↦ ∀ found, List.Forall₂ Strand.Reaches pool found →
      List.Forall₂ Strand.Reaches strands found)
    (fun pool u i strand hi ih found hfound ↦
      ih found (forall₂_of_set hi (fun a ha ↦ ha.of_land) hfound))
    order (t := t.tell (strands.flatMap Strand.told))
    (fun found hfound ↦ (List.forall₂_map_left_iff.mp hfound).imp fun _ _ h ↦ h.of_begun)
  exact hpool _ (Pool.forall₂_reaches_finish n _ _)

variable {n}

theorem events_join (h : ∀ strand ∈ strands, strand.begun.Quiet) :
    (n.join order strands t).2.events = t.events ++ strands.flatMap Strand.told := by
  have hstep : ∀ (pool : Pool α) (u : Trace) (i : ℕ) (strand : Strand α),
      pool[i]? = some strand →
      (∀ strand ∈ pool, strand.Quiet) ∧ u.events = t.events ++ strands.flatMap Strand.told →
      (∀ other ∈ pool.set i (strand.land n u).1, other.Quiet) ∧
        (strand.land n u).2.events = t.events ++ strands.flatMap Strand.told := by
    rintro pool u i strand hi ⟨hquiet, hevents⟩
    have hstrand := (hquiet strand (List.mem_of_getElem? hi)).land n u
    refine ⟨fun other hother ↦ ?_, hstrand.2.trans hevents⟩
    obtain hother | rfl := List.mem_or_eq_of_mem_set hother
    · exact hquiet other hother
    · exact hstrand.1
  have hpool := Pool.foldl_step_induction n _ hstep order
    (t := t.tell (strands.flatMap Strand.told)) ⟨List.forall_mem_map.mpr h, rfl⟩
  exact (Pool.events_finish hpool.1 _).trans hpool.2

theorem join_eq {since : List Http.Request} {found : List α}
    (h : List.Forall₂ (Strand.ComesTo n since) strands found) (ht : since <+: t.seen) :
    (n.join order strands t).1 = found := by
  have hstep : ∀ (pool : Pool α) (u : Trace) (i : ℕ) (strand : Strand α),
      pool[i]? = some strand →
      List.Forall₂ (Strand.ComesTo n since) pool found ∧ since <+: u.seen →
      List.Forall₂ (Strand.ComesTo n since) (pool.set i (strand.land n u).1) found ∧
        since <+: (strand.land n u).2.seen := by
    rintro pool u i strand hi ⟨hpool, hu⟩
    exact ⟨forall₂_set hi (fun a ha ↦ ha.land hu) hpool, hu.trans (strand.prefix_land n u)⟩
  have hbegun : List.Forall₂ (Strand.ComesTo n since) (strands.map Strand.begun) found :=
    List.forall₂_map_left_iff.mpr (h.imp fun _ _ hstrand ↦ hstrand.begun)
  have hpool := Pool.foldl_step_induction n _ hstep order
    (t := t.tell (strands.flatMap Strand.told)) ⟨hbegun, ht⟩
  exact Pool.finish_eq hpool.1 hpool.2

theorem perm_join (h : ∀ strand ∈ strands, strand.AsksOnce) :
    ∃ asked, (n.join order strands t).2.seen = t.seen ++ asked ∧
      asked.Perm ((strands.flatMap Strand.requests).filter n.reaches) := by
  -- What has been asked and what is still to be asked make up the requests of all strands.
  have hstep : ∀ (pool : Pool α) (u : Trace) (i : ℕ) (strand : Strand α),
      pool[i]? = some strand →
      (∀ strand ∈ pool, strand.AsksOnce) ∧
        (∃ asked, u.seen = t.seen ++ asked ∧ (asked ++ pool.requests.filter n.reaches).Perm
          ((strands.flatMap Strand.requests).filter n.reaches)) →
      (∀ other ∈ pool.set i (strand.land n u).1, other.AsksOnce) ∧
        ∃ asked, (strand.land n u).2.seen = t.seen ++ asked ∧
          (asked ++ (Pool.requests (pool.set i (strand.land n u).1)).filter n.reaches).Perm
            ((strands.flatMap Strand.requests).filter n.reaches) := by
    rintro pool u i strand hi ⟨honce, asked, hasked, hperm⟩
    obtain ⟨hland, hseen⟩ := (honce strand (List.mem_of_getElem? hi)).land n u
    obtain ⟨before, after, hpool, hset⟩ := Pool.requests_set hi
    obtain ⟨more, hmore⟩ := strand.prefix_land n u
    refine ⟨fun other hother ↦ ?_, asked ++ more, ?_, ?_⟩
    · obtain hother | rfl := List.mem_or_eq_of_mem_set hother
      · exact honce other hother
      · exact hland
    · rw [← hmore, hasked, List.append_assoc]
    · -- The request that has landed goes from its place to the end of what has been asked.
      rw [← hmore, List.append_assoc, List.append_cancel_left_eq] at hseen
      refine List.Perm.trans ?_ hperm
      rw [hset, hpool]
      simp only [List.filter_append, ← hseen, List.append_assoc]
      exact (List.perm_append_comm_assoc _ _ _).append_left asked
  have hbegun : ∀ strand ∈ strands.map Strand.begun, strand.AsksOnce :=
    List.forall_mem_map.mpr fun strand hstrand ↦ (h strand hstrand).begun
  have hrequests : Pool.requests (strands.map Strand.begun) = strands.flatMap Strand.requests := by
    rw [Pool.requests, List.flatMap_map]
    exact congrArg (List.flatMap · strands) (funext Strand.requests_begun)
  have hpool := Pool.foldl_step_induction n _ hstep order
    (t := t.tell (strands.flatMap Strand.told))
    ⟨hbegun, [], (List.append_nil t.seen).symm, by rw [List.nil_append, hrequests]⟩
  obtain ⟨honce, asked, hasked, hperm⟩ := hpool
  refine ⟨asked ++ _, ?_, hperm⟩
  rw [← List.append_assoc, ← hasked]
  exact Pool.seen_finish honce n _

end Network

end NewsWire.Poll

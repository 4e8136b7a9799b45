import NewsWire.Proofs.Requests

/-!
# Requests in translation

A dialogue may be run with every request translated on its way. It makes no difference whether the
requests are translated in the dialogue, before a network sees them, or in front of the network,
after they have been made: the run comes to the same, tells the same and waits the same, and the
requests of the one run are the translations of those of the other (`Dialogue.run_translated`,
`Dialogue.askedAlone_translated`).

So two dialogues that are the same in translation cannot be told apart by a network that sees
requests in translation only (`Dialogue.run_eq_of_translated`).

A statement about two runs would otherwise be an induction with two states. Translation makes one
dialogue of both, and what is left is a comparison of programs, without a network and without a
trace.
-/

namespace NewsWire.Poll

variable {α β : Type} {f : Http.Request → Http.Request} {n : Network} {s : Schedule}

/-! ## Translations -/

def Strand.translated (f : Http.Request → Http.Request) : Strand α → Strand α
  | .done a => .done a
  | .tell e next => .tell e (next.translated f)
  | .ask r next => .ask (f r) fun o ↦ (next o).translated f

def Dialogue.translated (f : Http.Request → Http.Request) : Dialogue α → Dialogue α
  | .done a => .done a
  | .tell e next => .tell e (next.translated f)
  | .wait d next => .wait d (next.translated f)
  | .ask r next => .ask (f r) fun o ↦ (next o).translated f
  | .join strands next =>
    .join (strands.map (Strand.translated f)) fun found ↦ (next found).translated f

def Trace.translated (f : Http.Request → Http.Request) (t : Trace) : Trace :=
  { t with seen := t.seen.map f }

/-- The network that requests reach in translation. -/
def Network.through (f : Http.Request → Http.Request) (n : Network) : Network where
  reaches r := n.reaches (f r)
  answer seen r := n.answer (seen.map f) (f r)

@[simp] theorem Trace.translated_tell (t : Trace) (es : List Event) :
    (t.tell es).translated f = (t.translated f).tell es := rfl

theorem Network.send_through (seen : List Http.Request) (r : Http.Request) :
    n.send (seen.map f) (f r) =
      (((n.through f).send seen r).1, ((n.through f).send seen r).2.map f) := by
  by_cases hreaches : n.reaches (f r)
  · simp [send, through, hreaches]
  · simp [send, through, hreaches]

/-! ## Strands -/

namespace Strand

theorem told_translated (strand : Strand α) : (strand.translated f).told = strand.told := by
  induction strand with
  | done a => rfl
  | tell e next ih => exact congrArg (e :: ·) ih
  | ask r next => rfl

theorem begun_translated (strand : Strand α) :
    (strand.translated f).begun = strand.begun.translated f := by
  induction strand with
  | done a => rfl
  | tell e next ih => exact ih
  | ask r next => rfl

theorem land_translated (strand : Strand α) (t : Trace) :
    (strand.translated f).land n (t.translated f) =
      ((strand.land (n.through f) t).1.translated f,
        (strand.land (n.through f) t).2.translated f) := by
  cases strand with
  | done a => rfl
  | tell e next => rfl
  | ask r next =>
    have hsend := Network.send_through (f := f) (n := n) t.seen r
    rw [translated, land_ask, land_ask, Trace.translated, hsend, begun_translated, told_translated]
    rfl

theorem finish_translated (strand : Strand α) (t : Trace) :
    (strand.translated f).finish n (t.translated f) =
      ((strand.finish (n.through f) t).1, (strand.finish (n.through f) t).2.translated f) := by
  induction strand generalizing t with
  | done a => rfl
  | tell e next ih => exact ih (t.tell [e])
  | ask r next ih =>
    have hsend := Network.send_through (f := f) (n := n) t.seen r
    have hnext := ih ((n.through f).send t.seen r).1
      { t with seen := ((n.through f).send t.seen r).2 }
    rw [translated, finish_ask, finish_ask, ← hnext, Trace.translated, hsend]
    rfl

end Strand

/-! ## Strands under way together -/

namespace Pool

theorem step_translated (pool : Pool α) (t : Trace) (i : ℕ) :
    step n (pool.map (Strand.translated f), t.translated f) i =
      ((step (n.through f) (pool, t) i).1.map (Strand.translated f),
        (step (n.through f) (pool, t) i).2.translated f) := by
  rw [step, step, List.getElem?_map]
  cases pool[i]? with
  | none => rfl
  | some strand => simp only [Option.map_some, Strand.land_translated, List.map_set]

theorem foldl_step_translated (order : List ℕ) (state : Pool α × Trace) :
    order.foldl (step n) (state.1.map (Strand.translated f), state.2.translated f) =
      ((order.foldl (step (n.through f)) state).1.map (Strand.translated f),
        (order.foldl (step (n.through f)) state).2.translated f) := by
  induction order generalizing state with
  | nil => rfl
  | cons i order ih =>
    rw [List.foldl_cons, List.foldl_cons, step_translated, ih]

theorem finish_translated (pool : Pool α) (t : Trace) :
    finish n (pool.map (Strand.translated f)) (t.translated f) =
      ((finish (n.through f) pool t).1, (finish (n.through f) pool t).2.translated f) := by
  induction pool generalizing t with
  | nil => rfl
  | cons strand rest ih =>
    rw [List.map_cons, finish, finish, Strand.finish_translated]
    simp only [ih]

end Pool

theorem Network.join_translated (order : List ℕ) (strands : List (Strand α)) (t : Trace) :
    n.join order (strands.map (Strand.translated f)) (t.translated f) =
      (((n.through f).join order strands t).1,
        ((n.through f).join order strands t).2.translated f) := by
  have hbegun : (strands.map (Strand.translated f)).map Strand.begun =
      (strands.map Strand.begun).map (Strand.translated f) := by
    rw [List.map_map, List.map_map]
    exact List.map_congr_left fun strand _ ↦ strand.begun_translated
  have htold : (strands.map (Strand.translated f)).flatMap Strand.told =
      strands.flatMap Strand.told := by
    rw [List.flatMap_map]
    exact congrArg (List.flatMap · strands) (funext Strand.told_translated)
  rw [join, join, hbegun, htold, ← Trace.translated_tell]
  have hsteps := Pool.foldl_step_translated (f := f) (n := n) order
    (strands.map Strand.begun, t.tell (strands.flatMap Strand.told))
  rw [hsteps]
  exact Pool.finish_translated _ _

/-! ## Dialogues -/

namespace Dialogue

theorem translated_bind (d : Dialogue α) (g : α → Dialogue β) :
    (d.bind g).translated f = (d.translated f).bind fun a ↦ (g a).translated f := by
  induction d with
  | done a => rfl
  | tell e next ih => rw [bind, translated, ih, translated, bind]
  | wait w next ih => rw [bind, translated, ih, translated, bind]
  | ask r next ih => simp only [bind, translated, ih]
  | join strands next ih => simp only [bind, translated, ih]

/-- Requests may be translated in the dialogue or in front of the network. -/
theorem run_translated (d : Dialogue α) (t : Trace) :
    (d.translated f).run n s (t.translated f) =
      ((d.run (n.through f) s t).1, (d.run (n.through f) s t).2.translated f) := by
  induction d generalizing t with
  | done a => rfl
  | tell e next ih => exact ih (t.tell [e])
  | wait w next ih => exact ih { t with waits := t.waits ++ [w] }
  | ask r next ih =>
    have hsend := Network.send_through (f := f) (n := n) t.seen r
    have hnext := ih ((n.through f).send t.seen r).1
      { t with seen := ((n.through f).send t.seen r).2 }
    rw [translated, run, run, ← hnext, Trace.translated, hsend]
    rfl
  | join strands next ih =>
    rw [translated, run, run, List.length_map, Network.join_translated, ← ih]

theorem askedAlone_translated (d : Dialogue α) (t : Trace) :
    (d.translated f).askedAlone n s (t.translated f) =
      (d.askedAlone (n.through f) s t).map f := by
  induction d generalizing t with
  | done a => rfl
  | tell e next ih => exact ih (t.tell [e])
  | wait w next ih => exact ih { t with waits := t.waits ++ [w] }
  | ask r next ih =>
    have hsend := Network.send_through (f := f) (n := n) t.seen r
    have hnext := ih ((n.through f).send t.seen r).1
      { t with seen := ((n.through f).send t.seen r).2 }
    rw [translated, askedAlone, askedAlone, List.map_cons, ← hnext, Trace.translated, hsend]
    rfl
  | join strands next ih =>
    rw [translated, askedAlone, askedAlone, List.length_map, Network.join_translated, ← ih]

theorem run_eq_of_translated {d d' : Dialogue α} {t t' : Trace} (hnetwork : n.through f = n)
    (hdialogue : d.translated f = d'.translated f) (hstart : t.translated f = t'.translated f) :
    (d.run n s t).1 = (d'.run n s t').1 ∧
      (d.run n s t).2.translated f = (d'.run n s t').2.translated f ∧
      (d.askedAlone n s t).map f = (d'.askedAlone n s t').map f := by
  have hrun := d.run_translated (f := f) (n := n) (s := s) t
  have hrun' := d'.run_translated (f := f) (n := n) (s := s) t'
  have hasked := d.askedAlone_translated (f := f) (n := n) (s := s) t
  have hasked' := d'.askedAlone_translated (f := f) (n := n) (s := s) t'
  rw [hnetwork] at hrun hrun' hasked hasked'
  rw [hdialogue, hstart, hrun', Prod.mk.injEq] at hrun
  rw [hdialogue, hstart, hasked'] at hasked
  exact ⟨hrun.1.symm, hrun.2.symm, hasked.symm⟩

end Dialogue

end NewsWire.Poll

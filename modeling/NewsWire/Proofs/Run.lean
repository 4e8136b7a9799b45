import NewsWire.Poll.Network
import NewsWire.Poll.Fetch

/-!
# Runs of dialogues

How the run of a dialogue is put together from the runs of its parts.

An attempt goes on only after a success, so its run is known by cases: `Attempt.run_bind_of_ok` and
`Attempt.run_bind_of_error`. A dialogue that joins no strands leaves nothing to the schedule
(`Dialogue.Joinless.run_eq`), and one that only tells comes to the same in every run
(`Dialogue.OnlyTells.exists_run`).

Both are predicates on dialogues and not on runs. They are closed under going on with the result, so
that they are seen of a program by its text, and a network is brought in once at the end.
-/

namespace NewsWire.Poll

variable {α β : Type} {n : Network} {s : Schedule} {t u : Trace}

/-! ## Dialogues -/

namespace Dialogue

@[simp] theorem run_done (a : α) (t : Trace) : (done a).run n s t = (a, t) := rfl

@[simp] theorem run_ofStrand (strand : Strand α) (t : Trace) :
    (ofStrand strand).run n s t = strand.finish n t := by
  induction strand generalizing t with
  | done a => rfl
  | tell e next ih => exact ih (t.tell [e])
  | ask r next ih => exact ih (n.send t.seen r).1 { t with seen := (n.send t.seen r).2 }

@[simp] theorem run_tellAll (es : List Event) (t : Trace) :
    (tellAll es).run n s t = ((), t.tell es) := by
  induction es generalizing t with
  | nil => rw [tellAll, run_done, Trace.tell_nil]
  | cons e es ih =>
    rw [tellAll, run, ih, Trace.tell_tell]
    rfl

/-- No strands are joined, whatever the requests come to. -/
inductive Joinless : Dialogue α → Prop
  | done (a : α) : Joinless (.done a)
  | tell {e : Event} {next : Dialogue α} : next.Joinless → Joinless (.tell e next)
  | wait {delayMs : UInt64} {next : Dialogue α} : next.Joinless → Joinless (.wait delayMs next)
  | ask {r : Http.Request} {next : Http.Outcome → Dialogue α} :
      (∀ o, (next o).Joinless) → Joinless (.ask r next)

theorem Joinless.bind {d : Dialogue α} {f : α → Dialogue β} (h : d.Joinless)
    (hf : ∀ a, (f a).Joinless) : (d.bind f).Joinless := by
  induction h with
  | done a => exact hf a
  | tell _ ih => exact .tell ih
  | wait _ ih => exact .wait ih
  | ask _ ih => exact .ask ih

/-- Where no strands are joined the schedule leaves no trace. -/
theorem Joinless.run_eq {d : Dialogue α} (h : d.Joinless) (s s' : Schedule) (t : Trace) :
    d.run n s t = d.run n s' t := by
  induction h generalizing t with
  | done a => rfl
  | tell _ ih => exact ih _
  | wait _ ih => exact ih _
  | ask _ ih => exact ih _ _

theorem joinless_tellAll (es : List Event) : (tellAll es).Joinless := by
  induction es with
  | nil => exact .done ()
  | cons e es ih => exact .tell ih

/-- Events are told, and nothing else is done. -/
inductive OnlyTells : Dialogue α → Prop
  | done (a : α) : OnlyTells (.done a)
  | tell {e : Event} {next : Dialogue α} : next.OnlyTells → OnlyTells (.tell e next)

theorem OnlyTells.bind {d : Dialogue α} {f : α → Dialogue β} (h : d.OnlyTells)
    (hf : ∀ a, (f a).OnlyTells) : (d.bind f).OnlyTells := by
  induction h with
  | done a => exact hf a
  | tell _ ih => exact .tell ih

/-- What is only told does not depend on what has happened before. -/
theorem OnlyTells.exists_run {d : Dialogue α} (h : d.OnlyTells) :
    ∃ a told, ∀ n s t, d.run n s t = (a, Trace.tell t told) := by
  induction h with
  | done a => exact ⟨a, [], fun n s t ↦ by rw [run_done, Trace.tell_nil]⟩
  | @tell e _ _ ih =>
    obtain ⟨a, told, hrun⟩ := ih
    refine ⟨a, e :: told, fun n s t ↦ ?_⟩
    rw [run, hrun, Trace.tell_tell, List.singleton_append]

theorem onlyTells_tellAll (es : List Event) : (tellAll es).OnlyTells := by
  induction es with
  | nil => exact .done ()
  | cons e es ih => exact .tell ih

end Dialogue

/-! ## Attempts -/

namespace Attempt

theorem run_bind_of_ok {x : Attempt α} {a : α} (h : x.run.run n s t = (.ok a, u))
    (f : α → Attempt β) : (x >>= f).run.run n s t = (f a).run.run n s u := by
  rw [ExceptT.run_bind, Dialogue.bind_eq, Dialogue.run_bind, h]

theorem run_bind_of_error {x : Attempt α} {e : Failure} (h : x.run.run n s t = (.error e, u))
    (f : α → Attempt β) : (x >>= f).run.run n s t = (.error e, u) := by
  rw [ExceptT.run_bind, Dialogue.bind_eq, Dialogue.run_bind, h]
  rfl

@[simp] theorem run_ofExcept (r : Except Failure α) (t : Trace) :
    (ofExcept r).run.run n s t = (r, t) := rfl

@[simp] theorem run_lift (d : Dialogue α) (t : Trace) :
    (lift d).run.run n s t = (.ok (d.run n s t).1, (d.run n s t).2) :=
  Dialogue.run_bind n s d _ t

theorem run_telling (e : Event) (t : Trace) :
    (lift (.telling e)).run.run n s t = (.ok (), t.tell [e]) := rfl

theorem joinless_ofExcept (r : Except Failure α) : (ofExcept r).run.Joinless := .done r

theorem joinless_lift {d : Dialogue α} (h : d.Joinless) : (lift d).run.Joinless :=
  h.bind fun _ ↦ .done _

theorem joinless_bind {x : Attempt α} {f : α → Attempt β} (h : x.run.Joinless)
    (hf : ∀ a, (f a).run.Joinless) : (x >>= f).run.Joinless := by
  rw [ExceptT.run_bind]
  refine Dialogue.Joinless.bind h fun r ↦ ?_
  cases r with
  | ok a => exact hf a
  | error e => exact .done _

theorem onlyTells_ofExcept (r : Except Failure α) : (ofExcept r).run.OnlyTells := .done r

theorem onlyTells_lift {d : Dialogue α} (h : d.OnlyTells) : (lift d).run.OnlyTells :=
  h.bind fun _ ↦ .done _

theorem onlyTells_bind {x : Attempt α} {f : α → Attempt β} (h : x.run.OnlyTells)
    (hf : ∀ a, (f a).run.OnlyTells) : (x >>= f).run.OnlyTells := by
  rw [ExceptT.run_bind]
  refine Dialogue.OnlyTells.bind h fun r ↦ ?_
  cases r with
  | ok a => exact hf a
  | error e => exact .done _

end Attempt

end NewsWire.Poll

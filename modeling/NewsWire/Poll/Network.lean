import NewsWire.Http.Exchange
import NewsWire.Poll.Dialogue

/-!
# Networks

A network is what answers requests. Its answer to a request may depend on all the requests it has
seen before. A request that does not reach it fails, and the network does not see it.

Strands that are under way together have their requests in flight together. The network sees these
requests, and they come to their outcomes, in any order: a schedule names the strand that goes on
next, again and again. Whatever the schedule leaves over goes on in the order of the strands. The
results stand in the order of the strands, whatever the schedule is.

A network is a function and a schedule a list, so a statement for all of them covers every way in
which requests and replies may interleave, also answers that change from one request to the next.
What a run leaves behind is a `Trace`; time itself is not in it, only what was waited for.
-/

namespace NewsWire.Poll

open NewsWire.Http

/-! ## Networks -/

/-- What answers requests. -/
structure Network where
  reaches : Http.Request → Bool
  answer : (seen : List Http.Request) → Http.Request → Outcome

/-- The network that no request reaches. -/
def Network.unreachable : Network := ⟨fun _ ↦ false, fun _ _ ↦ .failed⟩

/-- The network that answers by a script. Encrypted requests do not reach it. -/
def Network.scripted (s : Script) : Network := ⟨fun r ↦ !r.url.isEncrypted, s.answer⟩

/-- What has happened so far: the requests that the network has seen, the events that were told, and
the waits, all in order. -/
@[ext]
structure Trace where
  seen : List Http.Request
  events : List Event
  waits : List UInt64
  deriving DecidableEq, Repr

def Trace.empty : Trace := ⟨[], [], []⟩

def Trace.tell (t : Trace) (es : List Event) : Trace := { t with events := t.events ++ es }

@[simp] theorem Trace.seen_tell (t : Trace) (es : List Event) : (t.tell es).seen = t.seen := rfl

@[simp] theorem Trace.events_tell (t : Trace) (es : List Event) :
    (t.tell es).events = t.events ++ es := rfl

@[simp] theorem Trace.tell_nil (t : Trace) : t.tell [] = t := by
  rw [tell, List.append_nil]

theorem Trace.tell_tell (t : Trace) (es more : List Event) :
    (t.tell es).tell more = t.tell (es ++ more) := by
  rw [tell, tell, tell, List.append_assoc]

/-- Send a request: its outcome, and the requests seen after it. -/
def Network.send (n : Network) (seen : List Http.Request) (r : Http.Request) :
    Outcome × List Http.Request :=
  if n.reaches r then (n.answer seen r, seen ++ [r]) else (.failed, seen)

/-! ## Strands under way together -/

/-- Strands that have been begun, each as far as it has come. -/
abbrev Pool (α : Type) := List (Strand α)

/-- An order in which strands under way together go on, for so many strands. -/
abbrev Schedule := Nat → List Nat

namespace Strand

variable {α : Type}

/-- The request in flight comes to its outcome, and the strand goes on to its next one. -/
def land (n : Network) : Strand α → Trace → Strand α × Trace
  | ask r next, t =>
    let (o, seen) := n.send t.seen r
    ((next o).begun, { t with seen }.tell (next o).told)
  | strand, t => (strand, t)

theorem land_ask (n : Network) (r : Http.Request) (next : Outcome → Strand α) (t : Trace) :
    (ask r next).land n t = ((next (n.send t.seen r).1).begun,
      { t with seen := (n.send t.seen r).2 }.tell (next (n.send t.seen r).1).told) := rfl

/-- Carry out a strand to its end. -/
def finish (n : Network) : Strand α → Trace → α × Trace
  | done a, t => (a, t)
  | tell e next, t => next.finish n (t.tell [e])
  | ask r next, t =>
    let (o, seen) := n.send t.seen r
    (next o).finish n { t with seen }

theorem finish_ask (n : Network) (r : Http.Request) (next : Outcome → Strand α) (t : Trace) :
    (ask r next).finish n t =
      (next (n.send t.seen r).1).finish n { t with seen := (n.send t.seen r).2 } := rfl

end Strand

namespace Pool

variable {α : Type}

/-- The strand of an index goes on. -/
def step (n : Network) (state : Pool α × Trace) (i : Nat) : Pool α × Trace :=
  match state.1[i]? with
  | none => state
  | some strand =>
    let (strand, t) := strand.land n state.2
    (state.1.set i strand, t)

/-- Carry out all strands to their ends, one after another. -/
def finish (n : Network) : Pool α → Trace → List α × Trace
  | [], t => ([], t)
  | strand :: rest, t =>
    let (a, t) := strand.finish n t
    let (found, t) := finish n rest t
    (a :: found, t)

end Pool

/-- Begin strands in order, let them go on in the order of a list of indices, and carry them out to
their ends. -/
def Network.join {α : Type} (n : Network) (order : List Nat) (strands : List (Strand α))
    (t : Trace) : List α × Trace :=
  let begun : Pool α × Trace := (strands.map Strand.begun, t.tell (strands.flatMap Strand.told))
  let (pool, t) := order.foldl (Pool.step n) begun
  pool.finish n t

/-! ## Carrying out a dialogue -/

def Dialogue.run {α : Type} (n : Network) (s : Schedule) : Dialogue α → Trace → α × Trace
  | .done a, t => (a, t)
  | .tell e next, t => next.run n s (t.tell [e])
  | .wait d next, t => next.run n s { t with waits := t.waits ++ [d] }
  | .ask r next, t =>
    let (o, seen) := n.send t.seen r
    (next o).run n s { t with seen }
  | .join strands next, t =>
    let (found, t) := n.join (s strands.length) strands t
    (next found).run n s t

theorem Dialogue.run_bind {α β : Type} (n : Network) (s : Schedule) (d : Dialogue α)
    (f : α → Dialogue β) (t : Trace) :
    (d.bind f).run n s t = (f (d.run n s t).1).run n s (d.run n s t).2 := by
  induction d generalizing t with
  | done a => rfl
  | tell e next ih => simp only [bind, run, ih]
  | wait w next ih => simp only [bind, run, ih]
  | ask r next ih => simp only [bind, run, ih]
  | join strands next ih => simp only [bind, run, ih]

end NewsWire.Poll

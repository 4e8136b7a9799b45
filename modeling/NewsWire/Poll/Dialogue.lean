import NewsWire.Http.Exchange
import NewsWire.Poll.Event

/-!
# Dialogues

A dialogue is what a poll does, as data: it asks the network for resources, goes on with what
becomes of the requests, tells observers of events, waits, and in the end has a result.

What can be done besides other things is a strand of a dialogue: it asks and tells but never waits.
Strands that are joined are begun in order, each as far as its first request, and from then on are
under way together. The dialogue goes on when all of them are done, and sees their results in the
order of the strands.

A dialogue does nothing by itself. `Dialogue.carryOut` carries it out in any monad that can tell,
wait and ask; `NewsWire.Poll.Network` says what happens against a network. So the program that runs
and the program that is reasoned about are one: they differ in the carrier and in nothing else.
-/

namespace NewsWire.Poll

open NewsWire.Http

/-! ## Strands

That strands never wait, and cannot be joined inside each other, is in their type. It keeps the ways
in which they may go on together simple enough to be listed: at any time each strand is done or has
one request in flight. -/

/-- What is done, besides other things, to come to a result of type `α`. -/
inductive Strand (α : Type) where
  | done (result : α)
  | tell (event : Event) (next : Strand α)
  | ask (request : Http.Request) (next : Outcome → Strand α)

namespace Strand

variable {α β : Type}

/-- Go on with the result. -/
def bind : Strand α → (α → Strand β) → Strand β
  | done a, f => f a
  | tell e next, f => tell e (next.bind f)
  | ask r next, f => ask r fun o ↦ (next o).bind f

/-- What a strand tells before it asks for anything. -/
def told : Strand α → List Event
  | tell e next => e :: next.told
  | _ => []

/-- What is left of a strand when it has told that: it is done, or its request is in flight. -/
def begun : Strand α → Strand α
  | tell _ next => next.begun
  | strand => strand

/-- Carry out a strand act by act. -/
def carryOut {m : Type → Type} [Monad m] (tell : Event → m Unit)
    (ask : Http.Request → m Outcome) : Strand α → m α
  | .done a => pure a
  | .tell e next => do
    tell e
    next.carryOut tell ask
  | .ask r next => do
    let o ← ask r
    (next o).carryOut tell ask

end Strand

/-! ## Dialogues

The continuation of an act is a function of what the act brought, so a dialogue is a tree with a
branch for every outcome. Proofs about polls are inductions on this tree. -/

/-- What is done to come to a result of type `α`. -/
inductive Dialogue (α : Type) : Type 1 where
  | done (result : α)
  | tell (event : Event) (next : Dialogue α)
  | wait (delayMs : UInt64) (next : Dialogue α)
  | ask (request : Http.Request) (next : Outcome → Dialogue α)
  | join {β : Type} (strands : List (Strand β)) (next : List β → Dialogue α)

namespace Dialogue

variable {α β γ : Type}

/-- Go on with the result. -/
def bind : Dialogue α → (α → Dialogue β) → Dialogue β
  | done a, f => f a
  | tell e next, f => tell e (next.bind f)
  | wait d next, f => wait d (next.bind f)
  | ask r next, f => ask r fun o ↦ (next o).bind f
  | join strands next, f => join strands fun found ↦ (next found).bind f

instance : Monad Dialogue where
  pure := done
  bind := bind

/-- A strand with nothing besides it. -/
def ofStrand : Strand α → Dialogue α
  | .done a => done a
  | .tell e next => tell e (ofStrand next)
  | .ask r next => ask r fun o ↦ ofStrand (next o)

def telling (e : Event) : Dialogue Unit := tell e (done ())

def waiting (delayMs : UInt64) : Dialogue Unit := wait delayMs (done ())

def asking (r : Http.Request) : Dialogue Outcome := ask r done

/-- What strands that are under way together come to. -/
def joining (strands : List (Strand α)) : Dialogue (List α) := join strands done

@[simp] theorem pure_eq (a : α) : (pure a : Dialogue α) = done a := rfl

@[simp] theorem bind_eq (d : Dialogue α) (f : α → Dialogue β) : d >>= f = d.bind f := rfl

theorem bind_done (d : Dialogue α) : d.bind done = d := by
  induction d with
  | done a => rfl
  | tell e next ih => rw [bind, ih]
  | wait n next ih => rw [bind, ih]
  | ask r next ih => rw [bind, funext ih]
  | join strands next ih => rw [bind, funext ih]

theorem bind_assoc (d : Dialogue α) (f : α → Dialogue β) (g : β → Dialogue γ) :
    (d.bind f).bind g = d.bind fun a ↦ (f a).bind g := by
  induction d with
  | done a => rfl
  | tell e next ih => rw [bind, bind, bind, ih]
  | wait n next ih => rw [bind, bind, bind, ih]
  | ask r next ih => rw [bind, bind, bind, funext ih]
  | join strands next ih => rw [bind, bind, bind, funext ih]

/-- Dialogues obey the monad laws, so steps may be grouped as one likes. -/
instance : LawfulMonad Dialogue :=
  LawfulMonad.mk' Dialogue (fun d ↦ bind_done d) (fun _ _ ↦ rfl) bind_assoc

/-- How the acts of a dialogue are carried out. -/
structure Carrier (m : Type → Type) where
  tell : Event → m Unit
  wait : UInt64 → m Unit
  ask : Http.Request → m Outcome
  join : {β : Type} → List (Strand β) → m (List β)

/-- Carry out a dialogue act by act. -/
def carryOut {m : Type → Type} [Monad m] (c : Carrier m) : Dialogue α → m α
  | done a => pure a
  | tell e next => do
    c.tell e
    next.carryOut c
  | wait d next => do
    c.wait d
    next.carryOut c
  | ask r next => do
    let o ← c.ask r
    (next o).carryOut c
  | join strands next => do
    let found ← c.join strands
    (next found).carryOut c

end Dialogue

/-- A dialogue that may come to a failure. -/
abbrev Attempt (α : Type) := ExceptT Failure Dialogue α

namespace Attempt

variable {α : Type}

def lift (d : Dialogue α) : Attempt α := ExceptT.mk (d.bind fun a ↦ .done (.ok a))

/-- A result that is there already. -/
def ofExcept (r : Except Failure α) : Attempt α := ExceptT.mk (.done r)

def fail (e : Failure) : Attempt α := ofExcept (.error e)

end Attempt

end NewsWire.Poll

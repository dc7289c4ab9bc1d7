import Montage.Jobs.Job

/-!
# Job events

What subscribers learn about jobs.  Each subscriber has a queue of its own, and an event
that finds the queue full is lost to that subscriber.
-/

namespace Montage.Jobs

/-- Events in the life of a job. -/
inductive Event where
  | created (job : String)
  | progress (job : String) (state : State) (percent : Int)
  | finished (job output : String)
  | failed (job : String) (failure : Failure)
  deriving DecidableEq, Repr, Inhabited

namespace Event

def job : Event → String
  | .created job => job
  | .progress job _ _ => job
  | .finished job _ => job
  | .failed job _ => job

end Event

/-- A subscriber, with the events it has not taken yet. -/
structure Subscriber where
  number : Nat
  pending : List Event
  deriving Inhabited

namespace Subscriber

def capacity : Nat := 100

def offer (subscriber : Subscriber) (event : Event) : Subscriber :=
  if subscriber.pending.length < capacity then
    { subscriber with pending := subscriber.pending ++ [event] }
  else subscriber

end Subscriber

/-- The subscribers in the order in which they came.  A feed that is closed delivers
nothing any more. -/
structure Feed where
  subscribers : List Subscriber := []
  admitted : Nat := 0
  closed : Bool := false
  deriving Inhabited

namespace Feed

def subscribe (feed : Feed) : Feed × Nat :=
  let number := feed.admitted + 1
  (⟨feed.subscribers ++ [⟨number, []⟩], number, false⟩, number)

def unsubscribe (feed : Feed) (number : Nat) : Feed :=
  { feed with subscribers := feed.subscribers.filter (·.number ≠ number) }

/-- The feed after its end.  Subscribers are dropped when the next event comes. -/
def close (feed : Feed) : Feed := { feed with closed := true }

def publish (feed : Feed) (event : Event) : Feed :=
  if feed.closed then { feed with subscribers := [] }
  else { feed with subscribers := feed.subscribers.map (·.offer event) }

/-- The events that a subscriber has not taken yet. -/
def pending (feed : Feed) (number : Nat) : List Event :=
  match feed.subscribers.find? (·.number == number) with
  | some subscriber => subscriber.pending
  | none => []

/-- The feed after a subscriber took some of its events, oldest first. -/
def discard (feed : Feed) (number count : Nat) : Feed :=
  { feed with
    subscribers := feed.subscribers.map fun subscriber =>
      if subscriber.number = number then
        { subscriber with pending := subscriber.pending.drop count }
      else subscriber }

def take (feed : Feed) (number count : Nat) : List Event × Feed :=
  ((feed.pending number).take count, feed.discard number count)

end Feed

end Montage.Jobs

import Compositing.Registry

/-!
One-shot timers on a clock of whole ticks. They fire in order of deadline.
-/

namespace Compositing

inductive TimerFault
  | inactive
  deriving DecidableEq, Repr

def TimerFault.message : TimerFault → String
  | inactive => "Invalid or expired timer ID"

structure Timers where
  now : Nat := 0
  /-- The active timers and their deadlines, in firing order. Those of one deadline stand in the
  order in which they were started. A heap would leave that order open; what is proved in
  `Compositing.Proofs.LazyTimers` covers both. -/
  queue : List (TimerId × Nat) := []
  started : Nat := 0
  deriving DecidableEq, Repr, Inhabited

namespace Timers

def nextId (t : Timers) : TimerId := ⟨t.started⟩

/-- Starts a timer, whose id is the next one, to fire after `delay` ticks. -/
def start (t : Timers) (delay : Nat) : Timers :=
  let due := t.now + delay
  let queue := t.queue.takeWhile (·.2 ≤ due) ++
    (t.nextId, due) :: t.queue.dropWhile (·.2 ≤ due)
  { t with queue, started := t.started + 1 }

def advance (t : Timers) (ticks : Nat) : Timers := { t with now := t.now + ticks }

def isActive (t : Timers) (id : TimerId) : Bool := t.queue.any (·.1 = id)

def stop (t : Timers) (id : TimerId) : Except TimerFault Timers :=
  if t.isActive id then .ok { t with queue := t.queue.filter (·.1 ≠ id) } else .error .inactive

def activeCount (t : Timers) : Nat := t.queue.length

/-- The last instant that a clock can name: it counts seconds in 63 bits, and a tick is an hour. -/
def lastInstant : Nat := 0x7FFFFFFFFFFFFFFF / 3600

def overruns (t : Timers) : Bool := t.queue.any (lastInstant < ·.2)

/-- The ticks left until the next timer is due, none left when it already is. -/
def untilNext (t : Timers) : Option Nat := t.queue.head?.map fun entry => entry.2 - t.now

def dueBy (t : Timers) (instant : Nat) : List TimerId :=
  (t.queue.takeWhile (·.2 ≤ instant)).map (·.1)

/-- Takes out the timers due by an instant, which need not be the clock's. -/
def expire (t : Timers) (instant : Nat) : Timers :=
  { t with queue := t.queue.dropWhile (·.2 ≤ instant) }

end Timers

end Compositing

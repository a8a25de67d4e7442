import Threading.Schedule

/-!
# Conditions

The threads waiting until something holds of an object. A thread goes to sleep;
it is woken by a notification, or for no reason at all; once woken it looks at
the object again before it goes on, and meanwhile others may change the object.

* `notifyOne` wakes one of the sleeping threads, any of them, and is forgotten
  if none sleeps.
* `stir` wakes one without a reason.
-/

namespace Threading

/-- The threads waiting on an object: those asleep, and those that were woken
    and did not look again yet. -/
structure Condition where
  asleep : List ThreadId := []
  woken : List ThreadId := []
  deriving DecidableEq, Repr

namespace Condition

/-- The thread `t` waits. -/
def holds (c : Condition) (t : ThreadId) : Bool := c.asleep.contains t || c.woken.contains t

/-- The thread `t` goes to sleep. -/
def sleep (c : Condition) (t : ThreadId) : Condition :=
  { c with asleep := c.asleep ++ [t] }

/-- The woken thread `t` goes to sleep again. -/
def sleepAgain (c : Condition) (t : ThreadId) : Condition :=
  { asleep := c.asleep ++ [t], woken := c.woken.erase t }

/-- The woken thread `t` waits no longer. -/
def leave (c : Condition) (t : ThreadId) : Condition :=
  { c with woken := c.woken.erase t }

/-- The sleeping thread `t` wakes, notified or not. -/
def stir (c : Condition) (t : ThreadId) : Option Condition :=
  if c.asleep.contains t then some { asleep := c.asleep.erase t, woken := c.woken ++ [t] }
  else none

/-- The thread `chosen` is notified: one that sleeps, or none if none does. -/
def notifyOne (c : Condition) : Option ThreadId → Option Condition
  | some t => c.stir t
  | none => if c.asleep.isEmpty then some c else none

/-- The thread that has slept longest. -/
def first (c : Condition) : Option ThreadId := c.asleep.head?

end Condition

end Threading

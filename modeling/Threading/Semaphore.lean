import Threading.Condition
import Threading.Log

/-!
# Counting semaphores

A semaphore holds permits, up to a ceiling. A thread *waits* for a permit and
takes one, or *posts* one. Each of the following is one atomic step.

* `wait t`: the thread `t` asks for a permit. It takes one, or goes to sleep if
  there is none.
* `look t`: the woken thread `t` looks again, and takes a permit or sleeps on.
* `post chosen`: a permit is given back and the sleeping thread `chosen` is
  woken, if any sleeps. At the ceiling nothing happens at all.
* `stir t`: the sleeping thread `t` wakes for no reason.
-/

namespace Threading

/-- The ceiling that no count can pass. -/
def unbounded : UInt32 := 4294967295

/-- A counting semaphore. -/
structure Semaphore where
  /-- The permits there are. -/
  count : UInt32
  /-- The most permits there can be. -/
  ceiling : UInt32
  /-- The threads waiting for a permit. -/
  waiters : Condition := {}
  deriving DecidableEq, Repr

namespace Semaphore

/-- A semaphore with `initial` permits and the given ceiling. -/
def create (initial ceiling : UInt32) : Except Error Semaphore :=
  if ceiling = 0 ∨ initial > ceiling then .error (.invalidSemaphore initial ceiling)
  else .ok { count := initial, ceiling }

/-- An atomic step. -/
inductive Action
  | wait (thread : ThreadId)
  | look (thread : ThreadId)
  | post (chosen : Option ThreadId)
  | stir (thread : ThreadId)
  deriving DecidableEq, Repr

/-- What a step comes to. -/
inductive Outcome
  /-- The thread took a permit. -/
  | taken
  /-- The thread found no permit and sleeps. -/
  | asleep
  /-- A permit was given back. -/
  | posted
  /-- The count is at the ceiling. -/
  | overflow
  /-- A thread woke. -/
  | stirred
  deriving DecidableEq, Repr

/-- The semaphore after a step, and what the step came to; `none` if the step
    is not possible. -/
def step (s : Semaphore) : Action → Option (Effect Semaphore Outcome)
  | .wait t =>
    if s.waiters.holds t then none
    else if s.count = 0 then
      some { state := { s with waiters := s.waiters.sleep t }, outcome := .asleep }
    else some { state := { s with count := s.count - 1 }, outcome := .taken }
  | .look t =>
    if s.waiters.woken.contains t then
      if s.count = 0 then
        some { state := { s with waiters := s.waiters.sleepAgain t }, outcome := .asleep }
      else
        some {
          state := { s with count := s.count - 1, waiters := s.waiters.leave t }
          outcome := .taken }
    else none
  | .post chosen =>
    if s.count = s.ceiling then some { state := s, outcome := .overflow }
    else (s.waiters.notifyOne chosen).map fun waiters =>
      { state := { s with count := s.count + 1, waiters }, outcome := .posted }
  | .stir t => (s.waiters.stir t).map fun waiters =>
      { state := { s with waiters }, outcome := .stirred }

/-- What a post that came to this returns. -/
def postResult (s : Semaphore) : Outcome → Except Error Unit
  | .overflow => .error (.semaphoreOverflow s.ceiling)
  | _ => .ok ()

end Semaphore

end Threading

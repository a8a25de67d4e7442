import Threading.Condition
import Threading.Growth
import Threading.Log

/-!
# Blocking queues

A queue hands its items out in the order they came in, and lets a thread wait
for an item while it is empty. Each of the following is one atomic step.

* `push item memory chosen`: the item joins the end, and the sleeping thread
  `chosen` is woken, if any sleeps; without `memory` to grow nothing happens.
* `pop t`: the thread `t` takes the first item, or goes to sleep if there is none.
* `look t`: the woken thread `t` looks again, and takes an item or sleeps on.
* `tryPop`: the first item is taken, if there is one.
* `stir t`: the sleeping thread `t` wakes for no reason.

A thread that comes for an item waits while the queue is empty, and then takes the first
item (`takeFirst`). If it found none after all, it would panic (`wokeEmpty`).
-/

namespace Threading

/-- A first-in first-out queue that threads can wait on. -/
structure BlockingQueue (α : Type) where
  items : List α := []
  /-- The number of items there is room for. -/
  capacity : Nat := 0
  /-- The threads waiting for an item. -/
  poppers : Condition := {}
  deriving Repr

namespace BlockingQueue

variable {α : Type}

/-- The number of queued items. -/
def length (q : BlockingQueue α) : Nat := q.items.length

/-- No item is queued. -/
def isEmpty (q : BlockingQueue α) : Bool := q.items.isEmpty

/-- The items that a queue hands back when it is taken apart. -/
def destroy (q : BlockingQueue α) : List α := q.items

/-- An atomic step. -/
inductive Action (α : Type)
  | push (item : α) (memory : Bool) (chosen : Option ThreadId)
  | pop (thread : ThreadId)
  | look (thread : ThreadId)
  | tryPop
  | stir (thread : ThreadId)
  deriving Repr

/-- What a step comes to. -/
inductive Outcome (α : Type)
  /-- The item was queued. -/
  | pushed
  /-- The queue could not grow, and the item is not in it. -/
  | refused (item : α)
  /-- An item was handed out. -/
  | popped (item : α)
  /-- The thread found no item and sleeps. -/
  | asleep
  /-- There is no item. -/
  | empty
  /-- A thread woke. -/
  | stirred
  /-- The thread waits no longer, and there is no item. -/
  | wokeEmpty
  deriving Repr

/-- What a pop panics with that waits no longer and finds no item. -/
def wokeEmptyText : String := "internal error: entered unreachable code: woke with an empty queue"

/-- A thread that waits no longer takes the first item. -/
def takeFirst (q : BlockingQueue α) : Effect (BlockingQueue α) (Outcome α) :=
  match q.items with
  | [] => { state := q, outcome := .wokeEmpty }
  | item :: items => { state := { q with items }, outcome := .popped item }

/-- The queue after a step, and what the step came to; `none` if the step is
    not possible. -/
def step (q : BlockingQueue α) : Action α → Option (Effect (BlockingQueue α) (Outcome α))
  | .push item memory chosen =>
    match reserveOne q.length q.capacity memory with
    | none => some { state := q, outcome := .refused item }
    | some capacity => (q.poppers.notifyOne chosen).map fun poppers =>
        { state := { items := q.items ++ [item], capacity, poppers }, outcome := .pushed }
  | .pop t =>
    if q.poppers.holds t then none
    else if q.isEmpty then
      some { state := { q with poppers := q.poppers.sleep t }, outcome := .asleep }
    else some q.takeFirst
  | .look t =>
    if !q.poppers.woken.contains t then none
    else if q.isEmpty then
      some { state := { q with poppers := q.poppers.sleepAgain t }, outcome := .asleep }
    else some { q with poppers := q.poppers.leave t }.takeFirst
  | .tryPop =>
    match q.items with
    | [] => some { state := q, outcome := .empty }
    | item :: items => some { state := { q with items }, outcome := .popped item }
  | .stir t => (q.poppers.stir t).map fun poppers =>
      { state := { q with poppers }, outcome := .stirred }

/-- What a push that came to this returns. -/
def pushResult : Outcome α → Except Error Unit
  | .refused _ => .error (.allocation .exhausted)
  | _ => .ok ()

end BlockingQueue

end Threading

import Threading.BlockingQueue
import Threading.CommandLine.PoolRun
import Threading.Handle

/-!
# Moving items through a queue

The main thread makes as many producers as consumers, starts all of them in
order, producers first, then joins all of them in that order, and prints how many
items were popped and how many are left. Producer `i` pushes the items `100 * i`,
`100 * i + 1`, …, and every consumer pops as many items as a producer pushes. Each
says which item it moved, and a consumer counts it.

The main thread is agent 0, producer `i` agent `i + 1`, and the consumers follow.
`step` gives the atomic steps of all agents; `move` is the one that an agent takes
when all threads are created, memory never ends, the consumer that slept longest is
woken and nobody wakes for no reason.
-/

namespace Threading.CommandLine

/-- Where the main thread is. -/
inductive QueuePlace
  /-- Starting this thread. -/
  | starting (index : Nat)
  /-- About to join this thread. -/
  | joining (index : Nat)
  /-- Waiting for this thread to be gone. -/
  | collecting (index : Nat)
  | finished
  | failed (error : Error)
  deriving DecidableEq, Repr

/-- What a producer or a consumer does about an item. -/
inductive Handling
  /-- About to push or pop the next item, if one is to come. -/
  | moving
  /-- It pushed or popped this item, and is about to say so. -/
  | telling (item : UInt32)
  /-- It could not push this item, and is about to say so. -/
  | losing (item : UInt32) (error : Error)
  /-- It said what it popped, and is about to count it. -/
  | counting
  deriving DecidableEq, Repr

/-- A producer or a consumer. -/
structure Mover where
  handle : Handle Unit
  /-- The number of items that it is done with. -/
  moved : Nat := 0
  handling : Handling := .moving

/-- The mover is done with an item. -/
def Mover.proceed (m : Mover) : Mover := { m with moved := m.moved + 1, handling := .moving }

/-- A run of producers and consumers on a queue. -/
structure QueueRun where
  /-- The number of producers, and of consumers. -/
  threads : Nat
  /-- The number of items that each of them moves. -/
  items : Nat
  queue : BlockingQueue UInt32 := {}
  /-- The producers, and after them the consumers. -/
  movers : List Mover
  place : QueuePlace := .starting 0
  /-- The number of items that consumers counted. -/
  popped : Nat := 0
  /-- The line that was printed. -/
  printed : Option String := none
  /-- The records logged so far, the last first. -/
  log : List Record := []

namespace QueueRun

/-- A new mover. -/
def mover (label : String) (index : Nat) : Mover :=
  { handle := .create (.ofString s!"{label}-{index}") () }

/-- The beginning of a run. -/
def create (threads items : Nat) : QueueRun :=
  { threads, items
    movers := (List.range threads).map (mover "producer")
      ++ (List.range threads).map (mover "consumer") }

/-- The run with another mover in this place. -/
def setMover (r : QueueRun) (index : Nat) (m : Mover) : QueueRun :=
  { r with movers := r.movers.set index m }

/-- The run after a record. -/
def note (r : QueueRun) (record : Record) : QueueRun := { r with log := record :: r.log }

/-- The run after a step of the handle of the mover `m`. -/
def setHandle (r : QueueRun) (index : Nat) (m : Mover)
    (e : Effect (Handle Unit) (Handle.Outcome Unit)) : QueueRun :=
  { r with log := (e.notices.map Notice.record).reverse ++ r.log }.setMover index
    { m with handle := e.state }

/-- What the run prints. -/
def summary (r : QueueRun) : String :=
  s!"popped {r.popped} items, {r.queue.length} left in queue"

/-- The answer of the operating system to the creation of a mover: a refusal, or the thread of
    that agent. -/
def answer (index : Nat) : Option Refusal → Except Refusal ThreadId
  | some refusal => .error refusal
  | none => .ok (index + 1)

/-- What the main thread does next to start a thread. -/
def startAction (h : Handle Unit) (index : Nat) (refusal : Option Refusal) : Handle.Action :=
  match h.lock with
  | .free => .start 0
  | .starting _ => .spawn 0 (answer index refusal)
  | _ => .proceed 0

/-- The next step of the main thread. -/
def mainStep (r : QueueRun) (refusal : Option Refusal) : Option QueueRun := do
  match r.place with
  | .starting index =>
    match r.movers[index]? with
    | none => some { r with place := .joining 0 }
    | some m =>
      let e ← m.handle.step (startAction m.handle index refusal)
      match e.outcome with
      | .returned (.ok ()) => some { r.setHandle index m e with place := .starting (index + 1) }
      | .returned (.error error) => some { r.setHandle index m e with place := .failed error }
      | _ => some (r.setHandle index m e)
  | .joining index =>
    match r.movers[index]? with
    | none => some { r with place := .finished, printed := some r.summary }
    | some m =>
      let e ← m.handle.step (.join 0)
      match e.outcome with
      | .returned (.ok ()) => some { r.setHandle index m e with place := .joining (index + 1) }
      | .returned (.error error) => some { r.setHandle index m e with place := .failed error }
      | _ => some { r.setHandle index m e with place := .collecting index }
  | .collecting index =>
    let m ← r.movers[index]?
    let e ← m.handle.step (.proceed 0)
    match e.outcome with
    | .returned (.error error) => some { r.setHandle index m e with place := .failed error }
    | _ => some { r.setHandle index m e with place := .joining (index + 1) }
  | .finished | .failed _ => none

/-- The item that a producer pushes after so many others. -/
def item (producer moved : Nat) : UInt32 :=
  UInt32.ofNat producer * 100 + UInt32.ofNat moved

/-- An atomic step. -/
inductive Action
  /-- The main thread moves. If it asks for a thread, the operating system may refuse. -/
  | main (refusal : Option Refusal)
  /-- A producer or a consumer moves. If it pushes an item, the queue may find memory to
      grow, and `chosen` is the sleeping thread to wake, or none if none sleeps. -/
  | mover (index : Nat) (memory : Bool) (chosen : Option ThreadId)
  /-- A thread waiting for an item wakes for no reason. -/
  | stir (thread : ThreadId)
  deriving DecidableEq, Repr

/-- A producer pushes its next item. -/
def pushStep (r : QueueRun) (index : Nat) (memory : Bool) (chosen : Option ThreadId) (m : Mover) :
    Option QueueRun := do
  let value := item index m.moved
  let e ← r.queue.step (.push value memory chosen)
  let handling : Handling := match BlockingQueue.pushResult e.outcome with
    | .ok () => .telling value
    | .error error => .losing value error
  some ({ r with queue := e.state }.setMover index { m with handling })

/-- A consumer pops an item, or looks again for one. A pop that panics ends its closure. -/
def popStep (r : QueueRun) (index : Nat) (m : Mover) : Option QueueRun := do
  let action := if r.queue.poppers.holds (index + 1) then .look (index + 1) else .pop (index + 1)
  let e ← r.queue.step action
  match e.outcome with
  | .popped value =>
    some ({ r with queue := e.state }.setMover index { m with handling := .telling value })
  | .wokeEmpty =>
    (m.handle.step (.ended (index + 1) true)).map ({ r with queue := e.state }.setHandle index m)
  | _ => some { r with queue := e.state }

/-- The next step of a mover in its closure; after the last item it is over. -/
def insideStep (r : QueueRun) (index : Nat) (memory : Bool) (chosen : Option ThreadId)
    (m : Mover) : Option QueueRun :=
  match m.handling with
  | .moving =>
    if r.items ≤ m.moved then
      (m.handle.step (.ended (index + 1) false)).map (r.setHandle index m)
    else if index < r.threads then r.pushStep index memory chosen m
    else r.popStep index m
  | .telling value =>
    if index < r.threads then
      some ((r.note (infoRecord s!"Producer {index} pushed {value}")).setMover index m.proceed)
    else
      some ((r.note (infoRecord s!"Consumer {index - r.threads} popped {value}")).setMover index
        { m with handling := .counting })
  | .losing value error =>
    let record : Record :=
      ⟨.error, "workpool", s!"Producer {index} lost {value}: {error.message}"⟩
    some ((r.note record).setMover index m.proceed)
  | .counting => some ({ r with popped := r.popped + 1 }.setMover index m.proceed)

/-- The next step of a mover. -/
def moverStep (r : QueueRun) (index : Nat) (memory : Bool) (chosen : Option ThreadId) :
    Option QueueRun := do
  let m ← r.movers[index]?
  match m.handle.spawned with
  | some { progress := .inside, .. } => r.insideStep index memory chosen m
  | _ => (m.handle.step (.advance (index + 1))).map (r.setHandle index m)

/-- The run after a step; `none` if the step is not possible. -/
def step (r : QueueRun) : Action → Option QueueRun
  | .main refusal => r.mainStep refusal
  | .mover index memory chosen => r.moverStep index memory chosen
  | .stir thread => (r.queue.step (.stir thread)).map fun e => { r with queue := e.state }

/-- The run after the next step of an agent; `none` if it cannot move. -/
def move (r : QueueRun) : Nat → Option QueueRun
  | 0 => r.step (.main none)
  | index + 1 => r.step (.mover index true r.queue.poppers.first)

/-- The number of agents. -/
def agents (r : QueueRun) : Nat := r.movers.length + 1

/-- The run when nobody can move any more. -/
def finish (r : QueueRun) : QueueRun :=
  let fuel := 16 * (r.threads * (r.items + 2) + 2)
  Schedule.settle move agents fuel fuel r

end QueueRun

end Threading.CommandLine

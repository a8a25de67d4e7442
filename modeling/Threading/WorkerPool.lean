import Threading.Growth
import Threading.Handle

/-!
# Worker pools

A pool has a fixed number of workers, each a thread that takes tasks from one
list in the order they were accepted. A worker whose thread the operating
system refused is never there, and one whose task panics is not replaced.

* A *submit* adds a task to the list and wakes one sleeping worker, unless the
  pool is shut down or the list cannot grow.
* A *worker* looks at the list under its lock: it takes the first task and runs
  it, or leaves if the pool is shut down and nothing is queued, or goes to
  sleep. It looks again when woken, for whatever reason (`stir`).
* A *destroy* first asks of every worker in turn whether it is called on that
  worker's thread. Then it shuts the pool down and wakes all workers. On a
  worker's own thread that is all; otherwise it waits for the teardown lock,
  joins the workers in order, and drops the tasks that nobody was left to run.

When the last reference goes, the pool is destroyed and then *abandoned*: its
handles go, and the list goes with the last thread that still uses it.

`step` gives the atomic steps of all callers and workers. A thread makes one
call at a time, and a worker calls only from its tasks.
-/

namespace Threading

/-- Where a worker is in its loop. -/
inductive Loop (τ : Type)
  /-- Not in its loop: its thread did not begin, or has left for good. -/
  | outside
  /-- About to look at the list. -/
  | looking
  /-- Asleep until there is something to do. -/
  | asleep
  /-- Woken, and about to look again. -/
  | woken
  /-- Running a task. -/
  | running (task : τ)
  /-- The pool was found shut down and the list empty. -/
  | leaving
  /-- A task panicked. -/
  | lost
  /-- About to let go of the list. -/
  | releasing (panicked : Bool)
  deriving DecidableEq, Repr

/-- A worker: its thread, and where it is in its loop. -/
structure Worker (τ : Type) where
  handle : Handle Unit
  loop : Loop τ := .outside

namespace Worker

variable {τ : Type}

/-- The thread of a worker. -/
def thread? (w : Worker τ) : Option ThreadId := w.handle.spawned.map Course.thread

/-- The worker is running a task. -/
def isRunning (w : Worker τ) : Bool :=
  match w.loop with
  | .running _ => true
  | _ => false

/-- The worker still uses the list of tasks. -/
def holdsList (w : Worker τ) : Bool :=
  match w.handle.spawned with
  | none => w.handle.job.isSome
  | some { progress := .ended _, .. } => false
  | some { progress := .lowered _, .. } => false
  | some { progress := .exited _, .. } => false
  | _ => true

/-- A sleeping worker, woken. -/
def wake (w : Worker τ) : Worker τ :=
  match w.loop with
  | .asleep => { w with loop := .woken }
  | _ => w

/-- The worker of an abandoned pool: a closure that was not started goes. -/
def abandon (w : Worker τ) : Worker τ :=
  match w.handle.step .drop with
  | some e => { w with handle := e.state }
  | none => w

end Worker

/-- How far a destroy got. -/
inductive Destroying
  /-- About to ask whether it is called on the thread of this worker. -/
  | asking (worker : Nat)
  /-- About to shut the pool down. -/
  | shutting (fromWorker : Bool)
  /-- Waiting for the teardown lock. -/
  | waiting
  /-- About to join this worker. -/
  | joining (worker : Nat)
  /-- Waiting for the thread of this worker to be gone. -/
  | collecting (worker : Nat)
  /-- About to take the tasks that are left. -/
  | taking
  /-- Dropping that many tasks. -/
  | dropping (count : Nat)
  deriving DecidableEq, Repr

/-- A pool of workers for tasks in `τ`. -/
structure WorkerPool (τ : Type) where
  /-- The queued tasks. -/
  tasks : List τ := []
  /-- The number of tasks there is room for. -/
  capacity : Nat := 0
  shutdown : Bool := false
  workers : List (Worker τ)
  /-- The thread that holds the teardown lock. -/
  teardown : Option ThreadId := none
  /-- The destroys under way, by the thread that called them. -/
  destroys : List (ThreadId × Destroying) := []
  /-- The last reference to the pool is gone. -/
  abandoned : Bool := false

namespace WorkerPool

variable {τ : Type}

/-- The label of a pool nobody labelled. -/
def defaultLabel : String := "workpool"

/-- The name of a worker of the pool labelled `label`. -/
def workerName (label : String) (worker : Nat) : ThreadName :=
  .ofString s!"{label}-{worker}"

/-- A worker's handle after its start, with the answer of the operating system. -/
def startWorker (label : String) (worker : Nat) (answer : Except Refusal ThreadId) :
    Effect (Worker τ) Unit :=
  let name := workerName label worker
  match answer with
  | .ok thread =>
    { state := { handle := .createStarted name () thread }
      outcome := ()
      notices := [.threadStarted name.text] }
  | .error refusal =>
    { state := { handle := .create name () }
      outcome := ()
      notices := [.threadRefused name.text refusal,
        .workerUnavailable worker (.spawn name.text refusal)] }

/-- A pool with one worker for each answer of the operating system. -/
def create (label : String) (answers : List (Except Refusal ThreadId)) :
    Except Error (Effect (WorkerPool τ) Unit) :=
  if answers.isEmpty then .error .noWorkers
  else
    let starts := answers.mapIdx (startWorker label)
    let workers : List (Worker τ) := starts.map (·.state)
    let started := workers.countP fun w => w.handle.stage != .idle
    .ok {
      state := { workers }
      outcome := ()
      notices := starts.flatMap (·.notices) ++ [.poolStarted label started answers.length] }

/-- The number of workers asked for. -/
def workerCount (p : WorkerPool τ) : Nat := p.workers.length

/-- The number of workers that got a thread. -/
def spawnedWorkers (p : WorkerPool τ) : Nat := p.workers.countP fun w => w.handle.stage != .idle

/-- The number of workers in their loop. -/
def liveWorkers (p : WorkerPool τ) : Nat := p.workers.countP fun w => w.handle.alive

/-- The number of queued tasks. -/
def pending (p : WorkerPool τ) : Nat := p.tasks.length

/-- Some thread, or the pool itself, still uses the list of tasks. -/
def listHeld (p : WorkerPool τ) : Bool := !p.abandoned || p.workers.any Worker.holdsList

/-- An atomic step. -/
inductive Action (τ : Type)
  /-- A task is handed in. The list may find memory to grow; `chosen` is the
      sleeping worker to wake, or none if none sleeps. -/
  | submit (task : τ) (memory : Bool) (chosen : Option Nat)
  /-- The next step of the thread of a worker, outside its tasks. -/
  | advance (worker : Nat)
  /-- The task of a worker is over. -/
  | taskEnded (worker : Nat) (panicked : Bool)
  /-- A sleeping worker wakes for no reason. -/
  | stir (worker : Nat)
  /-- A thread calls destroy. -/
  | destroy (caller : ThreadId)
  /-- The next step of the destroy called by that thread. -/
  | proceed (caller : ThreadId)
  /-- The last reference goes, after a destroy. -/
  | abandon

/-- What a step comes to. -/
inductive Outcome (τ : Type)
  /-- The call or the thread is one step on. -/
  | moved
  /-- The task is queued. -/
  | accepted
  /-- The task is not queued, and goes back to be dropped. -/
  | rejected (error : Error) (task : τ)
  /-- The task begins. -/
  | invoked (task : τ)
  /-- The task returned, or panicked. -/
  | finished (task : τ)
  /-- The tasks are gone without having run. -/
  | freed (tasks : List τ)
  /-- The destroy is over. -/
  | returned (dropped : Nat)
  /-- The thread is gone. -/
  | exited

/-- The first sleeping worker. -/
def firstAsleep (p : WorkerPool τ) : Option Nat :=
  p.workers.findIdx? fun w => match w.loop with
    | .asleep => true
    | _ => false

/-- The pool with a worker at another place in its loop. -/
def setLoop (p : WorkerPool τ) (worker : Nat) (loop : Loop τ) : WorkerPool τ :=
  { p with workers := p.workers.modify worker fun w => { w with loop } }

/-- The pool with another handle of a worker. -/
def setHandle (p : WorkerPool τ) (worker : Nat) (handle : Handle Unit) : WorkerPool τ :=
  { p with workers := p.workers.modify worker fun w => { w with handle } }

/-- The workers after the sleeping worker `chosen` was notified, or none if
    none sleeps. -/
def notifyOne (p : WorkerPool τ) : Option Nat → Option (List (Worker τ))
  | none => if p.firstAsleep.isNone then some p.workers else none
  | some worker =>
    match p.workers[worker]? with
    | some { loop := .asleep, .. } => some (p.workers.modify worker Worker.wake)
    | _ => none

/-- The destroy under way of the thread `caller`. -/
def destroying (p : WorkerPool τ) (caller : ThreadId) : Option Destroying :=
  p.destroys.lookup caller

/-- The pool with the destroy of `caller` one step on. -/
def setDestroying (p : WorkerPool τ) (caller : ThreadId) (d : Destroying) : WorkerPool τ :=
  { p with destroys := p.destroys.map fun (c, old) => if c = caller then (c, d) else (c, old) }

/-- The pool with the destroy of `caller` over. -/
def endDestroying (p : WorkerPool τ) (caller : ThreadId) : WorkerPool τ :=
  { p with destroys := p.destroys.filter fun (c, _) => c != caller }

/-- A worker looks at the list. -/
def look (p : WorkerPool τ) (worker : Nat) : Effect (WorkerPool τ) (Outcome τ) :=
  match p.tasks with
  | task :: tasks =>
    { state := { p with tasks }.setLoop worker (.running task)
      outcome := .invoked task
      notices := [.taskBegun worker] }
  | [] => { state := p.setLoop worker (if p.shutdown then .leaving else .asleep), outcome := .moved }

/-- The pool after the worker let go of the list; the tasks go if nobody else
    uses it. -/
def release (p : WorkerPool τ) (worker : Nat) (w : Worker τ) (panicked : Bool) :
    Option (Effect (WorkerPool τ) (Outcome τ)) := do
  let course ← w.handle.spawned
  let handle ← w.handle.closureEnded course.thread panicked
  let p := (p.setHandle worker handle).setLoop worker .outside
  if p.listHeld then some { state := p, outcome := .moved }
  else some { state := { p with tasks := [] }, outcome := .freed p.tasks }

/-- The next step of the thread of a worker, outside its tasks. -/
def advance (p : WorkerPool τ) (worker : Nat) : Option (Effect (WorkerPool τ) (Outcome τ)) := do
  let w ← p.workers[worker]?
  match w.loop with
  | .looking | .woken => some (p.look worker)
  | .asleep | .running _ => none
  | .leaving =>
    some {
      state := p.setLoop worker (.releasing false)
      outcome := .moved
      notices := [.workerExiting worker] }
  | .lost =>
    some {
      state := p.setLoop worker (.releasing true)
      outcome := .moved
      notices := [.workerLost worker] }
  | .releasing panicked => p.release worker w panicked
  | .outside =>
    let course ← w.handle.spawned
    let (handle, outcome) ← w.handle.advance course.thread
    let p := p.setHandle worker handle
    match outcome with
    | .invoked () => some { state := p.setLoop worker .looking, outcome := .moved }
    | .exited _ => some { state := p, outcome := .exited }
    | _ => some { state := p, outcome := .moved }

/-- The task of a worker is over. A task that called destroy waits for it. -/
def taskEnded (p : WorkerPool τ) (worker : Nat) (panicked : Bool) :
    Option (Effect (WorkerPool τ) (Outcome τ)) := do
  let w ← p.workers[worker]?
  match w.loop with
  | .running task =>
    if w.thread?.any fun t => (p.destroying t).isSome then none
    else
      some {
        state := p.setLoop worker (if panicked then .lost else .looking)
        outcome := .finished task }
  | _ => none

/-- The thread `caller` can begin a destroy: it has none under way, and on the
    thread of a worker only a task can call. -/
def admitsDestroy (p : WorkerPool τ) (caller : ThreadId) : Bool :=
  (p.destroying caller).isNone &&
    p.workers.all fun w => w.thread? != some caller || w.isRunning

/-- What a destroy reports when the join of a worker is over. -/
def joinNotices : Except Error Unit → List Notice
  | .ok () => []
  | .error e => [.workerJoinFailed e]

/-- The next step of the destroy that `caller` has under way. -/
def proceed (p : WorkerPool τ) (caller : ThreadId) :
    Option (Effect (WorkerPool τ) (Outcome τ)) := do
  match ← p.destroying caller with
  | .asking worker =>
    match p.workers[worker]? with
    | none => some { state := p.setDestroying caller (.shutting false), outcome := .moved }
    | some w =>
      if !w.handle.isUnlocked then none
      else if w.handle.isCurrent caller then
        some { state := p.setDestroying caller (.shutting true), outcome := .moved }
      else some { state := p.setDestroying caller (.asking (worker + 1)), outcome := .moved }
  | .shutting fromWorker =>
    let notices := if p.shutdown then [] else [.shuttingDown p.pending]
    let p := { p with shutdown := true, workers := p.workers.map Worker.wake }
    if fromWorker then
      some {
        state := p.endDestroying caller
        outcome := .returned 0
        notices := notices ++ [.leftUnjoined] }
    else some { state := p.setDestroying caller .waiting, outcome := .moved, notices }
  | .waiting =>
    match p.teardown with
    | some _ => none
    | none =>
      some {
        state := { p with teardown := some caller }.setDestroying caller (.joining 0)
        outcome := .moved }
  | .joining worker =>
    match p.workers[worker]? with
    | none => some { state := p.setDestroying caller .taking, outcome := .moved }
    | some w =>
      let e ← w.handle.step (.join caller)
      let p := p.setHandle worker e.state
      match e.outcome with
      | .returned result =>
        some {
          state := p.setDestroying caller (.joining (worker + 1))
          outcome := .moved
          notices := e.notices ++ joinNotices result }
      | _ =>
        some {
          state := p.setDestroying caller (.collecting worker)
          outcome := .moved
          notices := e.notices }
  | .collecting worker =>
    let w ← p.workers[worker]?
    let e ← w.handle.step (.proceed caller)
    let p := p.setHandle worker e.state
    match e.outcome with
    | .returned result =>
      some {
        state := p.setDestroying caller (.joining (worker + 1))
        outcome := .moved
        notices := e.notices ++ joinNotices result }
    | _ => none
  | .taking =>
    let count := p.pending
    some {
      state := { p with tasks := [] }.setDestroying caller (.dropping count)
      outcome := .freed p.tasks
      notices := if count = 0 then [] else [.tasksDropped count] }
  | .dropping count =>
    some {
      state := { p with teardown := none }.endDestroying caller
      outcome := .returned count }

/-- The pool after a step, what the step came to and what it reported; `none`
    if the step is not possible. -/
def step (p : WorkerPool τ) : Action τ → Option (Effect (WorkerPool τ) (Outcome τ))
  | .submit task memory chosen =>
    if p.abandoned then none
    else if p.shutdown then some { state := p, outcome := .rejected .shutDown task }
    else match reserveOne p.pending p.capacity memory with
      | none => some { state := p, outcome := .rejected (.allocation .exhausted) task }
      | some capacity => (p.notifyOne chosen).map fun workers =>
          { state := { p with tasks := p.tasks ++ [task], capacity, workers }
            outcome := .accepted }
  | .advance worker => p.advance worker
  | .taskEnded worker panicked => p.taskEnded worker panicked
  | .stir worker =>
    match p.workers[worker]? with
    | some { loop := .asleep, .. } => some { state := p.setLoop worker .woken, outcome := .moved }
    | _ => none
  | .destroy caller =>
    if p.abandoned || !p.admitsDestroy caller then none
    else
      some {
        state := { p with destroys := p.destroys ++ [(caller, .asking 0)] }
        outcome := .moved }
  | .proceed caller => p.proceed caller
  | .abandon =>
    if p.abandoned || !p.shutdown || !p.destroys.isEmpty then none
    else
      let p := { p with abandoned := true, workers := p.workers.map Worker.abandon }
      if p.listHeld then some { state := p, outcome := .moved }
      else some { state := { p with tasks := [] }, outcome := .freed p.tasks }

end WorkerPool

end Threading

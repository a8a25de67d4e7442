import Threading.WorkerPool

/-!
# Running counting tasks

The main thread makes a worker pool, submits the tasks `0`, `1`, … to it, destroys
it, and prints how many tasks counted themselves and how many were dropped. Each task
says which one it is, works for some time, and counts itself. At the end the pool
goes, and is destroyed once more on the way. If a task cannot be submitted, the pool
goes at once, and the run fails.

The main thread is agent 0 and worker `i` is agent `i + 1`. `step` gives the
atomic steps of all agents; `move` is the one that an agent takes when the worker
that comes first is woken, memory never ends, and nobody wakes for no reason.
-/

namespace Threading.CommandLine

/-- A record that the command itself logs. -/
def infoRecord (message : String) : Record := ⟨.info, "workpool", message⟩

/-- Where the main thread is. -/
inductive PoolPlace
  /-- About to submit this task. -/
  | submitting (task : Nat)
  /-- Destroying the pool. -/
  | destroying
  /-- About to print; so many tasks were dropped. -/
  | printing (dropped : Nat)
  /-- The pool goes, because of an error if there is one. -/
  | closing (error : Option Error)
  | finished
  | failed (error : Error)
  deriving DecidableEq, Repr

/-- How far a worker got in the task that it runs. -/
inductive TaskPlace
  /-- About to say which task it is. -/
  | telling
  /-- Working, and then about to count the task. -/
  | counting
  /-- About to return. -/
  | returning
  deriving DecidableEq, Repr

/-- A run of tasks on a worker pool. -/
structure PoolRun where
  pool : WorkerPool Nat
  /-- The number of tasks. -/
  tasks : Nat
  place : PoolPlace := .submitting 0
  /-- How far each worker got in its task; a worker without a task will begin there. -/
  within : List TaskPlace
  /-- The number of tasks that counted themselves. -/
  completed : Nat := 0
  /-- The line that was printed. -/
  printed : Option String := none
  /-- The records logged so far, the last first. -/
  log : List Record := []

namespace PoolRun

/-- The run after notices. -/
def report (r : PoolRun) (notices : List Notice) : PoolRun :=
  { r with log := (notices.map Notice.record).reverse ++ r.log }

/-- The run after a record of its own. -/
def note (r : PoolRun) (message : String) : PoolRun :=
  { r with log := infoRecord message :: r.log }

/-- The answer of the operating system to the creation of a worker: a refusal, or
    the thread of that agent. -/
def answer (worker : Nat) : Option Refusal → Except Refusal ThreadId
  | some refusal => .error refusal
  | none => .ok (worker + 1)

/-- The beginning of a run with a worker for each entry, refused where the entry
    says so. -/
def create (refusals : List (Option Refusal)) (tasks : Nat) : Except Error PoolRun :=
  (WorkerPool.create WorkerPool.defaultLabel (refusals.mapIdx answer)).map fun e =>
    let r : PoolRun := { pool := e.state, tasks, within := refusals.map fun _ => .telling }
    (r.report e.notices).note
      s!"Pool ready with {e.state.spawnedWorkers} of {e.state.workerCount} workers"

/-- The run after a step of the pool. -/
def setPool (r : PoolRun) (e : Effect (WorkerPool Nat) (WorkerPool.Outcome Nat)) : PoolRun :=
  { r with pool := e.state }.report e.notices

/-- The run with a worker elsewhere in its task. -/
def setWithin (r : PoolRun) (worker : Nat) (place : TaskPlace) : PoolRun :=
  { r with within := r.within.set worker place }

/-- An atomic step. -/
inductive Action
  /-- The main thread moves. If it submits a task, the list may find memory to
      grow, and `chosen` is the sleeping worker to wake, or none if none sleeps. -/
  | main (memory : Bool) (chosen : Option Nat)
  /-- A worker moves. -/
  | worker (worker : Nat)
  /-- A sleeping worker wakes for no reason. -/
  | stir (worker : Nat)
  deriving DecidableEq, Repr

/-- What the run prints. -/
def summary (r : PoolRun) (dropped : Nat) : String :=
  s!"completed {r.completed} of {r.tasks} tasks on {r.pool.workerCount} workers ({dropped} dropped)"

/-- The main thread calls destroy. -/
def beginDestroy (r : PoolRun) (place : PoolPlace) : Option PoolRun :=
  (r.pool.step (.destroy 0)).map fun e => { r.setPool e with place }

/-- The next step of the main thread. -/
def mainStep (r : PoolRun) (memory : Bool) (chosen : Option Nat) : Option PoolRun := do
  match r.place with
  | .submitting task =>
    if task < r.tasks then
      let e ← r.pool.step (.submit task memory chosen)
      match e.outcome with
      | .rejected error _ => (r.setPool e).beginDestroy (.closing (some error))
      | _ => some { r.setPool e with place := .submitting (task + 1) }
    else r.beginDestroy .destroying
  | .destroying =>
    let e ← r.pool.step (.proceed 0)
    match e.outcome with
    | .returned dropped => some { r.setPool e with place := .printing dropped }
    | _ => some (r.setPool e)
  | .printing dropped =>
    beginDestroy { r with printed := some (r.summary dropped) } (.closing none)
  | .closing error =>
    let e ← r.pool.step (.proceed 0)
    match e.outcome, error with
    | .returned _, none => some { r.setPool e with place := .finished }
    | .returned _, some error => some { r.setPool e with place := .failed error }
    | _, _ => some (r.setPool e)
  | .finished | .failed _ => none

/-- The next step of a worker, in its task or outside. -/
def workerStep (r : PoolRun) (worker : Nat) : Option PoolRun := do
  let w ← r.pool.workers[worker]?
  match w.loop with
  | .running task =>
    match ← r.within[worker]? with
    | .telling => some ((r.note s!"Processing task {task}").setWithin worker .counting)
    | .counting => some ({ r with completed := r.completed + 1 }.setWithin worker .returning)
    | .returning =>
      let e ← r.pool.step (.taskEnded worker false)
      some ((r.setPool e).setWithin worker .telling)
  | _ =>
    let e ← r.pool.step (.advance worker)
    some (r.setPool e)

/-- The run after a step; `none` if the step is not possible. -/
def step (r : PoolRun) : Action → Option PoolRun
  | .main memory chosen => r.mainStep memory chosen
  | .worker worker => r.workerStep worker
  | .stir worker => (r.pool.step (.stir worker)).map r.setPool

/-- The run after the next step of an agent; `none` if it cannot move. -/
def move (r : PoolRun) : Nat → Option PoolRun
  | 0 => r.step (.main true r.pool.firstAsleep)
  | worker + 1 => r.step (.worker worker)

/-- The number of agents. -/
def agents (r : PoolRun) : Nat := r.pool.workerCount + 1

/-- The run when nobody can move any more. -/
def finish (r : PoolRun) : PoolRun :=
  let fuel := 20 * (r.tasks + r.pool.workerCount + 1)
  Schedule.settle move agents fuel fuel r

end PoolRun

end Threading.CommandLine

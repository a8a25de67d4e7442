import Threading.BlockingQueue
import Threading.Handle.Shown
import Threading.JobPool
import Threading.Scenario.Step
import Threading.WorkerPool

/-!
# The session of a scenario

The objects that a scenario made, the threads, and what they reported.

Objects are known by number; a name stands for the object that was registered
under it last. An object lives as long as something refers to it: its name, or
a call under way, or for a pool also a job. When the last reference to it goes
(`Session.release`), what is left to do is given as frames for the thread that
let go of it.

A thread is a stack of frames. It *goes* on with the topmost frame, or *gives*
that frame the value of what it waited for, or *fails*: a panic passes through
the frames, each of which cleans up behind itself.

Each body is a *job* of its own, known by number: the closures of handles, the
tasks and the jobs of pools are such numbers.
-/

namespace Threading.Scenario

/-- The number of a body. -/
abbrev JobId := Nat

/-- A body, and what it captured. -/
structure Job where
  actor : String
  body : List Step
  /-- The handle whose kill switch it got. -/
  switch : Option Nat := none
  /-- The pool it holds a reference to, and the name it knows it by. -/
  held : Option (String × Nat) := none

/-- An object and the number of references to it. -/
structure Owned (α : Type) where
  object : α
  owners : Nat := 1

/-- A pool of either kind. -/
inductive Pool
  | workers (pool : WorkerPool JobId)
  | jobs (pool : JobPool JobId)

/-- A reference to an object. -/
inductive Ref
  | queue (id : Nat)
  | handle (id : Nat)
  | pool (id : Nat)

/-- What a thread was created for: a handle, a worker or the job of a pool. -/
inductive Source
  | handle (id : Nat)
  | worker (pool index : Nat)
  | job (pool index : Nat)

/-- How a thread goes on. -/
inductive Control
  /-- With its topmost frame. -/
  | go
  /-- By giving its topmost frame a value. -/
  | give (v : Value)
  /-- By passing a panic to its topmost frame. -/
  | fail (message : String)

/-- A frame: what a thread does next, or what it does with a result. -/
inductive Frame
  /-- Does a step, for a body or for the scenario itself. -/
  | perform (job : Option JobId) (step : Step)
  /-- Runs the rest of a body, after the step of that word. -/
  | body (job : JobId) (word : Option String) (rest : List Step)
  /-- Runs the rest of a branch, after steps with these results. -/
  | branch (job : Option JobId) (results : List Value) (rest : List Step)
  /-- Repeats a step, after repetitions with these results, the last first. -/
  | repeating (job : Option JobId) (template : Value) (next : Int) (left : Nat)
      (results : List Value)
  /-- Waits for branches. -/
  | gathering (threads : List ThreadId) (merged : Bool)
  | untilOpen (gate : String)
  | untilKilled (handle : Nat)
  /-- Waits for a permit. -/
  | awaitPermit (semaphore : Nat)
  /-- Waits for an item. -/
  | awaitItem (queue : Nat)
  /-- Starts a handle, known by that name. -/
  | starting (handle : Nat) (id : String) (faults : Faults)
  /-- Goes on with a call of a handle. -/
  | proceeding (handle : Nat)
  /-- Runs the closure of a handle, which may have panicked. -/
  | inline (handle : Nat) (panicked : Option String)
  /-- Is the whole of a created thread. -/
  | main (source : Source)
  /-- Hands a job to a pool. -/
  | submitting (pool : Nat) (task : String) (memory : Bool) (faults : Faults)
  | destroying (pool : Nat)
  /-- Lets go of a reference once the frames above are done. -/
  | guard (ref : Ref)
  /-- Drops a body that never ran. -/
  | discard (job : JobId)
  /-- Drops a pool. -/
  | demolish (pool : Nat)
  /-- Lets a destroyed pool go. -/
  | abandoning (pool : Nat)
  /-- Goes on as it was before the frames above. -/
  | resume (control : Control)

/-- A thread. -/
structure Thread where
  name : Option String := none
  control : Control := .go
  frames : List Frame

/-- The result of a step or a thread that failed. -/
def panicValue (message : String) : Value := .obj [("panic", message)]

/-- The result of a thread that is over. -/
def Thread.result? (th : Thread) : Option Value :=
  match th.frames, th.control with
  | [], .give v => some v
  | [], .fail message => some (panicValue message)
  | _, _ => none

/-- What an event belongs to: a body, or a dropped item. -/
inductive Origin
  | job (id : JobId)
  | item (serial : Nat)
  deriving DecidableEq

/-- Something that a body did, or that happened to it or to an item. -/
structure Event where
  origin : Origin
  actor : String
  /-- What happened, after the actor. -/
  parts : List Value

/-- The event as a value. -/
def Event.value (e : Event) : Value := .arr (.str e.actor :: e.parts)

/-- The names of objects of one kind. -/
abbrev Names := List (String × Nat)

/-- The names without `id`. -/
def Names.without (names : Names) (id : String) : Names := names.filter fun (n, _) => n != id

/-- The names with `id` for an object. -/
def Names.register (names : Names) (id : String) (object : Nat) : Names :=
  (id, object) :: names.without id

/-- The objects, the threads and their reports. -/
structure Session where
  threads : Array Thread := #[]
  jobs : Array Job := #[]
  semaphores : Array Semaphore := #[]
  queues : Array (Owned (BlockingQueue Value)) := #[]
  handles : Array (Owned (Handle JobId)) := #[]
  pools : Array (Owned Pool) := #[]
  semaphoreNames : Names := []
  queueNames : Names := []
  handleNames : Names := []
  poolNames : Names := []
  taskNames : Names := []
  gates : List String := []
  /-- The events since the last report. -/
  events : Array Event := #[]
  /-- The notices since the last report. -/
  notices : Array Notice := #[]
  /-- The number of items dropped so far. -/
  droppedItems : Nat := 0

/-- A call that has nothing to tell. -/
def okValue : Value := "ok"

/-- There was nothing to drop. -/
def absentValue : Value := "absent"

/-- The step names an object that is not there. -/
def noObject : Value := .obj [("driver", "no such object")]

/-- An error as a result. -/
def errorValue (e : Error) : Value := .obj [("error", e.kind), ("message", e.message)]

/-- The result of a call that may fail. -/
def resultValue : Except Error Unit → Value
  | .ok () => okValue
  | .error e => errorValue e

namespace Session

/-- The session with one more event of a body. -/
def emit (σ : Session) (job : JobId) (parts : List Value) : Session :=
  match σ.jobs[job]? with
  | some j => { σ with events := σ.events.push ⟨.job job, j.actor, parts⟩ }
  | none => σ

/-- The session after items were dropped. -/
def dropItems (σ : Session) (items : List Value) : Session :=
  items.foldl (fun σ item =>
    { σ with
      events := σ.events.push ⟨.item σ.droppedItems, "item", ["dropped", item]⟩
      droppedItems := σ.droppedItems + 1 }) σ

/-- The session with more notices. -/
def report (σ : Session) (notices : List Notice) : Session :=
  { σ with notices := σ.notices.appendList notices }

/-- The session with a new thread, and its number. -/
def addThread (σ : Session) (th : Thread) : Session × ThreadId :=
  ({ σ with threads := σ.threads.push th }, σ.threads.size)

/-- The session with a new body, and its number. -/
def addJob (σ : Session) (j : Job) : Session × JobId :=
  ({ σ with jobs := σ.jobs.push j }, σ.jobs.size)

/-- The gate that keeps a created thread from doing anything. -/
def holdGate (key : String) (index : Nat) : String := s!"hold:{key}/{index}"

/-- The answer of the operating system to the creation of the thread `index`
    of a step: the number of the new thread, or a refusal. -/
def createThread (σ : Session) (name : ThreadName) (source : Source) (key : String) (index : Nat)
    (faults : Faults) : Session × Except Refusal ThreadId :=
  if faults.refused.includes index then (σ, .error (.system faults.errno))
  else
    let frames := [Frame.main source]
    let frames :=
      if faults.held.includes index then .untilOpen (holdGate key index) :: frames else frames
    let (σ, thread) := σ.addThread { name := some name.text, frames }
    (σ, .ok thread)

/-- A step of a semaphore. -/
def stepSemaphore (σ : Session) (id : Nat) (a : Semaphore.Action) :
    Option (Session × Semaphore.Outcome) := do
  let e ← (← σ.semaphores[id]?).step a
  some ({ σ with semaphores := σ.semaphores.setIfInBounds id e.state }, e.outcome)

/-- A step of a queue. -/
def stepQueue (σ : Session) (id : Nat) (a : BlockingQueue.Action Value) :
    Option (Session × BlockingQueue.Outcome Value) := do
  let q ← σ.queues[id]?
  let e ← q.object.step a
  some ({ σ with queues := σ.queues.setIfInBounds id { q with object := e.state } }, e.outcome)

/-- A step of a handle. -/
def stepHandle (σ : Session) (id : Nat) (a : Handle.Action) :
    Option (Session × Handle.Outcome JobId) := do
  let h ← σ.handles[id]?
  let e ← h.object.step a
  let σ := { σ with handles := σ.handles.setIfInBounds id { h with object := e.state } }
  some (σ.report e.notices, e.outcome)

/-- A step of a worker pool. -/
def stepWorkers (σ : Session) (id : Nat) (a : WorkerPool.Action JobId) :
    Option (Session × WorkerPool.Outcome JobId) := do
  match ← σ.pools[id]? with
  | { object := .workers pool, owners } =>
    let e ← pool.step a
    let σ := { σ with pools := σ.pools.setIfInBounds id { object := .workers e.state, owners } }
    some (σ.report e.notices, e.outcome)
  | _ => none

/-- A step of a pool with a thread for every job. -/
def stepJobs (σ : Session) (id : Nat) (a : JobPool.Action JobId) :
    Option (Session × JobPool.Outcome JobId) := do
  match ← σ.pools[id]? with
  | { object := .jobs pool, owners } =>
    let e ← pool.step a
    let σ := { σ with pools := σ.pools.setIfInBounds id { object := .jobs e.state, owners } }
    some (σ.report e.notices, e.outcome)
  | _ => none

/-- The session with one more reference to an object. -/
def acquire (σ : Session) : Ref → Session
  | .queue id => { σ with queues := σ.queues.modify id fun q => { q with owners := q.owners + 1 } }
  | .handle id => { σ with handles := σ.handles.modify id fun h => { h with owners := h.owners + 1 } }
  | .pool id => { σ with pools := σ.pools.modify id fun p => { p with owners := p.owners + 1 } }

/-- The session with one reference less to an object, and what the thread that
    let go of it has to do: if it was the last one, the items of a queue are
    dropped, the closure of a handle that was never started is dropped, and a
    pool is dropped. -/
def release (σ : Session) : Ref → Session × List Frame
  | .queue id =>
    match σ.queues[id]? with
    | none => (σ, [])
    | some q =>
      let σ := { σ with queues := σ.queues.setIfInBounds id { q with owners := q.owners - 1 } }
      if q.owners = 1 then (σ.dropItems q.object.items, []) else (σ, [])
  | .handle id =>
    match σ.handles[id]? with
    | none => (σ, [])
    | some h =>
      let σ := { σ with handles := σ.handles.setIfInBounds id { h with owners := h.owners - 1 } }
      if h.owners = 1 then
        match σ.stepHandle id .drop with
        | some (σ, .freed job) => (σ, [.discard job])
        | some (σ, _) => (σ, [])
        | none => (σ, [])
      else (σ, [])
  | .pool id =>
    match σ.pools[id]? with
    | none => (σ, [])
    | some p =>
      let σ := { σ with pools := σ.pools.setIfInBounds id { p with owners := p.owners - 1 } }
      if p.owners = 1 then (σ, [.demolish id]) else (σ, [])

/-- The session after an object lost its name, if it had one. -/
def releaseName (σ : Session) (object : Option Nat) (ref : Nat → Ref) : Session × List Frame :=
  match object with
  | none => (σ, [])
  | some id => σ.release (ref id)

/-- The session after a body let go of the pool it captured. -/
def releaseCaptured (σ : Session) (job : JobId) : Session × List Frame :=
  match σ.jobs[job]? with
  | some { held := some (_, pool), .. } =>
    { σ with jobs := σ.jobs.modify job fun j => { j with held := none } }.release (.pool pool)
  | _ => (σ, [])

/-- The pool that a name stands for in a body: the one that the body holds
    under that name, or else the one registered. -/
def poolOf (σ : Session) (job : Option JobId) (id : String) : Option Nat :=
  match job.bind (σ.jobs[·]?) with
  | some { held := some (name, pool), .. } =>
    if name = id then some pool else σ.poolNames.lookup id
  | _ => σ.poolNames.lookup id

/-- The handle whose kill switch a body got. -/
def switchOf (σ : Session) (job : Option JobId) : Option Nat :=
  (job.bind (σ.jobs[·]?)).bind Job.switch

/-- The kill switch of a handle is raised. -/
def isKilled (σ : Session) (handle : Nat) : Bool :=
  match σ.handles[handle]? with
  | some h => h.object.killed
  | none => false

end Session

end Threading.Scenario

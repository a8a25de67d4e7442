import Threading.Value

/-!
# Scenarios

A scenario is a program of steps, each done by a thread of its own. A step works
on the objects of the library, which it knows by kind and name; or it waits at a
gate, reports something, or does other steps: repeatedly, or in branches side by
side.

Steps are also what a *body* is made of: the closure of a handle, a task or a
job. A scenario decides by *faults* what the operating system does to the
threads that a step creates, counted from zero.
-/

namespace Threading.Scenario

/-- Which of the threads that a step creates. -/
inductive Which
  | all
  | these (indices : List Nat)
  deriving DecidableEq, Repr

/-- The thread `index` is among them. -/
def Which.includes (w : Which) (index : Nat) : Bool :=
  match w with
  | all => true
  | these indices => indices.contains index

/-- What the operating system does to the threads that a step creates. -/
structure Faults where
  /-- These are refused. -/
  refused : Which := .these []
  /-- The error number of a refusal. -/
  errno : Nat := 11
  /-- These are created but do nothing until a gate opens. -/
  held : Which := .these []
  deriving DecidableEq, Repr

/-- A question to a semaphore. -/
inductive SemaphoreQuery
  | available
  | ceiling
  deriving DecidableEq, Repr

/-- A question to a queue, or a demand that never waits. -/
inductive QueueQuery
  | tryPop
  | length
  | isEmpty
  | drain
  | drainGrouped
  deriving DecidableEq, Repr

/-- A question to a thread handle. -/
inductive HandleQuery
  | isAlive
  | isCurrent
  | isFinished
  | name
  | stage
  | status
  | shown
  | shownLong
  deriving DecidableEq, Repr

/-- A question to a worker pool. -/
inductive PoolQuery
  | workerCount
  | spawnedWorkers
  | liveWorkers
  | pending
  | isShutDown
  | stats
  deriving DecidableEq, Repr

/-- The two kinds of pools. -/
inductive PoolKind
  | workers
  | jobs
  deriving DecidableEq, Repr

/-- A step of a scenario. -/
inductive Step
  /-- Opens a gate for good. -/
  | openGate (gate : String)
  /-- Waits until a gate is open. -/
  | passGate (gate : String)
  /-- Reports a value. -/
  | record (value : Value)
  | panic (message : String)
  /-- The name of the thread. -/
  | threadName
  /-- Waits until the kill switch of the body is raised. -/
  | awaitKill
  /-- Whether the kill switch of the body is raised. -/
  | killed
  /-- Does a step for the numbers from `first` on, each in the place of a mark. -/
  | repeated (count : Nat) (first : Int) (template : Value)
  /-- Does lists of steps side by side, and reports their results by branch, or
      all together. -/
  | branches (lists : List (List Step)) (merged : Bool)
  | semaphoreNew (id : String) (initial ceiling : UInt32)
  | semaphoreWait (id : String)
  | semaphorePost (id : String)
  | semaphoreAsk (id : String) (query : SemaphoreQuery)
  | queueNew (id : String)
  | push (id : String) (value : Value) (memory : Bool)
  | pop (id : String)
  | queueAsk (id : String) (query : QueueQuery)
  /-- Takes a queue apart and hands out what is left in it. -/
  | queueDestroy (id : String)
  | queueDrop (id : String)
  | handleNew (id : String) (name : Option String) (body : List Step) (switch : Bool)
  | start (id : String) (faults : Faults)
  | join (id : String)
  | kill (id : String)
  | run (id : String)
  | rename (id : String) (name : String)
  | handleAsk (id : String) (query : HandleQuery)
  | handleDrop (id : String)
  | taskNew (id : String) (body : List Step)
  | taskShown (id : String)
  | taskRun (id : String)
  | taskDrop (id : String)
  | poolNew (id : String) (threads : UInt32) (kind : PoolKind) (label : String) (faults : Faults)
  | submit (id : String) (task : String) (body : List Step) (memory : Bool) (faults : Faults)
      (holdsPool : Bool)
  | destroy (id : String)
  | poolDrop (id : String)
  | poolAsk (id : String) (query : PoolQuery)
  /-- Gives back the reference to the pool that the body holds. -/
  | dropRef

namespace Step

/-- The word for a step. -/
def word : Step → String
  | openGate _ => "open"
  | passGate _ => "gate"
  | record _ => "record"
  | panic _ => "panic"
  | threadName => "thread_name"
  | awaitKill => "wait_killed"
  | killed => "killed"
  | repeated .. => "repeat"
  | branches .. => "par"
  | semaphoreNew .. => "sem_new"
  | semaphoreWait _ => "sem_wait"
  | semaphorePost _ => "sem_post"
  | semaphoreAsk _ .available => "sem_available"
  | semaphoreAsk _ .ceiling => "sem_max"
  | queueNew _ => "queue_new"
  | push .. => "push"
  | pop _ => "pop"
  | queueAsk _ .tryPop => "try_pop"
  | queueAsk _ .length => "len"
  | queueAsk _ .isEmpty => "is_empty"
  | queueAsk _ .drain => "drain"
  | queueAsk _ .drainGrouped => "drain_grouped"
  | queueDestroy _ => "queue_destroy"
  | queueDrop _ => "queue_drop"
  | handleNew .. => "handle_new"
  | start .. => "start"
  | join _ => "join"
  | kill _ => "kill"
  | run _ => "run"
  | rename .. => "set_name"
  | handleAsk _ .isAlive => "is_alive"
  | handleAsk _ .isCurrent => "is_current"
  | handleAsk _ .isFinished => "is_finished"
  | handleAsk _ .name => "name"
  | handleAsk _ .stage => "state"
  | handleAsk _ .status => "status"
  | handleAsk _ .shown => "debug"
  | handleAsk _ .shownLong => "debug_pretty"
  | handleDrop _ => "handle_drop"
  | taskNew .. => "task_new"
  | taskShown _ => "task_debug"
  | taskRun _ => "task_run"
  | taskDrop _ => "task_drop"
  | poolNew .. => "pool_new"
  | submit .. => "submit"
  | destroy _ => "destroy"
  | poolDrop _ => "pool_drop"
  | poolAsk _ .workerCount => "worker_count"
  | poolAsk _ .spawnedWorkers => "spawned_workers"
  | poolAsk _ .liveWorkers => "live_workers"
  | poolAsk _ .pending => "pending"
  | poolAsk _ .isShutDown => "is_shut_down"
  | poolAsk _ .stats => "stats"
  | dropRef => "drop_ref"

end Step

end Threading.Scenario

import Threading.Error

/-!
# Log records

What the threads report while they work. A `Notice` is a report by what
happened; its `record` is how it is logged: a severity, the part of the program
it comes from, and a text.
-/

namespace Threading

/-- The severity of a record, the gravest first. -/
inductive Level
  | error
  | warn
  | info
  | debug
  | trace
  deriving DecidableEq, Repr

namespace Level

/-- All levels, the gravest first. -/
def all : List Level := [error, warn, info, debug, trace]

/-- The level in capitals. -/
def label : Level → String
  | error => "ERROR"
  | warn => "WARN"
  | info => "INFO"
  | debug => "DEBUG"
  | trace => "TRACE"

/-- The place of a level: 1 for the gravest. -/
def rank : Level → Nat
  | error => 1
  | warn => 2
  | info => 3
  | debug => 4
  | trace => 5

end Level

/-- A log record. -/
structure Record where
  level : Level
  /-- The part of the program it comes from. -/
  origin : String
  message : String
  deriving DecidableEq, Repr

/-- The record as a line without time and origin. -/
def Record.line (r : Record) : String := s!"{r.level.label} {r.message}"

/-- What the library reports. -/
inductive Notice
  /-- The thread of that name was created. -/
  | threadStarted (name : String)
  /-- The thread of that name was not created. -/
  | threadRefused (name : String) (refusal : Refusal)
  /-- A thread asked to wait for its own end. -/
  | selfJoinIgnored (name : String)
  /-- The wait for the end of the thread is over. -/
  | threadJoined (name : String)
  /-- The thread was killed and left to itself. -/
  | threadKilled (name : String)
  /-- A worker of a new pool has no thread. -/
  | workerUnavailable (worker : Nat) (error : Error)
  /-- A pool was made with so many of the workers asked for. -/
  | poolStarted (label : String) (started asked : Nat)
  /-- A worker begins a task. -/
  | taskBegun (worker : Nat)
  /-- A worker found the pool shut down and no task left. -/
  | workerExiting (worker : Nat)
  /-- A worker ended because its task panicked. -/
  | workerLost (worker : Nat)
  /-- A pool stops taking tasks while so many are queued. -/
  | shuttingDown (queued : Nat)
  /-- A pool was destroyed by one of its own workers. -/
  | leftUnjoined
  /-- The join of a worker ended with an error. -/
  | workerJoinFailed (error : Error)
  /-- So many tasks were left when all workers were gone. -/
  | tasksDropped (count : Nat)
  /-- The join of the thread of a job ended with an error. -/
  | jobJoinFailed (error : Error)
  /-- The permit of a job could not be given back. -/
  | permitLost (error : Error)
  deriving DecidableEq, Repr

/-- How a notice is logged. -/
def Notice.record : Notice → Record
  | threadStarted name => ⟨.debug, "workpool::thread", s!"Started thread `{name}`"⟩
  | threadRefused name refusal =>
    ⟨.warn, "workpool::thread", s!"Failed to spawn thread `{name}`: {refusal.message}"⟩
  | selfJoinIgnored name =>
    ⟨.debug, "workpool::thread", s!"Thread `{name}` asked to join itself, ignoring"⟩
  | threadJoined name => ⟨.debug, "workpool::thread", s!"Joined thread `{name}`"⟩
  | threadKilled name => ⟨.warn, "workpool::thread", s!"Killed thread `{name}`, detaching it"⟩
  | workerUnavailable worker error =>
    ⟨.warn, "workpool::thread_pool::worker",
      s!"Worker {worker} unavailable, pool runs short-handed: {error.message}"⟩
  | poolStarted label started asked =>
    ⟨.debug, "workpool::thread_pool::worker",
      s!"Pool `{label}` started {started} of {asked} workers"⟩
  | taskBegun worker =>
    ⟨.trace, "workpool::thread_pool::worker", s!"Worker {worker} running a task"⟩
  | workerExiting worker => ⟨.debug, "workpool::thread_pool::worker", s!"Worker {worker} exiting"⟩
  | workerLost worker =>
    ⟨.error, "workpool::thread_pool::worker",
      s!"Worker {worker} lost to a panicking task, not replaced"⟩
  | shuttingDown queued =>
    ⟨.debug, "workpool::thread_pool::worker", s!"Pool shutting down with {queued} queued tasks"⟩
  | leftUnjoined =>
    ⟨.debug, "workpool::thread_pool::worker",
      "Pool destroyed from one of its workers, leaving them unjoined"⟩
  | workerJoinFailed error => ⟨.error, "workpool::thread_pool::worker", error.message⟩
  | tasksDropped count =>
    ⟨.warn, "workpool::thread_pool::worker",
      s!"Dropping {count} tasks no worker was left to run"⟩
  | jobJoinFailed error => ⟨.error, "workpool::thread_pool::naive", error.message⟩
  | permitLost error =>
    ⟨.error, "workpool::thread_pool::naive", s!"Permit not returned: {error.message}"⟩

/-- What a step of an object leaves behind: its next state, what the step told
    the thread that took it, and what it reported. -/
structure Effect (σ ρ : Type) where
  state : σ
  outcome : ρ
  notices : List Notice := []

end Threading

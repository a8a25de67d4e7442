import Threading.Growth
import Threading.Handle
import Threading.Semaphore

/-!
# Pools with a thread for every job

This pool makes a new thread for every job; a semaphore with one permit for
each thread asked for limits how many jobs run at once.

* A *submit* holds the lock of the pool. Unless the pool is shut down, it goes
  through the listed threads in order and joins and forgets those that are
  gone, makes room in the list, creates the thread of the job, and lists it.
* The *thread* of a job waits for a permit, runs the job, and gives the permit
  back, also if the job panicked.
* A *destroy* shuts the pool down and takes the list, and then, without the
  lock, joins the threads it took.

`step` gives the atomic steps of all callers and threads. A thread makes one
call at a time, and the thread of a job calls only from the job.
-/

namespace Threading

/-- Where the thread of a job is in the closure it was made for. -/
inductive Place (τ : Type)
  /-- Not in the closure. -/
  | outside
  /-- About to ask for a permit. -/
  | arriving (job : τ)
  /-- Waiting for a permit. -/
  | waiting (job : τ)
  /-- In the job, with a permit. -/
  | working (job : τ)
  /-- About to give the permit back. -/
  | returning (panicked : Bool)
  deriving DecidableEq, Repr

/-- The thread of a job. -/
structure JobThread (τ : Type) where
  handle : Handle τ
  place : Place τ := .outside

namespace JobThread

variable {τ : Type}

/-- The thread is running its job. -/
def isWorking (j : JobThread τ) : Bool :=
  match j.place with
  | .working _ => true
  | _ => false

/-- The thread that the operating system made. -/
def thread? (j : JobThread τ) : Option ThreadId := j.handle.spawned.map Course.thread

end JobThread

/-- How far the submit that holds the lock got. -/
inductive Submitting
  /-- Going through the list: the threads kept, and those still to look at. -/
  | pruning (kept rest : List Nat)
  /-- Waiting for a thread that was seen to be gone. -/
  | collecting (kept : List Nat) (thread : Nat) (rest : List Nat)
  /-- About to create the thread. -/
  | creating
  deriving DecidableEq, Repr

/-- The submit that holds the lock. -/
structure Submit (τ : Type) where
  caller : ThreadId
  job : τ
  stage : Submitting

/-- How far a destroy got with the threads it took. -/
inductive Joining
  /-- About to join the first of these. -/
  | joining (rest : List Nat)
  /-- Waiting for a thread to be gone. -/
  | collecting (thread : Nat) (rest : List Nat)
  deriving DecidableEq, Repr

/-- A pool that makes a thread for every job in `τ`. -/
structure JobPool (τ : Type) where
  permits : Semaphore
  /-- Every thread the pool ever made. -/
  threads : List (JobThread τ) := []
  /-- The list: the threads neither forgotten nor taken. -/
  listed : List Nat := []
  /-- The number of threads the list has room for. -/
  capacity : Nat := 0
  shutdown : Bool := false
  /-- The submit that holds the lock. -/
  submitting : Option (Submit τ) := none
  /-- The destroys under way, by the thread that called them. -/
  destroys : List (ThreadId × Joining) := []
  /-- The last reference to the pool is gone. -/
  abandoned : Bool := false

namespace JobPool

variable {τ : Type}

/-- The name of the thread of a job. -/
def jobName : ThreadName := .ofString "naive-job"

/-- A pool that lets `permits` jobs run at once. -/
def create (permits : UInt32) : Except Error (JobPool τ) :=
  if permits = 0 then .error .noWorkers
  else (Semaphore.create permits permits).map fun permits => { permits }

/-- An atomic step. -/
inductive Action (τ : Type)
  /-- A job is handed in, and the lock is taken. -/
  | submit (caller : ThreadId) (job : τ)
  /-- The submit goes on with the list, which may find memory to grow. -/
  | prune (caller : ThreadId) (memory : Bool)
  /-- The operating system answers the submit. -/
  | create (caller : ThreadId) (answer : Except Refusal ThreadId)
  /-- The next step of a thread, outside its job. If the thread gives a permit
      back, `chosen` is the waiting thread to wake, or none if none sleeps. -/
  | advance (thread : Nat) (chosen : Option ThreadId)
  /-- The job of a thread is over. -/
  | jobEnded (thread : Nat) (panicked : Bool)
  /-- A thread waiting for a permit wakes for no reason. -/
  | stir (thread : ThreadId)
  /-- A thread calls destroy. -/
  | destroy (caller : ThreadId)
  /-- The next step of the destroy called by that thread. -/
  | proceed (caller : ThreadId)
  /-- The last reference goes, after a destroy. -/
  | abandon

/-- What a step comes to. -/
inductive Outcome (τ : Type)
  /-- The call or the thread is one step on. -/
  | moved
  /-- The thread of the job was created and listed. -/
  | accepted
  /-- The job has no thread, and goes back to be dropped. -/
  | rejected (error : Error) (job : τ)
  /-- The job begins. -/
  | invoked (job : τ)
  /-- The job returned, or panicked. -/
  | finished (job : τ)
  /-- The destroy is over. -/
  | returned
  /-- The thread is gone. -/
  | exited

/-- The pool with another handle of a thread. -/
def setHandle (p : JobPool τ) (thread : Nat) (handle : Handle τ) : JobPool τ :=
  { p with threads := p.threads.modify thread fun j => { j with handle } }

/-- The pool with a thread at another place. -/
def setPlace (p : JobPool τ) (thread : Nat) (place : Place τ) : JobPool τ :=
  { p with threads := p.threads.modify thread fun j => { j with place } }

/-- What is reported when the join of a thread is over. -/
def joinNotices : Except Error Unit → List Notice
  | .ok () => []
  | .error e => [.jobJoinFailed e]

/-- The pool with the submit one step on. -/
def setSubmitting (p : JobPool τ) (s : Submit τ) (stage : Submitting) : JobPool τ :=
  { p with submitting := some { s with stage } }

/-- The destroy under way of the thread `caller`. -/
def destroying (p : JobPool τ) (caller : ThreadId) : Option Joining := p.destroys.lookup caller

/-- The pool with the destroy of `caller` one step on. -/
def setDestroying (p : JobPool τ) (caller : ThreadId) (d : Joining) : JobPool τ :=
  { p with destroys := p.destroys.map fun (c, old) => if c = caller then (c, d) else (c, old) }

/-- The submit of `caller` goes on with the list. -/
def prune (p : JobPool τ) (caller : ThreadId) (memory : Bool) :
    Option (Effect (JobPool τ) (Outcome τ)) := do
  let s ← p.submitting
  if s.caller ≠ caller then none
  else match s.stage with
  | .pruning kept (thread :: rest) =>
    let j ← p.threads[thread]?
    if !j.handle.isUnlocked then none
    else if !j.handle.isFinished then
      some { state := p.setSubmitting s (.pruning (kept ++ [thread]) rest), outcome := .moved }
    else
      let e ← j.handle.step (.join caller)
      let p := p.setHandle thread e.state
      match e.outcome with
      | .returned result =>
        some {
          state := p.setSubmitting s (.pruning kept rest)
          outcome := .moved
          notices := e.notices ++ joinNotices result }
      | _ =>
        some {
          state := p.setSubmitting s (.collecting kept thread rest)
          outcome := .moved
          notices := e.notices }
  | .collecting kept thread rest =>
    let j ← p.threads[thread]?
    let e ← j.handle.step (.proceed caller)
    match e.outcome with
    | .returned result =>
      some {
        state := (p.setHandle thread e.state).setSubmitting s (.pruning kept rest)
        outcome := .moved
        notices := e.notices ++ joinNotices result }
    | _ => none
  | .pruning kept [] =>
    match reserveOne kept.length p.capacity memory with
    | none =>
      some {
        state := { p with listed := kept, submitting := none }
        outcome := .rejected (.allocation .exhausted) s.job }
    | some capacity =>
      some {
        state := { p with listed := kept, capacity }.setSubmitting s .creating
        outcome := .moved }
  | .creating => none

/-- The thread `t` has a call under way. -/
def isCalling (p : JobPool τ) (t : ThreadId) : Bool :=
  (p.destroying t).isSome || p.submitting.any fun s => s.caller == t

/-- The number `t` is that of no thread of the pool, nor of one that calls it. -/
def isFresh (p : JobPool τ) (t : ThreadId) : Bool :=
  !p.isCalling t && p.threads.all fun j => j.thread? != some t

/-- The operating system answers the submit of `caller`; a new thread gets a
    number of its own. -/
def createThread (p : JobPool τ) (caller : ThreadId) (answer : Except Refusal ThreadId) :
    Option (Effect (JobPool τ) (Outcome τ)) := do
  let s ← p.submitting
  if s.caller ≠ caller ∨ s.stage ≠ .creating then none
  else
    let name := jobName.text
    match answer with
    | .ok thread =>
      if !p.isFresh thread then none
      else some {
        state := { p with
          threads := p.threads ++ [{ handle := .createStarted jobName s.job thread }]
          listed := p.listed ++ [p.threads.length]
          submitting := none }
        outcome := .accepted
        notices := [.threadStarted name] }
    | .error refusal =>
      some {
        state := { p with submitting := none }
        outcome := .rejected (.spawn name refusal) s.job
        notices := [.threadRefused name refusal] }

/-- The thread of a job gets a permit, or waits for one. -/
def askPermit (p : JobPool τ) (thread : Nat) (job : τ) (action : Semaphore.Action) :
    Option (Effect (JobPool τ) (Outcome τ)) := do
  let e ← p.permits.step action
  let p := { p with permits := e.state }
  match e.outcome with
  | .taken => some { state := p.setPlace thread (.working job), outcome := .invoked job }
  | .asleep => some { state := p.setPlace thread (.waiting job), outcome := .moved }
  | _ => none

/-- The next step of a thread, outside its job. -/
def advance (p : JobPool τ) (thread : Nat) (chosen : Option ThreadId) :
    Option (Effect (JobPool τ) (Outcome τ)) := do
  let j ← p.threads[thread]?
  let course ← j.handle.spawned
  match j.place with
  | .outside =>
    let (handle, outcome) ← j.handle.advance course.thread
    let p := p.setHandle thread handle
    match outcome with
    | .invoked job => some { state := p.setPlace thread (.arriving job), outcome := .moved }
    | .exited _ => some { state := p, outcome := .exited }
    | _ => some { state := p, outcome := .moved }
  | .arriving job => p.askPermit thread job (.wait course.thread)
  | .waiting job => p.askPermit thread job (.look course.thread)
  | .working _ => none
  | .returning panicked =>
    let e ← p.permits.step (.post chosen)
    let handle ← j.handle.closureEnded course.thread panicked
    some {
      state := ({ p with permits := e.state }.setHandle thread handle).setPlace thread .outside
      outcome := .moved
      notices := match e.outcome with
        | .overflow => [.permitLost (.semaphoreOverflow p.permits.ceiling)]
        | _ => [] }

/-- The job of a thread is over. A job that called the pool waits for that. -/
def jobEnded (p : JobPool τ) (thread : Nat) (panicked : Bool) :
    Option (Effect (JobPool τ) (Outcome τ)) := do
  let j ← p.threads[thread]?
  match j.place with
  | .working job =>
    if j.thread?.any p.isCalling then none
    else some { state := p.setPlace thread (.returning panicked), outcome := .finished job }
  | _ => none

/-- The thread `caller` can begin a call: the lock is free, the thread has no
    call under way, and on the thread of a job only the job can call. -/
def admits (p : JobPool τ) (caller : ThreadId) : Bool :=
  !p.abandoned && p.submitting.isNone && !p.isCalling caller &&
    p.threads.all fun j => j.thread? != some caller || j.isWorking

/-- The next step of the destroy that `caller` has under way. -/
def proceed (p : JobPool τ) (caller : ThreadId) : Option (Effect (JobPool τ) (Outcome τ)) := do
  match ← p.destroying caller with
  | .joining [] =>
    some {
      state := { p with destroys := p.destroys.filter fun (c, _) => c != caller }
      outcome := .returned }
  | .joining (thread :: rest) =>
    let j ← p.threads[thread]?
    let e ← j.handle.step (.join caller)
    let p := p.setHandle thread e.state
    match e.outcome with
    | .returned result =>
      some {
        state := p.setDestroying caller (.joining rest)
        outcome := .moved
        notices := e.notices ++ joinNotices result }
    | _ =>
      some {
        state := p.setDestroying caller (.collecting thread rest)
        outcome := .moved
        notices := e.notices }
  | .collecting thread rest =>
    let j ← p.threads[thread]?
    let e ← j.handle.step (.proceed caller)
    match e.outcome with
    | .returned result =>
      some {
        state := (p.setHandle thread e.state).setDestroying caller (.joining rest)
        outcome := .moved
        notices := e.notices ++ joinNotices result }
    | _ => none

/-- The pool after a step, what the step came to and what it reported; `none`
    if the step is not possible. -/
def step (p : JobPool τ) : Action τ → Option (Effect (JobPool τ) (Outcome τ))
  | .submit caller job =>
    if !p.admits caller then none
    else if p.shutdown then some { state := p, outcome := .rejected .shutDown job }
    else
      some {
        state := { p with submitting := some ⟨caller, job, .pruning [] p.listed⟩ }
        outcome := .moved }
  | .prune caller memory => p.prune caller memory
  | .create caller answer => p.createThread caller answer
  | .advance thread chosen => p.advance thread chosen
  | .jobEnded thread panicked => p.jobEnded thread panicked
  | .stir thread => (p.permits.step (.stir thread)).map fun e =>
      { state := { p with permits := e.state }, outcome := .moved }
  | .destroy caller =>
    if !p.admits caller then none
    else
      some {
        state := { p with
          shutdown := true
          listed := []
          destroys := p.destroys ++ [(caller, .joining p.listed)] }
        outcome := .moved }
  | .proceed caller => p.proceed caller
  | .abandon =>
    if p.abandoned || !p.shutdown || p.submitting.isSome || !p.destroys.isEmpty then none
    else some { state := { p with abandoned := true }, outcome := .moved }

end JobPool

end Threading

import Threading.Scenario.Reading
import Threading.Scenario.Session
import Threading.Value.Written

/-!
# The run of a scenario

`Session.step σ t` is the session after thread `t` takes its next step. Where the
topmost frame of the thread calls the library, the step is one atomic step of
the object, or none if the object does not let the thread go on: the thread is
*blocked*, as both of two threads are that join each other. A run of a scenario is any
choice of threads that move, so the objects of a session are always states that their own
steps reach.
-/

namespace Threading.Scenario

/-- What a step of a thread comes to: the session, how the thread goes on, and the
    frames in the place of the one that moved. -/
structure Turn where
  session : Session
  control : Control := .go
  frames : List Frame := []

/-- The turn that gives a value. -/
def giving (σ : Session) (v : Value) : Option Turn := some { session := σ, control := .give v }

/-- The turn that goes on with frames. -/
def going (σ : Session) (frames : List Frame) : Option Turn := some { session := σ, frames }

/-- The turn that panics. -/
def failing (σ : Session) (message : String) : Option Turn :=
  some { session := σ, control := .fail message }

/-- The turn that gives a value after some frames are done. -/
def givingAfter (released : Session × List Frame) (v : Value) : Option Turn :=
  match released with
  | (σ, []) => giving σ v
  | (σ, frames) => going σ (frames ++ [.resume (.give v)])

namespace Session

/-! ## Objects -/

/-- The permit of a semaphore for the thread `t`. -/
def semaphoreWait (σ : Session) (t : ThreadId) (s : Nat) : Option Turn := do
  match ← σ.stepSemaphore s (.wait t) with
  | (σ, .asleep) => going σ [.awaitPermit s]
  | (σ, _) => giving σ okValue

/-- A permit for a semaphore. -/
def semaphorePost (σ : Session) (s : Nat) : Option Turn := do
  let semaphore ← σ.semaphores[s]?
  let (σ, outcome) ← σ.stepSemaphore s (.post semaphore.waiters.first)
  giving σ (resultValue (semaphore.postResult outcome))

/-- An item for a queue. -/
def push (σ : Session) (q : Nat) (value : Value) (memory : Bool) : Option Turn := do
  let chosen := (← σ.queues[q]?).object.poppers.first
  let (σ, outcome) ← σ.stepQueue q (.push value memory chosen)
  let answer := resultValue (BlockingQueue.pushResult outcome)
  match outcome with
  | .refused item => giving (σ.dropItems [item]) answer
  | _ => giving σ answer

/-- The next item of a queue for the thread `t`. -/
def pop (σ : Session) (t : ThreadId) (q : Nat) : Option Turn := do
  match ← σ.stepQueue q (.pop t) with
  | (σ, .popped item) => giving σ item
  | (σ, .wokeEmpty) => failing σ BlockingQueue.wokeEmptyText
  | (σ, _) => going (σ.acquire (.queue q)) [.awaitItem q, .guard (.queue q)]

/-- The items of a queue, at most `count` of them, taken one by one. -/
def drain (σ : Session) (q : Nat) : Nat → Session × List Value
  | 0 => (σ, [])
  | count + 1 =>
    match σ.stepQueue q .tryPop with
    | some (σ, .popped item) =>
      let (σ, items) := σ.drain q count
      (σ, item :: items)
    | _ => (σ, [])

/-- Pairs as lists of their second parts, by the written form of the first. -/
def groupPairs (items : List Value) : List (String × Value) :=
  let pairs := items.filterMap fun
    | .arr [p, v] => some (p.compact, v)
    | _ => none
  let keys := (pairs.map (·.1)).eraseDups
  keys.map fun key => (key, .arr (pairs.filterMap fun (k, v) => if k = key then some v else none))

/-- The answer of a queue. -/
def queueAnswer (σ : Session) (q : Nat) (query : QueueQuery) : Option Turn := do
  let object := (← σ.queues[q]?).object
  match query with
  | .tryPop =>
    match ← σ.stepQueue q .tryPop with
    | (σ, .popped item) => giving σ (.obj [("some", item)])
    | (σ, _) => giving σ .null
  | .length => giving σ object.length
  | .isEmpty => giving σ object.isEmpty
  | .drain =>
    let (σ, items) := σ.drain q object.length
    giving σ (.arr items)
  | .drainGrouped =>
    let (σ, items) := σ.drain q object.length
    giving σ (.obj (groupPairs items))

/-- The answer of a handle to the thread `t`. What lies behind the lock of the
    handle can be asked only while the lock is free. -/
def handleAnswer (h : Handle JobId) (t : ThreadId) : HandleQuery → Option Value
  | .isAlive => some h.alive
  | .name => some h.name.text
  | query =>
    if !h.isUnlocked then none
    else match query with
    | .isCurrent => some (h.isCurrent t)
    | .isFinished => some h.isFinished
    | .stage => some h.stage.label
    | .status => some (.arr [h.stage.label, h.alive, h.isFinished, h.isCurrent t])
    | .shown => some h.shown
    | .shownLong => some h.shownLong
    | .isAlive | .name => none

/-- The turn after the first step of a call of a handle: over, or going on with
    the frames given, while the call holds a reference to the handle. -/
def handleCall (stepped : Option (Session × Handle.Outcome JobId)) (handle : Nat)
    (frames : List Frame) : Option Turn := do
  match ← stepped with
  | (σ, .returned result) => giving σ (resultValue result)
  | (σ, _) => going (σ.acquire (.handle handle)) (frames ++ [.guard (.handle handle)])

/-- A name for a handle. It keeps its name once it has left the idle stage. -/
def rename (σ : Session) (handle : Nat) (name : String) : Option Turn := do
  if (← σ.handles[handle]?).object.stage ≠ .idle then giving σ okValue
  else
    let (σ, _) ← σ.stepHandle handle (.rename name)
    giving σ okValue

/-- The answers of the operating system to the creation of `count` workers, the
    first of them at `index`. -/
def createWorkers (σ : Session) (pool : Nat) (label key : String) (faults : Faults) (index : Nat) :
    Nat → Session × List (Except Refusal ThreadId)
  | 0 => (σ, [])
  | count + 1 =>
    let name := WorkerPool.workerName label index
    let (σ, answer) := σ.createThread name (.worker pool index) key index faults
    let (σ, answers) := σ.createWorkers pool label key faults (index + 1) count
    (σ, answer :: answers)

/-- A new pool under a name. -/
def poolNew (σ : Session) (id : String) (threads : UInt32) (kind : PoolKind) (label : String)
    (faults : Faults) : Option Turn :=
  let number := σ.pools.size
  let made : Except Error (Session × Pool) := match kind with
    | .jobs => (JobPool.create threads).map fun pool => (σ, .jobs pool)
    | .workers =>
      let (σ, answers) := σ.createWorkers number label id faults 0 threads.toNat
      (WorkerPool.create label answers).map fun e => (σ.report e.notices, .workers e.state)
  match made with
  | .error e => giving σ (errorValue e)
  | .ok (σ, object) =>
    let replaced := σ.poolNames.lookup id
    let σ := { σ with
      pools := σ.pools.push { object }
      poolNames := σ.poolNames.register id number }
    givingAfter (σ.releaseName replaced .pool) okValue

/-- A job for a pool. -/
def submit (σ : Session) (t : ThreadId) (pool : Nat) (task : String) (job : Job) (memory : Bool)
    (faults : Faults) : Option Turn := do
  let σ := if job.held.isSome then σ.acquire (.pool pool) else σ
  let (σ, number) := σ.addJob job
  match (← σ.pools[pool]?).object with
  | .workers object =>
    match ← σ.stepWorkers pool (.submit number memory object.firstAsleep) with
    | (σ, .rejected e job) => givingAfter (σ, [.discard job]) (errorValue e)
    | (σ, _) => giving σ okValue
  | .jobs _ =>
    match ← σ.stepJobs pool (.submit t number) with
    | (σ, .rejected e job) => givingAfter (σ, [.discard job]) (errorValue e)
    | (σ, _) =>
      going (σ.acquire (.pool pool)) [.submitting pool task memory faults, .guard (.pool pool)]

/-- The thread `t` goes on with its submit to a pool with a thread for every job. -/
def submitOn (σ : Session) (t : ThreadId) (pool : Nat) (task : String) (memory : Bool)
    (faults : Faults) : Option Turn := do
  match (← σ.pools[pool]?).object with
  | .workers _ => none
  | .jobs object =>
    let (σ, outcome) ←
      if (← object.submitting).stage = .creating then
        let source := Source.job pool object.threads.length
        let (σ, answer) := σ.createThread JobPool.jobName source task 0 faults
        σ.stepJobs pool (.create t answer)
      else σ.stepJobs pool (.prune t memory)
    match outcome with
    | .accepted => giving σ okValue
    | .rejected e job => givingAfter (σ, [.discard job]) (errorValue e)
    | _ => going σ [.submitting pool task memory faults]

/-- The thread `t` calls the destroy of a pool. -/
def beginDestroy (σ : Session) (t : ThreadId) (pool : Nat) : Option Session := do
  match (← σ.pools[pool]?).object with
  | .workers _ => (·.1) <$> σ.stepWorkers pool (.destroy t)
  | .jobs _ => (·.1) <$> σ.stepJobs pool (.destroy t)

/-- The thread `t` goes on with its destroy of a pool. -/
def destroyOn (σ : Session) (t : ThreadId) (pool : Nat) : Option Turn := do
  match (← σ.pools[pool]?).object with
  | .workers _ =>
    match ← σ.stepWorkers pool (.proceed t) with
    | (σ, .returned dropped) => giving σ dropped
    | (σ, .freed jobs) => going σ (jobs.map .discard ++ [.destroying pool])
    | (σ, _) => going σ [.destroying pool]
  | .jobs _ =>
    match ← σ.stepJobs pool (.proceed t) with
    | (σ, .returned) => giving σ (0 : Nat)
    | (σ, _) => going σ [.destroying pool]

/-- A destroyed pool goes. -/
def abandon (σ : Session) (pool : Nat) : Option Turn := do
  match (← σ.pools[pool]?).object with
  | .workers _ =>
    match ← σ.stepWorkers pool .abandon with
    | (σ, .freed jobs) => going σ (jobs.map .discard)
    | (σ, _) => going σ []
  | .jobs _ =>
    let (σ, _) ← σ.stepJobs pool .abandon
    going σ []

/-- The answer of a worker pool. -/
def poolAnswer (p : WorkerPool JobId) : PoolQuery → Value
  | .workerCount => p.workerCount
  | .spawnedWorkers => p.spawnedWorkers
  | .liveWorkers => p.liveWorkers
  | .pending => p.pending
  | .isShutDown => p.shutdown
  | .stats => .arr [p.workerCount, p.spawnedWorkers, p.liveWorkers, p.pending, p.shutdown]

/-! ## Steps -/

/-- The thread `t` does a step of a scenario, for a body or for the scenario
    itself. -/
def perform (σ : Session) (t : ThreadId) (job : Option JobId) : Step → Option Turn
  | .openGate gate => giving { σ with gates := gate :: σ.gates } okValue
  | .passGate gate => going σ [.untilOpen gate, .resume (.give okValue)]
  | .record value => giving σ value
  | .panic message => failing σ message
  | .threadName =>
    match σ.threads[t]?.bind Thread.name with
    | some name => giving σ name
    | none => giving σ .null
  | .awaitKill => do going σ [.untilKilled (← σ.switchOf job), .resume (.give okValue)]
  | .killed =>
    match σ.switchOf job with
    | some handle => giving σ (σ.isKilled handle)
    | none => giving σ .null
  | .repeated count first template => going σ [.repeating job template first count []]
  | .branches lists merged =>
    let first := σ.threads.size
    let σ := lists.foldl (fun σ steps => (σ.addThread { frames := [.branch job [] steps] }).1) σ
    going σ [.gathering (List.range' first lists.length) merged]
  | .semaphoreNew id initial ceiling =>
    match Semaphore.create initial ceiling with
    | .error e => giving σ (errorValue e)
    | .ok s =>
      giving { σ with
        semaphores := σ.semaphores.push s
        semaphoreNames := σ.semaphoreNames.register id σ.semaphores.size } okValue
  | .semaphoreWait id =>
    match σ.semaphoreNames.lookup id with
    | none => giving σ noObject
    | some s => σ.semaphoreWait t s
  | .semaphorePost id =>
    match σ.semaphoreNames.lookup id with
    | none => giving σ noObject
    | some s => σ.semaphorePost s
  | .semaphoreAsk id query =>
    match (σ.semaphoreNames.lookup id).bind (σ.semaphores[·]?) with
    | none => giving σ noObject
    | some s => giving σ (match query with
      | .available => s.count.toNat
      | .ceiling => s.ceiling.toNat)
  | .queueNew id =>
    let replaced := σ.queueNames.lookup id
    let σ := { σ with
      queues := σ.queues.push { object := {} }
      queueNames := σ.queueNames.register id σ.queues.size }
    givingAfter (σ.releaseName replaced .queue) okValue
  | .push id value memory =>
    match σ.queueNames.lookup id with
    | none => giving σ noObject
    | some q => σ.push q value memory
  | .pop id =>
    match σ.queueNames.lookup id with
    | none => giving σ noObject
    | some q => σ.pop t q
  | .queueAsk id query =>
    match σ.queueNames.lookup id with
    | none => giving σ noObject
    | some q => σ.queueAnswer q query
  | .queueDestroy id =>
    match σ.queueNames.lookup id with
    | none => giving σ noObject
    | some q => do
      let items := (← σ.queues[q]?).object.destroy
      let σ := { σ with
        queues := σ.queues.modify q fun o => { o with object := { o.object with items := [] } }
        queueNames := σ.queueNames.without id }
      givingAfter (σ.release (.queue q)) (.arr items)
  | .queueDrop id =>
    match σ.queueNames.lookup id with
    | none => giving σ absentValue
    | some q => givingAfter
        ({ σ with queueNames := σ.queueNames.without id }.release (.queue q)) okValue
  | .handleNew id name body switch =>
    let replaced := σ.handleNames.lookup id
    let number := σ.handles.size
    let (σ, job) := σ.addJob { actor := id, body, switch := if switch then some number else none }
    let σ := { σ with
      handles := σ.handles.push { object := .create (.ofOption name) job }
      handleNames := σ.handleNames.register id number }
    givingAfter (σ.releaseName replaced .handle) okValue
  | .start id faults =>
    match σ.handleNames.lookup id with
    | none => giving σ noObject
    | some h => handleCall (σ.stepHandle h (.start t)) h [.starting h id faults]
  | .join id =>
    match σ.handleNames.lookup id with
    | none => giving σ noObject
    | some h => handleCall (σ.stepHandle h (.join t)) h [.proceeding h]
  | .kill id =>
    match σ.handleNames.lookup id with
    | none => giving σ noObject
    | some h => handleCall (σ.stepHandle h (.kill t)) h [.proceeding h]
  | .run id =>
    match σ.handleNames.lookup id with
    | none => giving σ noObject
    | some h => handleCall (σ.stepHandle h (.run t)) h [.inline h none]
  | .rename id name =>
    match σ.handleNames.lookup id with
    | none => giving σ noObject
    | some h => σ.rename h name
  | .handleAsk id query =>
    match (σ.handleNames.lookup id).bind (σ.handles[·]?) with
    | none => giving σ noObject
    | some h => do giving σ (← handleAnswer h.object t query)
  | .handleDrop id =>
    match σ.handleNames.lookup id with
    | none => giving σ absentValue
    | some h => givingAfter
        ({ σ with handleNames := σ.handleNames.without id }.release (.handle h)) okValue
  | .taskNew id body =>
    let replaced := σ.taskNames.lookup id
    let (σ, job) := σ.addJob { actor := id, body }
    let σ := { σ with taskNames := σ.taskNames.register id job }
    givingAfter (σ, (replaced.toList).map .discard) okValue
  | .taskShown id => giving σ (if (σ.taskNames.lookup id).isSome then "Task" else .null)
  | .taskRun id =>
    match σ.taskNames.lookup id with
    | none => giving σ noObject
    | some job => do
      let body := (← σ.jobs[job]?).body
      going { σ with taskNames := σ.taskNames.without id } [.body job none body]
  | .taskDrop id =>
    match σ.taskNames.lookup id with
    | none => giving σ noObject
    | some job => givingAfter
        ({ σ with taskNames := σ.taskNames.without id }, [.discard job]) okValue
  | .poolNew id threads kind label faults => σ.poolNew id threads kind label faults
  | .submit id task body memory faults holdsPool =>
    match σ.poolOf job id with
    | none => giving σ noObject
    | some pool =>
      let held := if holdsPool then some (id, pool) else none
      σ.submit t pool task { actor := task, body, held } memory faults
  | .destroy id =>
    match σ.poolOf job id with
    | none => giving σ noObject
    | some pool => do
      let σ ← σ.beginDestroy t pool
      going (σ.acquire (.pool pool)) [.destroying pool, .guard (.pool pool)]
  | .poolDrop id =>
    match σ.poolNames.lookup id with
    | none => giving σ absentValue
    | some pool => givingAfter
        ({ σ with poolNames := σ.poolNames.without id }.release (.pool pool)) okValue
  | .poolAsk id query =>
    match (σ.poolOf job id).bind (σ.pools[·]?) with
    | some { object := .workers pool, .. } => giving σ (poolAnswer pool query)
    | _ => giving σ noObject
  | .dropRef =>
    match (job.bind (σ.jobs[·]?)).bind Job.held, job with
    | some _, some job => givingAfter (σ.releaseCaptured job) okValue
    | _, _ => giving σ absentValue

/-! ## Threads -/

/-- The next step of a created thread, outside of bodies. -/
def mainOn (σ : Session) (t : ThreadId) (source : Source) : Option Turn := do
  let begin (σ : Session) (job : JobId) : Option Turn := do
    going σ [.body job none (← σ.jobs[job]?).body, .main source]
  match source with
  | .handle id =>
    match ← σ.stepHandle id (.advance t) with
    | (σ, .invoked job) => begin σ job
    | (σ, .freed job) => going σ [.discard job, .main source]
    | (σ, .exited _) => giving σ .null
    | (σ, _) => going σ [.main source]
  | .worker pool index =>
    match ← σ.stepWorkers pool (.advance index) with
    | (σ, .invoked job) => begin σ job
    | (σ, .freed jobs) => going σ (jobs.map .discard ++ [.main source])
    | (σ, .exited) => giving σ .null
    | (σ, _) => going σ [.main source]
  | .job pool index =>
    let chosen := match σ.pools[pool]? with
      | some { object := .jobs p, .. } => p.permits.waiters.first
      | _ => none
    match ← σ.stepJobs pool (.advance index chosen) with
    | (σ, .invoked job) => begin σ job
    | (σ, .exited) => giving σ .null
    | (σ, _) => going σ [.main source]

/-- The body that a created thread ran is over. -/
def bodyEnded (σ : Session) (t : ThreadId) (panicked : Bool) : Source → Option Session
  | .handle id => (·.1) <$> σ.stepHandle id (.ended t panicked)
  | .worker pool index => (·.1) <$> σ.stepWorkers pool (.taskEnded index panicked)
  | .job pool index => (·.1) <$> σ.stepJobs pool (.jobEnded index panicked)

/-- The next step of the closure of a handle that runs on the thread of its
    caller. -/
def inlineOn (σ : Session) (t : ThreadId) (handle : Nat) (panicked : Option String) :
    Option Turn := do
  match ← σ.stepHandle handle (.advance t) with
  | (σ, .invoked job) =>
    going σ [.body job none (← σ.jobs[job]?).body, .inline handle panicked]
  | (σ, .exited _) =>
    match panicked with
    | none => giving σ okValue
    | some message => failing σ message
  | (σ, _) => going σ [.inline handle panicked]

/-- The results of branches that are all over. -/
def branchResults (σ : Session) (threads : List ThreadId) : Option (List (List Value)) :=
  threads.mapM fun t => do
    match ← (← σ.threads[t]?).result? with
    | .arr results => some results
    | v => some [v]

/-- The thread `t` goes on with its topmost frame. -/
def goOn (σ : Session) (t : ThreadId) : Frame → Option Turn
  | .perform job step => σ.perform t job step
  | .body job _ [] =>
    let (σ, frames) := (σ.emit job ["end"]).releaseCaptured job
    givingAfter (σ, frames) okValue
  | .body job _ (.panic message :: rest) =>
    some {
      session := σ.emit job ["panic"]
      control := .fail message
      frames := [.body job none rest] }
  | .body job _ (step :: rest) =>
    going σ [.perform (some job) step, .body job (some step.word) rest]
  | .branch _ results [] => giving σ (.arr results)
  | .branch job results (step :: rest) => going σ [.perform job step, .branch job results rest]
  | .repeating _ _ _ 0 results => giving σ (Value.runs results.reverse)
  | .repeating job template next (left + 1) results =>
    let again := Frame.repeating job template (next + 1) left results
    match Step.ofValue? (template.instantiate next) with
    | some step => going σ [.perform job step, again]
    | none => giving σ noObject
  | .gathering threads merged => do
    let results ← σ.branchResults threads
    giving σ (if merged then Value.runs (Value.sortByText results.flatten)
      else .arr (results.map .arr))
  | .untilOpen gate => if σ.gates.contains gate then going σ [] else none
  | .untilKilled handle => if σ.isKilled handle then going σ [] else none
  | .awaitPermit s => do
    match ← σ.stepSemaphore s (.look t) with
    | (σ, .taken) => giving σ okValue
    | (σ, _) => going σ [.awaitPermit s]
  | .awaitItem q => do
    match ← σ.stepQueue q (.look t) with
    | (σ, .popped item) => giving σ item
    | (σ, .wokeEmpty) => failing σ BlockingQueue.wokeEmptyText
    | (σ, _) => going σ [.awaitItem q]
  | .starting handle id faults => do
    let name := (← σ.handles[handle]?).object.name
    let (σ, answer) := σ.createThread name (.handle handle) id 0 faults
    match ← σ.stepHandle handle (.spawn t answer) with
    | (σ, .returned result) => giving σ (resultValue result)
    | (σ, _) => going σ [.proceeding handle]
  | .proceeding handle => do
    match ← σ.stepHandle handle (.proceed t) with
    | (σ, .returned result) => giving σ (resultValue result)
    | (σ, _) => going σ [.proceeding handle]
  | .inline handle panicked => σ.inlineOn t handle panicked
  | .main source => σ.mainOn t source
  | .submitting pool task memory faults => σ.submitOn t pool task memory faults
  | .destroying pool => σ.destroyOn t pool
  | .guard ref =>
    let (σ, frames) := σ.release ref
    going σ frames
  | .discard job =>
    let (σ, frames) := (σ.emit job ["dropped"]).releaseCaptured job
    going σ frames
  | .demolish pool => do going (← σ.beginDestroy t pool) [.destroying pool, .abandoning pool]
  | .abandoning pool => σ.abandon pool
  | .resume control => some { session := σ, control }

/-- The topmost frame of the thread `t` gets a value. -/
def receive (σ : Session) (t : ThreadId) (v : Value) : Frame → Option Turn
  | .body job (some word) rest => going (σ.emit job [.str word, v]) [.body job none rest]
  | .branch job results rest => going σ [.branch job (results ++ [v]) rest]
  | .repeating job template next left results =>
    going σ [.repeating job template next left (v :: results)]
  | .inline handle panicked => do
    let (σ, _) ← σ.stepHandle handle (.ended t false)
    going σ [.inline handle panicked]
  | .main source => do going (← σ.bodyEnded t false source) [.main source]
  | .guard ref => givingAfter (σ.release ref) v
  | .abandoning pool => going σ [.abandoning pool]
  | .resume control => some { session := σ, control }
  | _ => giving σ v

/-- A panic passes through the topmost frame of the thread `t`. -/
def unwind (σ : Session) (t : ThreadId) (message : String) : Frame → Option Turn
  | .body job _ _ =>
    let (σ, frames) := σ.releaseCaptured job
    going σ (frames ++ [.resume (.fail message)])
  | .branch job results rest =>
    going σ [.branch job (results ++ [panicValue message]) rest]
  | .inline handle _ => do
    let (σ, _) ← σ.stepHandle handle (.ended t true)
    going σ [.inline handle (some message)]
  | .main source => do going (← σ.bodyEnded t true source) [.main source]
  | .guard ref =>
    let (σ, frames) := σ.release ref
    going σ (frames ++ [.resume (.fail message)])
  | _ => failing σ message

/-- The next turn of the thread `t`. -/
def turn (σ : Session) (t : ThreadId) (control : Control) (frame : Frame) : Option Turn :=
  match control with
  | .go => σ.goOn t frame
  | .give v => σ.receive t v frame
  | .fail message => σ.unwind t message frame

/-- The session after the thread `t` takes its next step; `none` if it is over or
    blocked. -/
def step (σ : Session) (t : ThreadId) : Option Session := do
  let th ← σ.threads[t]?
  match th.frames with
  | [] => none
  | frame :: rest =>
    let next ← σ.turn t th.control frame
    let th := { th with control := next.control, frames := next.frames ++ rest }
    some { next.session with threads := next.session.threads.setIfInBounds t th }

end Session

end Threading.Scenario

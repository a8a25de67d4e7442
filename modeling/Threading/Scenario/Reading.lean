import Threading.Scenario.Step
import Threading.WorkerPool

/-!
# Reading scenarios

A step is written as an object: its word in the field `do`, the name of the
object it works on in `id`, and fields of its own. `Step.ofValue?` reads it.
Fields that a step does not need are not looked at.
-/

namespace Threading.Scenario

/-- The text in a field. -/
def textField (name : String) (v : Value) : Option String := (v.field? name).bind Value.text?

/-- The number in a field. -/
def natField (name : String) (v : Value) : Option Nat := (v.field? name).bind Value.nat?

/-- The word of 32 bits in a field. -/
def wordField (name : String) (v : Value) : Option UInt32 :=
  (natField name v).bind fun n => if n < UInt32.size then some (UInt32.ofNat n) else none

/-- The field holds true. -/
def flagField (name : String) (v : Value) : Bool :=
  ((v.field? name).bind Value.bool?).getD false

/-- The list in a field, empty if there is no such field. -/
def listField (name : String) (v : Value) : Option (List Value) :=
  match v.field? name with
  | none | some .null => some []
  | some w => w.items?

/-- The threads named by a field: all of them, or a list. -/
def whichField (name : String) (v : Value) : Which :=
  match v.field? name with
  | some (.bool true) => .all
  | some (.arr indices) => .these (indices.filterMap Value.nat?)
  | _ => .these []

/-- The faults of a step. -/
def faultsOf (v : Value) : Faults :=
  { refused := whichField "fail" v
    errno := (natField "errno" v).getD 11
    held := whichField "hold" v }

/-- The name that a step is known by, empty if it has none. -/
def stepId (v : Value) : String := (textField "id" v).getD ""

/-- The step that a value stands for, if it is nested at most `depth` deep. -/
def Step.read : Nat → Value → Option Step
  | 0, _ => none
  | depth + 1, v => do
    let body (v : Value) : Option (List Step) := do (← listField "body" v).mapM (read depth)
    let id := stepId v
    let ask {α : Type} (make : String → α → Step) (query : α) : Option Step := some (make id query)
    match ← textField "do" v with
    | "open" => return openGate (← textField "gate" v)
    | "gate" => return passGate (← textField "gate" v)
    | "record" => return record ((v.field? "value").getD .null)
    | "panic" => return panic ((textField "message" v).getD "")
    | "thread_name" => some threadName
    | "wait_killed" => some awaitKill
    | "killed" => some killed
    | "repeat" =>
      return repeated ((natField "n" v).getD 0) (((v.field? "from").bind Value.int?).getD 0)
        (← v.field? "step")
    | "par" =>
      let lists ← (← listField "branches" v).mapM fun branch => do
        (← branch.items?).mapM (read depth)
      return branches lists (flagField "merge" v)
    | "sem_new" => return semaphoreNew id (← wordField "initial" v) (← wordField "max" v)
    | "sem_wait" => some (semaphoreWait id)
    | "sem_post" => some (semaphorePost id)
    | "sem_available" => ask semaphoreAsk .available
    | "sem_max" => ask semaphoreAsk .ceiling
    | "queue_new" => some (queueNew id)
    | "push" => return push id ((v.field? "value").getD .null) (!flagField "fail_alloc" v)
    | "pop" => some (pop id)
    | "try_pop" => ask queueAsk .tryPop
    | "len" => ask queueAsk .length
    | "is_empty" => ask queueAsk .isEmpty
    | "drain" => ask queueAsk .drain
    | "drain_grouped" => ask queueAsk .drainGrouped
    | "queue_destroy" => some (queueDestroy id)
    | "queue_drop" => some (queueDrop id)
    | "handle_new" => return handleNew id (textField "name" v) (← body v) (flagField "kill_switch" v)
    | "start" => some (start id (faultsOf v))
    | "join" => some (join id)
    | "kill" => some (kill id)
    | "run" => some (run id)
    | "set_name" => return rename id (← textField "name" v)
    | "is_alive" => ask handleAsk .isAlive
    | "is_current" => ask handleAsk .isCurrent
    | "is_finished" => ask handleAsk .isFinished
    | "name" => ask handleAsk .name
    | "state" => ask handleAsk .stage
    | "status" => ask handleAsk .status
    | "debug" => ask handleAsk .shown
    | "debug_pretty" => ask handleAsk .shownLong
    | "handle_drop" => some (handleDrop id)
    | "task_new" => return taskNew id (← body v)
    | "task_debug" => some (taskShown id)
    | "task_run" => some (taskRun id)
    | "task_drop" => some (taskDrop id)
    | "pool_new" =>
      let kind := if textField "kind" v = some "naive" then PoolKind.jobs else PoolKind.workers
      let label := (textField "prefix" v).getD WorkerPool.defaultLabel
      return poolNew id (← wordField "threads" v) kind label (faultsOf v)
    | "submit" =>
      return submit id ((textField "task" v).getD "") (← body v) (!flagField "fail_alloc" v)
        (faultsOf v) (flagField "hold_ref" v)
    | "destroy" => some (destroy id)
    | "pool_drop" => some (poolDrop id)
    | "worker_count" => ask poolAsk .workerCount
    | "spawned_workers" => ask poolAsk .spawnedWorkers
    | "live_workers" => ask poolAsk .liveWorkers
    | "pending" => ask poolAsk .pending
    | "is_shut_down" => ask poolAsk .isShutDown
    | "stats" => ask poolAsk .stats
    | "drop_ref" => some dropRef
    | _ => none

/-- The step that a value stands for. -/
def Step.ofValue? (v : Value) : Option Step := Step.read (v.depth + 1) v

end Threading.Scenario

import Threading.Log
import Threading.Schedule
import Threading.ThreadName

/-!
# Thread handles

A handle owns one closure, here a job of any type `J`, and runs it at most once:
on a thread of its own (`start`), or on the thread of a caller (`run`). Its
*stage* tells how far it got: `idle`, then `running` and at last `joined` or
`killed`; an inline `run` goes from `idle` to `joined` at once. A handle that
left `idle` never comes back, and only a `start` that the operating system
refuses leaves it there.

Calls of any threads interleave, also with the thread that the handle created.
Short critical sections are one atomic step. Two calls hold the lock of the
handle over several steps, in which other threads can see how far they got:

* `start`: `start` takes the lock, `spawn` is the answer of the operating
  system, which may let the new thread run at once, and `proceed` marks the
  handle running;
* `kill`: `kill` marks the handle killed; then `proceed` raises the switch,
  lowers the alive flag, and lets go of the thread.

`join` marks the handle joined and takes the thread out of it; then `proceed`
waits, without the lock, until the thread is gone. The thread itself, or the
caller of `run`, moves by `advance`, stage by stage of its `Progress`, and by
`ended` when the closure is over. A thread makes one call at a time, and a
thread that runs the closure calls only from inside. `rename` and `drop` need
the handle for themselves: no call of it is under way.

The alive flag and the switch are taken as sequentially consistent: what one step
stores, every later step of any thread loads. The program stores them with release and
loads them with acquire, which lets a thread look for the switch before the others see
that it raised the flag. No step here does that.
-/

namespace Threading

/-- How far a handle got. -/
inductive Stage
  | idle
  | running
  | joined
  | killed
  deriving DecidableEq, Repr

/-- The name of a stage. -/
def Stage.label : Stage → String
  | idle => "Idle"
  | running => "Running"
  | joined => "Joined"
  | killed => "Killed"

/-- How far a thread got in running the closure of a handle. -/
inductive Progress (J : Type)
  /-- The thread exists and did nothing yet. -/
  | created
  /-- The closure was taken out of the handle. -/
  | taken (job : J)
  /-- The alive flag was raised. -/
  | raised (job : J)
  /-- The closure is running. -/
  | inside
  /-- The switch was found raised, so the closure will not run. -/
  | spared (job : J)
  /-- The alive flag was lowered, and the closure that did not run goes next. -/
  | unneeded (job : J)
  /-- The closure returned, or panicked. -/
  | ended (panicked : Bool)
  /-- The alive flag was lowered. -/
  | lowered (panicked : Bool)
  /-- The thread is gone, or the inline run is over. -/
  | exited (panicked : Bool)
  deriving DecidableEq, Repr

namespace Progress

variable {J : Type}

/-- The closure is running. -/
def isInside : Progress J → Bool
  | inside => true
  | _ => false

/-- The thread is gone, or the inline run is over. -/
def isOver : Progress J → Bool
  | exited _ => true
  | _ => false

end Progress

/-- A thread on its way through the closure. -/
structure Course (J : Type) where
  thread : ThreadId
  progress : Progress J
  deriving DecidableEq, Repr

/-- What remains to be done by a `kill`. -/
inductive KillStage
  | raise
  | lower
  | detach
  deriving DecidableEq, Repr

/-- The state of the lock of a handle: free, or held by a caller. -/
inductive Lock
  | free
  /-- A `start` waits for the operating system. -/
  | starting (caller : ThreadId)
  /-- A `start` got its thread. -/
  | spawned (caller thread : ThreadId)
  /-- A `kill` is under way. -/
  | killing (caller : ThreadId) (stage : KillStage)
  deriving DecidableEq, Repr

/-- A thread handle with a closure in `J`. -/
structure Handle (J : Type) where
  name : ThreadName
  /-- The closure, until it is taken. -/
  job : Option J
  /-- The alive flag. -/
  alive : Bool := false
  /-- The kill switch is raised. -/
  killed : Bool := false
  stage : Stage := .idle
  /-- The thread that can still be joined. -/
  joinable : Option ThreadId := none
  lock : Lock := .free
  /-- The thread of the handle. -/
  spawned : Option (Course J) := none
  /-- The inline run. -/
  inline : Option (Course J) := none
  /-- The caller waiting for the thread to be gone. -/
  joiner : Option ThreadId := none
  /-- The last reference to the handle is gone. -/
  dropped : Bool := false

namespace Handle

variable {J : Type}

/-- A new handle for `job`. -/
def create (name : ThreadName) (job : J) : Handle J := { name, job := some job }

/-- A new handle for `job` after a start that made `thread`, before the thread
    did anything. -/
def createStarted (name : ThreadName) (job : J) (thread : ThreadId) : Handle J :=
  { create name job with
    stage := .running
    joinable := some thread
    spawned := some ⟨thread, .created⟩ }

/-- An atomic step. -/
inductive Action
  | start (caller : ThreadId)
  | spawn (caller : ThreadId) (answer : Except Refusal ThreadId)
  | join (caller : ThreadId)
  | kill (caller : ThreadId)
  | run (caller : ThreadId)
  /-- The next step of a call under way. -/
  | proceed (caller : ThreadId)
  /-- The next step of a thread that runs the closure, outside the closure. -/
  | advance (thread : ThreadId)
  /-- The closure is over. -/
  | ended (thread : ThreadId) (panicked : Bool)
  | rename (text : String)
  /-- The last reference goes. -/
  | drop

/-- What a step comes to. -/
inductive Outcome (J : Type)
  /-- The call or the thread is one step on. -/
  | moved
  /-- The call is over. -/
  | returned (result : Except Error Unit)
  /-- The closure begins. -/
  | invoked (job : J)
  /-- The closure is gone without having run. -/
  | freed (job : J)
  /-- The thread is gone, or the inline run is over. -/
  | exited (panicked : Bool)

/-- The lock is free. -/
def isUnlocked (h : Handle J) : Bool := h.lock == .free

/-- The thread `caller` can begin a call: the lock is free, there is a reference
    to the handle, the thread does not wait in a join already, and if it runs
    the closure, it is inside. -/
def admits (h : Handle J) (caller : ThreadId) : Bool :=
  h.isUnlocked && !h.dropped && h.joiner != some caller &&
    (match h.spawned with
    | some ⟨thread, progress⟩ => thread != caller || progress.isInside
    | none => true) &&
    match h.inline with
    | some ⟨thread, progress⟩ => thread != caller || progress.isInside || progress.isOver
    | none => true

/-- The thread `t` has a call under way. -/
def isCalling (h : Handle J) (t : ThreadId) : Bool :=
  h.joiner == some t ||
    match h.lock with
    | .free => false
    | .starting caller | .spawned caller _ | .killing caller _ => caller == t

/-- The thread `t` is the thread of the handle, and still joinable. -/
def isCurrent (h : Handle J) (t : ThreadId) : Bool := h.joinable == some t

/-- The thread of the handle is gone. -/
def hasExited (h : Handle J) : Bool :=
  h.spawned.any fun course => course.progress.isOver

/-- A join would not wait. Handles that were joined or killed count as
    finished, idle ones do not. -/
def isFinished (h : Handle J) : Bool :=
  match h.stage with
  | .idle => false
  | .running => h.joinable.isNone || h.hasExited
  | .joined | .killed => true

/-- No call of the handle is under way. -/
def isUnused (h : Handle J) : Bool :=
  h.isUnlocked && h.joiner.isNone && h.inline.all fun course => course.progress.isOver

/-- The next step of a thread that runs the closure: what the handle stores,
    whether it is alive and how far the thread got. `spare` tells a thread
    that looks for the switch not to run the closure. -/
def Progress.next (spare : Bool) (stored : Option J) (alive : Bool) :
    Progress J → Option (Option J × Bool × Progress J × Outcome J)
  | .created =>
    match stored with
    | some job => some (none, alive, .taken job, .moved)
    | none => some (none, alive, .lowered false, .moved)
  | .taken job => some (stored, true, .raised job, .moved)
  | .raised job =>
    if spare then some (stored, alive, .spared job, .moved)
    else some (stored, alive, .inside, .invoked job)
  | .inside => none
  | .spared job => some (stored, false, .unneeded job, .moved)
  | .unneeded job => some (stored, alive, .lowered false, .freed job)
  | .ended panicked => some (stored, false, .lowered panicked, .moved)
  | .lowered panicked => some (stored, alive, .exited panicked, .exited panicked)
  | .exited _ => none

/-- The next step of the thread `t` outside the closure. The thread of the
    handle looks for the switch before the closure, an inline run does not. -/
def advance (h : Handle J) (t : ThreadId) : Option (Handle J × Outcome J) :=
  match h.spawned, h.inline with
  | some course, _ =>
    if course.thread = t then
      (Progress.next h.killed h.job h.alive course.progress).map
        fun (job, alive, progress, outcome) =>
          ({ h with job, alive, spawned := some { course with progress } }, outcome)
    else none
  | none, some course =>
    if course.thread = t then
      (Progress.next false h.job h.alive course.progress).map
        fun (job, alive, progress, outcome) =>
          ({ h with job, alive, inline := some { course with progress } }, outcome)
    else none
  | none, none => none

/-- The handle after the closure running on the thread `t` is over, which has
    no call under way. -/
def closureEnded (h : Handle J) (t : ThreadId) (panicked : Bool) : Option (Handle J) :=
  if h.isCalling t then none
  else match h.spawned, h.inline with
  | some { thread, progress := .inside }, _ =>
    if thread = t then some { h with spawned := some ⟨t, .ended panicked⟩ } else none
  | none, some { thread, progress := .inside } =>
    if thread = t then some { h with inline := some ⟨t, .ended panicked⟩ } else none
  | _, _ => none

/-- The result of joining the thread, once it is gone. -/
def joinResult (h : Handle J) : Option (Except Error Unit) :=
  match h.spawned with
  | some { progress := .exited panicked, .. } =>
    some (if panicked then .error (.panicked h.name.text) else .ok ())
  | _ => none

/-- The next step of the call of `caller` that is under way. -/
def proceed (h : Handle J) (caller : ThreadId) : Option (Effect (Handle J) (Outcome J)) :=
  match h.lock with
  | .spawned holder thread =>
    if holder = caller then
      some {
        state := { h with stage := .running, joinable := some thread, lock := .free }
        outcome := .returned (.ok ())
        notices := [.threadStarted h.name.text] }
    else none
  | .killing holder .raise =>
    if holder = caller then
      some { state := { h with killed := true, lock := .killing caller .lower }, outcome := .moved }
    else none
  | .killing holder .lower =>
    if holder = caller then
      some { state := { h with alive := false, lock := .killing caller .detach }, outcome := .moved }
    else none
  | .killing holder .detach =>
    if holder = caller then
      some {
        state := { h with joinable := none, lock := .free }
        outcome := .returned (.ok ())
        notices := [.threadKilled h.name.text] }
    else none
  | .starting _ | .free =>
    if h.joiner = some caller then
      h.joinResult.map fun result =>
        { state := { h with joiner := none }
          outcome := .returned result
          notices := [.threadJoined h.name.text] }
    else none

/-- The handle after a step, what the step came to and what it reported;
    `none` if the step is not possible. -/
def step (h : Handle J) : Action → Option (Effect (Handle J) (Outcome J))
  | .start caller =>
    if !h.admits caller then none
    else if h.stage ≠ .idle then some { state := h, outcome := .returned (.ok ()) }
    else some { state := { h with lock := .starting caller }, outcome := .moved }
  | .spawn caller answer =>
    if h.lock = .starting caller then
      match answer with
      | .ok thread =>
        if thread = caller then none
        else
          some {
            state := { h with
              lock := .spawned caller thread
              spawned := some ⟨thread, .created⟩ }
            outcome := .moved }
      | .error refusal =>
        some {
          state := { h with lock := .free }
          outcome := .returned (.error (.spawn h.name.text refusal))
          notices := [.threadRefused h.name.text refusal] }
    else none
  | .join caller =>
    if !h.admits caller then none
    else if h.stage ≠ .running then some { state := h, outcome := .returned (.ok ()) }
    else if h.isCurrent caller then
      some {
        state := h
        outcome := .returned (.ok ())
        notices := [.selfJoinIgnored h.name.text] }
    else
      some {
        state := { h with stage := .joined, joinable := none, joiner := some caller }
        outcome := .moved }
  | .kill caller =>
    if !h.admits caller then none
    else if h.stage ≠ .running then some { state := h, outcome := .returned (.ok ()) }
    else some { state := { h with stage := .killed, lock := .killing caller .raise }, outcome := .moved }
  | .run caller =>
    if !h.admits caller then none
    else if h.stage ≠ .idle then some { state := h, outcome := .returned (.ok ()) }
    else match h.job with
      | none => some { state := { h with stage := .joined }, outcome := .returned (.ok ()) }
      | some job =>
        some {
          state := { h with
            stage := .joined
            job := none
            inline := some ⟨caller, .taken job⟩ }
          outcome := .moved }
  | .proceed caller => h.proceed caller
  | .advance t => (h.advance t).map fun (state, outcome) => { state, outcome }
  | .ended t panicked => (h.closureEnded t panicked).map fun state => { state, outcome := .moved }
  | .rename text =>
    if !h.isUnused || h.dropped then none
    else if h.stage ≠ .idle then some { state := h, outcome := .returned (.ok ()) }
    else some { state := { h with name := .ofString text }, outcome := .returned (.ok ()) }
  | .drop =>
    if !h.isUnused || h.dropped then none
    else match h.spawned, h.job with
      | none, some job => some { state := { h with job := none, dropped := true }, outcome := .freed job }
      | _, _ => some { state := { h with dropped := true }, outcome := .moved }

/-- The names that a handle goes by while it is renamed, the present one first. -/
def names (h : Handle J) : List String → List ThreadName
  | [] => [h.name]
  | text :: rest =>
    match h.step (.rename text) with
    | some e => h.name :: e.state.names rest
    | none => h.name :: h.names rest

/-- A start that nobody disturbs ends in a started handle, and reports it. -/
theorem start_create (name : ThreadName) (job : J) {caller thread : ThreadId}
    (h : thread ≠ caller) :
    ((create name job).step (.start caller)).bind (fun e =>
      (e.state.step (.spawn caller (.ok thread))).bind fun e => e.state.step (.proceed caller))
    = some {
        state := createStarted name job thread
        outcome := .returned (.ok ())
        notices := [.threadStarted name.text] } := by
  simp [step, create, createStarted, admits, isUnlocked, proceed, h]

end Handle

end Threading

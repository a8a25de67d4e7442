import Mathlib.Data.Bool.Basic
import Threading.Proofs.Handle.OnlyJoined
import Threading.WorkerPool

/-!
# Workers, one at a time

What can be said of a worker without looking at the rest of its pool. The loop
of a worker *ended* once a task panicked on it, or once it found the pool shut
down and nothing queued (`ending?`); from then on it takes no more tasks. A
worker is *gone* when its thread is, or when it never had one.

* `Worker.Sound`: how the handle of a worker and its place in the loop fit
  together. Nobody starts, kills or renames the handles of a pool, so a handle is
  only ever joined (`Sound.onlyJoined`).
* `Worker.Moves`: the steps a worker takes by itself, without looking at the
  list and outside its tasks. They keep it sound, and change neither whose thread
  it is, nor whether it was joined, nor how its loop ended.
-/

namespace Threading.Worker

variable {τ : Type}

/-- The task that the worker is running. -/
def task? (w : Worker τ) : Option τ :=
  match w.loop with
  | .running task => some task
  | _ => none

/-- The worker sleeps until there is something to do. -/
def isAsleep (w : Worker τ) : Bool :=
  match w.loop with
  | .asleep => true
  | _ => false

/-- The worker is about to look at the list. -/
def isAwake (w : Worker τ) : Bool :=
  match w.loop with
  | .looking | .woken => true
  | _ => false

/-- How the loop of the worker ended, if it did: with a panic, or because the
    pool was shut down and nothing was queued. -/
def ending? (w : Worker τ) : Option Bool :=
  match w.loop, w.handle.spawned with
  | .leaving, _ => some false
  | .lost, _ => some true
  | .releasing panicked, _ => some panicked
  | .outside, some { progress := .ended panicked, .. } => some panicked
  | .outside, some { progress := .lowered panicked, .. } => some panicked
  | .outside, some { progress := .exited panicked, .. } => some panicked
  | _, _ => none

/-- The thread of the worker is gone, or never was. -/
def isGone (w : Worker τ) : Bool := w.handle.spawned.all fun course => course.progress.isOver

/-- The operating system did not let the thread of the worker begin yet. -/
def isHeld (w : Worker τ) : Bool :=
  match w.handle.spawned with
  | some { progress := .created, .. } => true
  | _ => false

/-- The worker has a thread and its loop did not end: it may still take tasks. -/
def isOpen (w : Worker τ) : Bool := w.handle.spawned.isSome && w.ending?.isNone

theorem isAsleep_iff {w : Worker τ} : w.isAsleep = true ↔ w.loop = .asleep := by
  cases hl : w.loop <;> simp [isAsleep, hl]

theorem isAwake_iff {w : Worker τ} : w.isAwake = true ↔ w.loop = .looking ∨ w.loop = .woken := by
  rw [isAwake]
  split <;> simp_all

theorem task?_eq_some_iff {w : Worker τ} {task : τ} :
    w.task? = some task ↔ w.loop = .running task := by
  rw [task?]
  split <;> simp_all

theorem isRunning_iff {w : Worker τ} : w.isRunning = true ↔ ∃ task, w.task? = some task := by
  cases hl : w.loop <;> simp [isRunning, task?, hl]

theorem task?_of_isAwake {w : Worker τ} (h : w.isAwake = true) : w.task? = none := by
  rcases isAwake_iff.1 h with h | h <;> rw [task?, h]

theorem ending?_of_isAwake {w : Worker τ} (h : w.isAwake = true) : w.ending? = none := by
  rcases isAwake_iff.1 h with h | h <;> simp [ending?, h]

theorem not_outside_of_isAwake {w : Worker τ} (h : w.isAwake = true) : w.loop ≠ .outside := by
  rcases isAwake_iff.1 h with h | h <;> simp [h]

/-- The worker, marked as joined by `c`, which waits for its thread. -/
def marked (w : Worker τ) (c : ThreadId) : Worker τ :=
  { w with handle := { w.handle with stage := .joined, joinable := none, joiner := some c } }

/-- The worker after the wait for its thread. -/
def collected (w : Worker τ) : Worker τ :=
  { w with handle := { w.handle with joiner := none } }

/-- The handle of a worker and its place in the loop fit together. -/
structure Sound (w : Worker τ) : Prop where
  unlocked : w.handle.lock = .free
  not_inline : w.handle.inline = none
  not_killed : w.handle.killed = false
  /-- Without a thread, the worker does nothing and cannot be joined. -/
  threadless : w.handle.spawned = none →
    w.loop = .outside ∧ w.handle.stage = .idle ∧ w.handle.joinable = none ∧
      w.handle.joiner = none ∧ w.handle.alive = false
  /-- The loop is the closure of the handle. -/
  inside_iff : ∀ c, w.handle.spawned = some c → (c.progress = .inside ↔ w.loop ≠ .outside)
  stored : ∀ c, w.handle.spawned = some c → c.progress = .created → w.handle.job = some ()
  not_spared : ∀ c, w.handle.spawned = some c → c.progress ≠ .spared () ∧ c.progress ≠ .unneeded ()
  alive_iff : ∀ c, w.handle.spawned = some c → (w.handle.alive = true ↔
    c.progress = .raised () ∨ c.progress = .inside ∨ ∃ b, c.progress = .ended b)
  /-- The thread can be joined, or somebody waits for its end, or it is gone. -/
  joined : ∀ c, w.handle.spawned = some c →
    (w.handle.stage = .running ∧ w.handle.joinable = some c.thread ∧ w.handle.joiner = none) ∨
    (w.handle.stage = .joined ∧ w.handle.joinable = none ∧ w.handle.joiner ≠ some c.thread ∧
      (w.handle.joiner = none → c.progress.isOver = true))

/-- A worker whose thread, if it has one, did nothing yet. -/
structure Fresh (w : Worker τ) : Prop extends w.Sound where
  outside : w.loop = .outside
  created : ∀ c, w.handle.spawned = some c → c.progress = .created
  not_joined : w.handle.stage ≠ .joined
  not_dropped : w.handle.dropped = false

/-- The worker `i` takes a step by itself, with this action, outcome and report. -/
inductive Moves (i : Nat) (w : Worker τ) :
    Worker τ → WorkerPool.Action τ → WorkerPool.Outcome τ → List Notice → Prop
  | begin {t : ThreadId} : w.loop = .outside → w.handle.spawned = some ⟨t, .created⟩ →
    Moves i w { w with handle := { w.handle with job := none, spawned := some ⟨t, .taken ()⟩ } }
      (.advance i) .moved []
  | raise {t : ThreadId} : w.loop = .outside → w.handle.spawned = some ⟨t, .taken ()⟩ →
    Moves i w { w with handle := { w.handle with alive := true, spawned := some ⟨t, .raised ()⟩ } }
      (.advance i) .moved []
  | enter {t : ThreadId} : w.loop = .outside → w.handle.spawned = some ⟨t, .raised ()⟩ →
    Moves i w { handle := { w.handle with spawned := some ⟨t, .inside⟩ }, loop := .looking }
      (.advance i) .moved []
  | leave : w.loop = .leaving →
    Moves i w { w with loop := .releasing false } (.advance i) .moved [.workerExiting i]
  | lose : w.loop = .lost →
    Moves i w { w with loop := .releasing true } (.advance i) .moved [.workerLost i]
  | release {t : ThreadId} {panicked : Bool} : w.loop = .releasing panicked →
    w.handle.spawned = some ⟨t, .inside⟩ →
    Moves i w { handle := { w.handle with spawned := some ⟨t, .ended panicked⟩ }, loop := .outside }
      (.advance i) .moved []
  | lower {t : ThreadId} {panicked : Bool} : w.loop = .outside →
    w.handle.spawned = some ⟨t, .ended panicked⟩ →
    Moves i w
      { w with handle := { w.handle with alive := false, spawned := some ⟨t, .lowered panicked⟩ } }
      (.advance i) .moved []
  | exit {t : ThreadId} {panicked : Bool} : w.loop = .outside →
    w.handle.spawned = some ⟨t, .lowered panicked⟩ →
    Moves i w { w with handle := { w.handle with spawned := some ⟨t, .exited panicked⟩ } }
      (.advance i) .exited []
  | stir : w.loop = .asleep → Moves i w { w with loop := .woken } (.stir i) .moved []

section Sound

variable {w : Worker τ}

/-- A worker in its loop has a thread, which runs the closure. -/
theorem Sound.inside (h : w.Sound) (hl : w.loop ≠ .outside) :
    ∃ t, w.handle.spawned = some ⟨t, .inside⟩ := by
  cases hc : w.handle.spawned with
  | none => exact absurd (h.threadless hc).1 hl
  | some c =>
    obtain ⟨t, progress⟩ := c
    obtain rfl : progress = .inside := (h.inside_iff _ hc).2 hl
    exact ⟨t, rfl⟩

/-- The handle of a worker is only joined. -/
theorem Sound.onlyJoined (h : w.Sound) : w.handle.OnlyJoined where
  unlocked := h.unlocked
  not_inline := h.not_inline
  not_killed := h.not_killed
  threadless hs :=
    have ⟨_, hstage, hjoinable, hjoiner, _⟩ := h.threadless hs
    ⟨hstage, hjoinable, hjoiner⟩
  stored c hs hc := ⟨(), h.stored c hs hc⟩
  not_spared c _ hs := h.not_spared c hs
  joined := h.joined

/-- A worker may go to any place of the loop while it is in the loop. -/
theorem Sound.withLoop (h : w.Sound) (hl : w.loop ≠ .outside) {loop : Loop τ}
    (hl' : loop ≠ .outside) : Sound { w with loop } :=
  { h with
    threadless := fun hs => absurd (h.threadless hs).1 hl
    inside_iff := fun c hc => ⟨fun _ => hl', fun _ => (h.inside_iff c hc).2 hl⟩ }

/-- The thread of a worker goes on, and is still there. -/
theorem Sound.withProgress (h : w.Sound) {t : ThreadId} {old new : Progress Unit}
    (hs : w.handle.spawned = some ⟨t, old⟩) (hold : old.isOver = false) {job : Option Unit}
    {alive : Bool} {loop : Loop τ} (hcreated : new ≠ .created)
    (hspared : new ≠ .spared () ∧ new ≠ .unneeded ()) (hin : new = .inside ↔ loop ≠ .outside)
    (halive : alive = true ↔ new = .raised () ∨ new = .inside ∨ ∃ b, new = .ended b) :
    Sound { handle := { w.handle with job, alive, spawned := some ⟨t, new⟩ }, loop } where
  unlocked := h.unlocked
  not_inline := h.not_inline
  not_killed := h.not_killed
  threadless hnone := by cases hnone
  inside_iff c hc := by
    obtain rfl := Option.some.inj hc
    exact hin
  stored c hc hnew := by
    obtain rfl := Option.some.inj hc
    exact absurd hnew hcreated
  not_spared c hc := by
    obtain rfl := Option.some.inj hc
    exact hspared
  alive_iff c hc := by
    obtain rfl := Option.some.inj hc
    exact halive
  joined := (h.onlyJoined.withProgress hs hold hcreated fun _ => hspared).joined

end Sound

section Moves

variable {i : Nat} {w w' : Worker τ} {a : WorkerPool.Action τ} {o : WorkerPool.Outcome τ}
  {ns : List Notice}

/-- A step of a sound worker leaves it sound. -/
theorem Moves.sound (m : w.Moves i w' a o ns) (h : w.Sound) : w'.Sound := by
  -- Outside the loop only `alive` has to be looked at: `raise` and `lower` set it,
  -- and the others leave it as it was.
  cases m with
  | begin hl hs =>
    have halive := h.alive_iff _ hs
    exact h.withProgress hs rfl nofun ⟨nofun, nofun⟩ (by simp [hl]) (by simpa using halive)
  | raise hl hs => exact h.withProgress hs rfl nofun ⟨nofun, nofun⟩ (by simp [hl]) (by simp)
  | enter hl hs =>
    have halive := h.alive_iff _ hs
    exact h.withProgress hs rfl nofun ⟨nofun, nofun⟩ (by simp) (by simpa using halive)
  | release hl hs =>
    have halive := h.alive_iff _ hs
    exact h.withProgress hs rfl nofun ⟨nofun, nofun⟩ (by simp) (by simpa using halive)
  | lower hl hs => exact h.withProgress hs rfl nofun ⟨nofun, nofun⟩ (by simp [hl]) (by simp)
  | exit hl hs =>
    have halive := h.alive_iff _ hs
    exact h.withProgress hs rfl nofun ⟨nofun, nofun⟩ (by simp [hl]) (by simpa using halive)
  | leave hl => exact h.withLoop (by simp [hl]) nofun
  | lose hl => exact h.withLoop (by simp [hl]) nofun
  | stir hl => exact h.withLoop (by simp [hl]) nofun

theorem Moves.thread? (m : w.Moves i w' a o ns) : w'.thread? = w.thread? := by
  cases m <;> simp_all [Worker.thread?]

theorem Moves.ending? (m : w.Moves i w' a o ns) : w'.ending? = w.ending? := by
  cases m <;> simp_all [Worker.ending?]

theorem Moves.task? (m : w.Moves i w' a o ns) : w.task? = none ∧ w'.task? = none := by
  cases m <;> simp_all [Worker.task?]

theorem Moves.stage (m : w.Moves i w' a o ns) : w'.handle.stage = w.handle.stage := by
  cases m <;> rfl

theorem Moves.joiner (m : w.Moves i w' a o ns) : w'.handle.joiner = w.handle.joiner := by
  cases m <;> rfl

theorem Moves.dropped (m : w.Moves i w' a o ns) : w'.handle.dropped = w.handle.dropped := by
  cases m <;> rfl

/-- A worker that looks at the list does not move by itself, and none falls asleep. -/
theorem Moves.awake (m : w.Moves i w' a o ns) : w.isAwake = false ∧ w'.isAsleep = false := by
  cases m <;> simp_all [Worker.isAwake, Worker.isAsleep]

/-- A worker that moves still has its thread. -/
theorem Moves.isGone (m : w.Moves i w' a o ns) (h : w.Sound) : w.isGone = false := by
  cases hc : w.handle.spawned with
  | none =>
    obtain ⟨hl, -⟩ := h.threadless hc
    cases m <;> simp_all
  | some c =>
    obtain ⟨t, progress⟩ := c
    -- A move in the loop does not name the progress of the thread: it is `inside`.
    have hin := h.inside_iff _ hc
    cases m <;> grind [Worker.isGone, Progress.isOver]

end Moves

/-! ## Changes that others make, or that the list makes -/

section Sound

variable {w : Worker τ}

/-- The thread of a worker does not join itself, and makes no other call of its handle. -/
theorem Sound.isCalling (h : w.Sound) {c : Course Unit} (hc : w.handle.spawned = some c) :
    w.handle.isCalling c.thread = false :=
  h.onlyJoined.isCalling hc

/-- A worker has a thread if its start is not to come. -/
theorem Sound.thread?_isSome_iff (h : w.Sound) :
    w.thread?.isSome = true ↔ w.handle.stage ≠ .idle := by
  rw [Worker.thread?, Option.isSome_map]
  cases hs : w.handle.spawned with
  | none => simp [(h.threadless hs).2.1]
  | some course =>
    rcases h.joined _ hs with ⟨hr, -⟩ | ⟨hj, -⟩
    · simp [hr]
    · simp [hj]

/-- A worker in its loop has a thread. -/
theorem Sound.thread?_isSome (h : w.Sound) (hl : w.loop ≠ .outside) :
    w.thread?.isSome = true := by
  obtain ⟨t, ht⟩ := h.inside hl
  rw [Worker.thread?, ht]
  rfl

theorem Sound.thread?_isSome_of_ending? (h : w.Sound) {b : Bool} (he : w.ending? = some b) :
    w.thread?.isSome = true := by
  cases hs : w.handle.spawned with
  | none => simp [Worker.ending?, (h.threadless hs).1, hs] at he
  | some course => rw [Worker.thread?, hs, Option.map_some, Option.isSome_some]

/-- The operating system let the thread of a worker in its loop begin. -/
theorem Sound.isHeld_of_loop (h : w.Sound) (hl : w.loop ≠ .outside) : w.isHeld = false := by
  obtain ⟨t, ht⟩ := h.inside hl
  rw [isHeld, ht]

theorem thread?_isSome_of_isGone (hg : w.isGone = false) : w.thread?.isSome = true := by
  rw [Worker.thread?, Option.isSome_map]
  cases hs : w.handle.spawned with
  | none => simp [isGone, hs] at hg
  | some course => rfl

/-- A handle that is current on a thread is that of the thread. -/
theorem Sound.thread?_of_isCurrent (h : w.Sound) {c : ThreadId}
    (hc : w.handle.isCurrent c = true) : w.thread? = some c := by
  obtain ⟨progress, hs⟩ := h.onlyJoined.of_isCurrent hc
  rw [Worker.thread?, hs, Option.map_some]

/-- A handle is current on the thread of its worker while it can be joined, and only then. -/
theorem Sound.isCurrent_iff (h : w.Sound) {c : ThreadId} (hc : w.thread? = some c) :
    w.handle.isCurrent c = true ↔ w.handle.stage = .running := by
  rw [Worker.thread?, Option.map_eq_some_iff] at hc
  obtain ⟨course, hs, rfl⟩ := hc
  rw [Handle.isCurrent, beq_iff_eq]
  rcases h.joined course hs with ⟨hr, hj, -⟩ | ⟨hr, hj, -⟩
  · simp [hr, hj]
  · simp [hr, hj]

/-- On its own thread, a handle is current until it is joined. -/
theorem Sound.joined_of_not_isCurrent (h : w.Sound) {c : ThreadId}
    (ht : w.thread? = some c) (hc : w.handle.isCurrent c = false) : w.handle.stage = .joined := by
  rw [Worker.thread?, Option.map_eq_some_iff] at ht
  obtain ⟨course, hs, rfl⟩ := ht
  rcases h.joined course hs with ⟨-, hj, -⟩ | ⟨hst, -⟩
  · simp [Handle.isCurrent, hj] at hc
  · exact hst

/-- Nobody waits for a worker that can be joined. -/
theorem Sound.joiner_of_running (h : w.Sound) (hr : w.handle.stage = .running) :
    w.handle.joiner = none :=
  h.onlyJoined.joiner_of_running hr

/-- A worker that was joined while it runs a task has another thread waiting for it. -/
theorem Sound.joiner_of_task? (h : w.Sound) {task : τ} (ht : w.task? = some task)
    (hj : w.handle.stage = .joined) : ∃ c, w.handle.joiner = some c ∧ w.thread? ≠ some c := by
  have hl := task?_eq_some_iff.1 ht
  obtain ⟨t, hs⟩ := h.inside (by simp [hl])
  rcases h.joined _ hs with ⟨hr, -⟩ | ⟨-, -, hne, hover⟩
  · rw [hr] at hj
    cases hj
  · cases hc : w.handle.joiner with
    | none => exact absurd (hover hc) (by simp [Progress.isOver])
    | some c =>
      refine ⟨c, rfl, fun htc => hne ?_⟩
      rw [Worker.thread?, hs] at htc
      rw [hc, ← htc, Option.map_some]

/-- A worker that nobody waits for is gone, unless it can still be joined. -/
theorem Sound.isGone_of_joiner (h : w.Sound) (hr : w.handle.stage ≠ .running)
    (hj : w.handle.joiner = none) : w.isGone = true := by
  cases hs : w.handle.spawned with
  | none => simp [isGone, hs]
  | some course => simpa [isGone, hs] using h.onlyJoined.hasExited_of_joiner hr hj hs

/-- Whoever waits for the thread of a worker goes on once it is gone. -/
theorem Sound.proceed (h : w.Sound) (c : ThreadId) : w.handle.proceed c =
    if w.handle.joiner = some c then
      w.handle.joinResult.map fun result =>
        { state := w.collected.handle
          outcome := .returned result
          notices := [.threadJoined w.handle.name.text] }
    else none :=
  h.onlyJoined.proceed c

theorem joinResult_eq_none_iff (h : w.Sound) (hj : w.handle.joiner ≠ none) :
    w.handle.joinResult = none ↔ w.isGone = false := by
  cases hc : w.handle.spawned with
  | none => exact absurd (h.threadless hc).2.2.2.1 hj
  | some c =>
    rw [Handle.OnlyJoined.joinResult_eq_none_iff hc, isGone, hc, Option.all_some]

theorem handle_wake (w : Worker τ) : w.wake.handle = w.handle := by
  rw [Worker.wake]
  split <;> rfl

theorem isAsleep_wake (w : Worker τ) : w.wake.isAsleep = false := by
  rw [Worker.wake]
  cases hl : w.loop <;> simp [isAsleep, hl]

/-- Another thread may mark the worker as joined. -/
theorem Sound.marked (h : w.Sound) (hr : w.handle.stage = .running) {c : ThreadId}
    (hc : w.handle.isCurrent c = false) : (w.marked c).Sound :=
  { h with
    threadless := fun hs => by
      rw [(h.threadless hs).2.1] at hr
      cases hr
    joined := (h.onlyJoined.marked hr hc).joined }

/-- The join of a worker may be over once its thread is gone. -/
theorem Sound.collected (h : w.Sound) (hg : w.isGone = true) : w.collected.Sound :=
  { h with
    threadless := fun hs =>
      have ⟨hl, hstage, hjoinable, _, halive⟩ := h.threadless hs
      ⟨hl, hstage, hjoinable, rfl, halive⟩
    joined := fun course hs => by
      have hs : w.handle.spawned = some course := hs
      rw [isGone, hs] at hg
      exact (h.onlyJoined.collected hs hg).joined course hs }

/-- Abandoning a worker changes only whether its handle was dropped, and the
    closure of a handle that was not started. -/
theorem abandon_eq (w : Worker τ) : ∃ job dropped,
    w.abandon = { w with handle := { w.handle with job, dropped } } ∧
      (w.handle.spawned ≠ none → job = w.handle.job) := by
  have same : ∃ job dropped, w = { w with handle := { w.handle with job, dropped } } ∧
      (w.handle.spawned ≠ none → job = w.handle.job) := ⟨_, _, rfl, fun _ => rfl⟩
  rw [Worker.abandon, Handle.step]
  split
  · next e he =>
    split at he
    · cases he
    · split at he
      · next hs _ =>
        cases he
        exact ⟨none, true, rfl, fun h => absurd hs h⟩
      · cases he
        exact ⟨_, true, rfl, fun _ => rfl⟩
  · exact same

theorem loop_abandon (w : Worker τ) : w.abandon.loop = w.loop := by
  obtain ⟨job, dropped, hw, -⟩ := abandon_eq w
  rw [hw]

theorem task?_abandon (w : Worker τ) : w.abandon.task? = w.task? := by
  rw [Worker.task?, loop_abandon, Worker.task?]

theorem ending?_abandon (w : Worker τ) : w.abandon.ending? = w.ending? := by
  obtain ⟨job, dropped, hw, -⟩ := abandon_eq w
  rw [hw, Worker.ending?, Worker.ending?]

theorem ending?_wake (w : Worker τ) : w.wake.ending? = w.ending? := by
  rw [Worker.wake]
  split
  · next hl => simp [Worker.ending?, hl]
  · rfl

theorem task?_wake (w : Worker τ) : w.wake.task? = w.task? := by
  rw [Worker.wake]
  split
  · next hl => simp [Worker.task?, hl]
  · rfl

/-- A worker that lets go of the list, or is gone, takes no more tasks. -/
theorem Sound.isOpen_of_holdsList (h : w.Sound) (hl : w.holdsList = false) : w.isOpen = false := by
  cases hs : w.handle.spawned with
  | none => simp [isOpen, hs]
  | some course =>
    obtain ⟨t, progress⟩ := course
    have hin := h.inside_iff _ hs
    cases progress <;> simp_all [isOpen, holdsList, Worker.ending?]

theorem Sound.isOpen_of_isGone (h : w.Sound) (hg : w.isGone = true) : w.isOpen = false := by
  cases hs : w.handle.spawned with
  | none => simp [isOpen, hs]
  | some course =>
    obtain ⟨t, progress⟩ := course
    have hin := h.inside_iff _ hs
    cases progress <;> simp_all [isOpen, isGone, Progress.isOver, Worker.ending?]

theorem Sound.task?_of_isGone (h : w.Sound) (hg : w.isGone = true) : w.task? = none := by
  cases hl : w.loop with
  | running task =>
    obtain ⟨t, ht⟩ := h.inside (by simp [hl])
    simp [isGone, ht, Progress.isOver] at hg
  | _ => simp [task?, hl]

/-- A thread that is gone lowered the alive flag. -/
theorem Sound.alive_of_isGone (h : w.Sound) (hg : w.isGone = true) : w.handle.alive = false := by
  cases hs : w.handle.spawned with
  | none => exact (h.threadless hs).2.2.2.2
  | some course =>
    obtain ⟨t, progress⟩ := course
    have halive := h.alive_iff _ hs
    cases progress <;> simp_all [isGone, Progress.isOver]

theorem Sound.isOpen_of_isAwake (h : w.Sound) (ha : w.isAwake = true) : w.isOpen = true := by
  obtain ⟨t, ht⟩ := h.inside (not_outside_of_isAwake ha)
  simp [isOpen, ht, ending?_of_isAwake ha]

theorem Sound.abandon (h : w.Sound) : w.abandon.Sound := by
  obtain ⟨job, dropped, hw, hjob⟩ := abandon_eq w
  rw [hw]
  refine { h with stored := fun c hc hcreated => ?_ }
  have hsome : w.handle.spawned ≠ none := by
    rw [show w.handle.spawned = some c from hc]
    exact Option.some_ne_none c
  exact (hjob hsome).trans (h.stored c hc hcreated)

end Sound

theorem Fresh.ending? {w : Worker τ} (h : w.Fresh) : w.ending? = none := by
  rw [Worker.ending?, h.outside]
  cases hc : w.handle.spawned with
  | none => rfl
  | some c =>
    obtain ⟨t, progress⟩ := c
    obtain rfl : progress = .created := h.created _ hc
    rfl

theorem Fresh.joiner {w : Worker τ} (h : w.Fresh) : w.handle.joiner = none := by
  cases hc : w.handle.spawned with
  | none => exact (h.threadless hc).2.2.2.1
  | some c =>
    rcases h.joined c hc with ⟨-, -, hj⟩ | ⟨hj, -⟩
    · exact hj
    · exact absurd hj h.not_joined

end Threading.Worker

import Threading.JobPool
import Threading.Proofs.Handle.OnlyJoined

/-!
# Threads of jobs, one at a time

What can be said of the thread of a job without looking at the rest of its pool.
The job is *over* once it returned or panicked; the thread is *gone* some steps
later (`Handle.hasExited`).

* `JobThread.Sound`: how the handle of a thread and its place fit together.
* `JobThread.Moves`: the steps a thread takes outside its job without looking at
  the permits. They keep it sound.
-/

namespace Threading.JobThread

variable {τ : Type}

/-- The operating system did not let the thread begin yet. -/
def isHeld (j : JobThread τ) : Bool :=
  match j.handle.spawned with
  | some { progress := .created, .. } => true
  | _ => false

/-- The thread has a permit: it runs its job, or is about to give the permit back. -/
def holdsPermit (j : JobThread τ) : Bool :=
  match j.place with
  | .working _ | .returning _ => true
  | _ => false

/-- The thread waits for a permit. -/
def isWaiting (j : JobThread τ) : Bool :=
  match j.place with
  | .waiting _ => true
  | _ => false

/-- The job returned, or panicked. -/
def isOver (j : JobThread τ) : Bool :=
  match j.place, j.handle.spawned with
  | .returning _, _ => true
  | .outside, some { progress := .ended _, .. } => true
  | .outside, some { progress := .lowered _, .. } => true
  | .outside, some { progress := .exited _, .. } => true
  | _, _ => false

/-- The thread, marked as joined by `c`, which waits for it. -/
def marked (j : JobThread τ) (c : ThreadId) : JobThread τ := { j with handle := j.handle.marked c }

/-- The thread after the wait for it. -/
def collected (j : JobThread τ) : JobThread τ := { j with handle := j.handle.collected }

/-- The handle of a thread and its place fit together. -/
structure Sound (j : JobThread τ) : Prop where
  onlyJoined : j.handle.OnlyJoined
  kept : j.handle.dropped = false
  /-- There is a thread, and the job is in the closure of its handle. -/
  inside_iff : ∃ t progress, j.handle.spawned = some ⟨t, progress⟩ ∧
    (progress = .inside ↔ j.place ≠ .outside)

/-- The thread takes a step outside its job, and without a permit, with this outcome. -/
inductive Moves (j : JobThread τ) : JobThread τ → JobPool.Outcome τ → Prop
  | begin {t : ThreadId} {job : τ} : j.place = .outside →
    j.handle.spawned = some ⟨t, .created⟩ → j.handle.job = some job →
    Moves j { j with handle := { j.handle with job := none, spawned := some ⟨t, .taken job⟩ } } .moved
  | raise {t : ThreadId} {job : τ} : j.place = .outside →
    j.handle.spawned = some ⟨t, .taken job⟩ →
    Moves j { j with handle := { j.handle with alive := true, spawned := some ⟨t, .raised job⟩ } }
      .moved
  | arrive {t : ThreadId} {job : τ} : j.place = .outside →
    j.handle.spawned = some ⟨t, .raised job⟩ →
    Moves j
      { handle := { j.handle with spawned := some ⟨t, .inside⟩ }, place := .arriving job } .moved
  | lower {t : ThreadId} {panicked : Bool} : j.place = .outside →
    j.handle.spawned = some ⟨t, .ended panicked⟩ →
    Moves j
      { j with handle := { j.handle with alive := false, spawned := some ⟨t, .lowered panicked⟩ } }
      .moved
  | exit {t : ThreadId} {panicked : Bool} : j.place = .outside →
    j.handle.spawned = some ⟨t, .lowered panicked⟩ →
    Moves j { j with handle := { j.handle with spawned := some ⟨t, .exited panicked⟩ } } .exited

theorem isWorking_iff {j : JobThread τ} : j.isWorking = true ↔ ∃ job, j.place = .working job := by
  cases hp : j.place <;> simp [isWorking, hp]

theorem thread?_eq_some_iff {j : JobThread τ} {t : ThreadId} :
    j.thread? = some t ↔ ∃ progress, j.handle.spawned = some ⟨t, progress⟩ := by
  cases hs : j.handle.spawned with
  | none => simp [thread?, hs]
  | some course =>
    obtain ⟨x, progress⟩ := course
    simp [thread?, hs]

section Sound

variable {j : JobThread τ}

/-- A thread in the closure of its handle runs it. -/
theorem Sound.inside (h : j.Sound) (hp : j.place ≠ .outside) :
    ∃ t, j.handle.spawned = some ⟨t, .inside⟩ := by
  obtain ⟨t, progress, hs, hiff⟩ := h.inside_iff
  exact ⟨t, by rw [hs, hiff.2 hp]⟩

/-- The operating system let a thread begin that is in the closure. -/
theorem Sound.isHeld_eq_false (h : j.Sound) (hp : j.place ≠ .outside) : j.isHeld = false := by
  obtain ⟨t, ht⟩ := h.inside hp
  simp [isHeld, ht]

/-- The thread of a handle that does not run the closure is outside of it. -/
theorem Sound.outside (h : j.Sound) {t : ThreadId} {progress : Progress τ}
    (hs : j.handle.spawned = some ⟨t, progress⟩) (hne : progress ≠ .inside) :
    j.place = .outside := by
  obtain ⟨x, progress', hs', hiff⟩ := h.inside_iff
  rw [hs] at hs'
  cases hs'
  exact Classical.not_not.1 fun hp => hne (hiff.2 hp)

/-- A thread in the closure may go to any place there. -/
theorem Sound.withPlace (h : j.Sound) (hp : j.place ≠ .outside) {place : Place τ}
    (hp' : place ≠ .outside) : Sound { j with place } where
  onlyJoined := h.onlyJoined
  kept := h.kept
  inside_iff :=
    have ⟨t, progress, hs, hiff⟩ := h.inside_iff
    ⟨t, progress, hs, fun _ => hp', fun _ => hiff.2 hp⟩

/-- A thread goes on, and is still there. -/
theorem Sound.withProgress (h : j.Sound) {t : ThreadId} {old new : Progress τ}
    (hs : j.handle.spawned = some ⟨t, old⟩) (hold : old.isOver = false) {job : Option τ}
    {alive : Bool} {place : Place τ} (hcreated : new ≠ .created)
    (hspared : ∀ job, new ≠ .spared job ∧ new ≠ .unneeded job)
    (hin : new = .inside ↔ place ≠ .outside) :
    Sound { handle := { j.handle with job, alive, spawned := some ⟨t, new⟩ }, place } where
  onlyJoined := h.onlyJoined.withProgress hs hold hcreated hspared
  kept := h.kept
  inside_iff := ⟨t, new, rfl, hin⟩

theorem Sound.marked (h : j.Sound) (hr : j.handle.stage = .running) {c : ThreadId}
    (hc : j.handle.isCurrent c = false) : (j.marked c).Sound where
  onlyJoined := h.onlyJoined.marked hr hc
  kept := h.kept
  inside_iff := h.inside_iff

theorem hasExited_eq {t : ThreadId} {progress : Progress τ}
    (hs : j.handle.spawned = some ⟨t, progress⟩) : j.handle.hasExited = progress.isOver := by
  rw [Handle.hasExited, hs, Option.any_some]

theorem Sound.collected (h : j.Sound) (hover : j.handle.hasExited = true) : j.collected.Sound := by
  obtain ⟨t, progress, hs, -⟩ := h.inside_iff
  rw [hasExited_eq hs] at hover
  exact ⟨h.onlyJoined.collected hs hover, h.kept, h.inside_iff⟩

/-- A thread that is gone is outside the closure. -/
theorem Sound.outside_of_hasExited (h : j.Sound) (hg : j.handle.hasExited = true) :
    j.place = .outside := by
  obtain ⟨t, progress, hs, -⟩ := h.inside_iff
  rw [hasExited_eq hs] at hg
  refine h.outside hs ?_
  rintro rfl
  cases hg

/-- The job of a thread that is gone is over. -/
theorem Sound.isOver_of_hasExited (h : j.Sound) (hg : j.handle.hasExited = true) :
    j.isOver = true := by
  have hp := h.outside_of_hasExited hg
  obtain ⟨t, progress, hs, -⟩ := h.inside_iff
  rw [hasExited_eq hs] at hg
  cases progress <;> simp_all [isOver, Progress.isOver]

theorem Moves.sound {j' : JobThread τ} {o : JobPool.Outcome τ} (m : j.Moves j' o) (h : j.Sound) :
    j'.Sound := by
  cases m with
  | begin hp hs _ => exact h.withProgress hs rfl nofun (fun _ => ⟨nofun, nofun⟩) (by simp [hp])
  | raise hp hs => exact h.withProgress hs rfl nofun (fun _ => ⟨nofun, nofun⟩) (by simp [hp])
  | arrive hp hs => exact h.withProgress hs rfl nofun (fun _ => ⟨nofun, nofun⟩) (by simp)
  | lower hp hs => exact h.withProgress hs rfl nofun (fun _ => ⟨nofun, nofun⟩) (by simp [hp])
  | exit hp hs => exact h.withProgress hs rfl nofun (fun _ => ⟨nofun, nofun⟩) (by simp [hp])

end Sound

end Threading.JobThread

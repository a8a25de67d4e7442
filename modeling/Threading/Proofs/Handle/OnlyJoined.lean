import Threading.Handle

/-!
# Handles that are only joined

Nobody starts, kills, runs or renames the handles of a pool after it made them:
they are only ever joined. What the fields of such a handle say of each other
(`OnlyJoined`) is kept by its thread (`OnlyJoined.withProgress`), by a thread that
marks it as joined (`OnlyJoined.marked`), and when the wait is over
(`OnlyJoined.collected`).
-/

namespace Threading.Handle

variable {J : Type}

/-- The handle, marked as joined by `c`, which waits for its thread. -/
def marked (h : Handle J) (c : ThreadId) : Handle J :=
  { h with stage := .joined, joinable := none, joiner := some c }

/-- The handle after the wait for its thread. -/
def collected (h : Handle J) : Handle J := { h with joiner := none }

/-- The fields of a handle that is only joined fit together. -/
structure OnlyJoined (h : Handle J) : Prop where
  unlocked : h.lock = .free
  not_inline : h.inline = none
  not_killed : h.killed = false
  /-- Without a thread, the handle cannot be joined. -/
  threadless : h.spawned = none → h.stage = .idle ∧ h.joinable = none ∧ h.joiner = none
  stored : ∀ c, h.spawned = some c → c.progress = .created → ∃ job, h.job = some job
  not_spared : ∀ c job, h.spawned = some c →
    c.progress ≠ .spared job ∧ c.progress ≠ .unneeded job
  /-- The thread can be joined, or somebody waits for its end, or it is gone. -/
  joined : ∀ c, h.spawned = some c →
    (h.stage = .running ∧ h.joinable = some c.thread ∧ h.joiner = none) ∨
    (h.stage = .joined ∧ h.joinable = none ∧ h.joiner ≠ some c.thread ∧
      (h.joiner = none → c.progress.isOver = true))

namespace OnlyJoined

variable {h : Handle J} {c t : ThreadId} {progress : Progress J}

/-- The thread of the handle goes on, and is still there. -/
theorem withProgress (hj : h.OnlyJoined) {old new : Progress J}
    (hs : h.spawned = some ⟨t, old⟩) (hold : old.isOver = false) {job : Option J} {alive : Bool}
    (hcreated : new ≠ .created) (hspared : ∀ job, new ≠ .spared job ∧ new ≠ .unneeded job) :
    OnlyJoined { h with job, alive, spawned := some ⟨t, new⟩ } where
  unlocked := hj.unlocked
  not_inline := hj.not_inline
  not_killed := hj.not_killed
  threadless := nofun
  stored c hc hnew := by
    obtain rfl := Option.some.inj hc
    exact absurd hnew hcreated
  not_spared c job hc := by
    obtain rfl := Option.some.inj hc
    exact hspared job
  joined c hc := by
    obtain rfl := Option.some.inj hc
    -- Nobody is done waiting for a thread that is still there.
    refine (hj.joined _ hs).imp_right fun ⟨hstage, hjoinable, hne, hover⟩ =>
      ⟨hstage, hjoinable, hne, fun hnone => ?_⟩
    rw [hover hnone] at hold
    cases hold

/-- The thread of the handle does not wait for itself. -/
theorem joiner_ne (hj : h.OnlyJoined) {course : Course J} (hs : h.spawned = some course) :
    h.joiner ≠ some course.thread := by
  rcases hj.joined course hs with ⟨-, -, hjoiner⟩ | ⟨-, -, hne, -⟩
  · rw [hjoiner]
    exact (Option.some_ne_none _).symm
  · exact hne

/-- The thread of the handle makes no call of it. -/
theorem isCalling (hj : h.OnlyJoined) (hs : h.spawned = some ⟨t, progress⟩) :
    h.isCalling t = false := by
  simp only [Handle.isCalling, hj.unlocked, Bool.or_false, beq_eq_false_iff_ne]
  exact hj.joiner_ne hs

/-- A handle that is current on a thread is that of the thread. -/
theorem of_isCurrent (hj : h.OnlyJoined) (hc : h.isCurrent c = true) :
    ∃ progress, h.spawned = some ⟨c, progress⟩ := by
  rw [isCurrent, beq_iff_eq] at hc
  cases hs : h.spawned with
  | none => simp [(hj.threadless hs).2.1] at hc
  | some course =>
    rcases hj.joined course hs with ⟨-, hjoinable, -⟩ | ⟨-, hjoinable, -⟩
    · rw [hjoinable] at hc
      cases hc
      exact ⟨course.progress, rfl⟩
    · simp [hjoinable] at hc

/-- A handle that can be joined is current on its own thread, and on no other. -/
theorem ne_of_not_isCurrent (hj : h.OnlyJoined) (hr : h.stage = .running)
    (hc : h.isCurrent c = false) (hs : h.spawned = some ⟨t, progress⟩) : t ≠ c := by
  rintro rfl
  rcases hj.joined _ hs with ⟨-, hjoinable, -⟩ | ⟨hstage, -⟩
  · simp [isCurrent, hjoinable] at hc
  · rw [hr] at hstage
    cases hstage

/-- Nobody waits for a handle that can be joined. -/
theorem joiner_of_running (hj : h.OnlyJoined) (hr : h.stage = .running) : h.joiner = none := by
  cases hs : h.spawned with
  | none => exact (hj.threadless hs).2.2
  | some course =>
    rcases hj.joined _ hs with ⟨-, -, hjoiner⟩ | ⟨hstage, -⟩
    · exact hjoiner
    · rw [hr] at hstage
      cases hstage

/-- The thread is gone if nobody waits for it, unless it can still be joined. -/
theorem hasExited_of_joiner (hj : h.OnlyJoined) (hr : h.stage ≠ .running)
    (hjoiner : h.joiner = none) (hs : h.spawned = some ⟨t, progress⟩) : progress.isOver = true := by
  rcases hj.joined _ hs with ⟨hstage, -⟩ | ⟨-, -, -, hover⟩
  · exact absurd hstage hr
  · exact hover hjoiner

/-- Whoever waits for the thread goes on once it is gone. -/
theorem proceed (hj : h.OnlyJoined) (c : ThreadId) : h.proceed c =
    if h.joiner = some c then
      h.joinResult.map fun result =>
        { state := h.collected
          outcome := .returned result
          notices := [.threadJoined h.name.text] }
    else none := by
  simp only [Handle.proceed, collected, hj.unlocked]

/-- The join has a result once the thread is gone. -/
theorem joinResult_eq_none_iff (hs : h.spawned = some ⟨t, progress⟩) :
    h.joinResult = none ↔ progress.isOver = false := by
  cases progress <;> simp [joinResult, hs, Progress.isOver]

/-- Another thread may mark the handle as joined. -/
theorem marked (hj : h.OnlyJoined) (hr : h.stage = .running) (hc : h.isCurrent c = false) :
    (h.marked c).OnlyJoined :=
  { hj with
    threadless := fun hs => by
      rw [(hj.threadless hs).1] at hr
      cases hr
    joined := fun course hs => by
      refine .inr ⟨rfl, rfl, fun hself => ?_, nofun⟩
      exact hj.ne_of_not_isCurrent hr hc hs (Option.some.inj hself).symm }

/-- The join of the handle may be over once its thread is gone. -/
theorem collected (hj : h.OnlyJoined) (hs : h.spawned = some ⟨t, progress⟩)
    (hover : progress.isOver = true) : h.collected.OnlyJoined :=
  { hj with
    threadless := fun hnone =>
      have ⟨hstage, hjoinable, _⟩ := hj.threadless hnone
      ⟨hstage, hjoinable, rfl⟩
    joined := fun course hc => by
      obtain rfl := Option.some.inj (hs.symm.trans hc)
      exact (hj.joined _ hs).imp (fun ⟨hstage, hjoinable, _⟩ => ⟨hstage, hjoinable, rfl⟩)
        fun ⟨hstage, hjoinable, _, _⟩ => ⟨hstage, hjoinable, nofun, fun _ => hover⟩ }

/-- A join of a handle to which there is a reference is possible, for all but its own
    thread outside the closure. -/
theorem admits (hj : h.OnlyJoined) (hd : h.dropped = false) (hjoiner : h.joiner ≠ some c)
    (hs : h.spawned = some ⟨t, progress⟩) (hin : t = c → progress.isInside = true) :
    h.admits c = true := by
  simp only [Handle.admits, isUnlocked, hj.unlocked, hj.not_inline, hd, hs]
  by_cases htc : t = c
  · simp [hjoiner, hin htc]
  · simp [hjoiner, htc]

end OnlyJoined

end Threading.Handle

import Threading.Proofs.JobPool.Progress

/-!
# As many jobs at once as there are permits

A job takes a permit before it begins, and its thread gives the permit back when it
returned or panicked. Until then the permit is with the thread, so no more jobs run at
once than there are permits (`Permitted.working_le`), and there is room in the semaphore
for every permit that comes back: giving it back never fails (`IsRun.given_back`), and no
pool ever reports that one was lost (`IsRun.not_lost`).

A job is *done* when its thread has left the closure that runs it, the last step of which
gives the permit back. When all jobs are done, all permits are back; and so they are when
all jobs returned or panicked and nobody can go on (`permits_limit_jobs`).
-/

namespace Threading

/-- The job returned or panicked, and its thread gave the permit back and left the closure. -/
def JobThread.isDone {τ : Type} (j : JobThread τ) : Bool :=
  match j.handle.spawned with
  | some { progress := .ended _, .. } => true
  | some { progress := .lowered _, .. } => true
  | some { progress := .exited _, .. } => true
  | _ => false

namespace JobThread

variable {τ : Type} {j : JobThread τ}

/-- A thread whose job is done has no permit. -/
theorem Sound.holdsPermit_of_isDone (h : j.Sound) (hd : j.isDone = true) :
    j.holdsPermit = false := by
  obtain ⟨t, progress, hs, -⟩ := h.inside_iff
  have hp : j.place = .outside := by
    refine h.outside hs ?_
    rintro rfl
    simp [isDone, hs] at hd
  simp [holdsPermit, hp]

theorem holdsPermit_of_isWorking (h : j.isWorking = true) : j.holdsPermit = true := by
  obtain ⟨job, hp⟩ := isWorking_iff.1 h
  simp [holdsPermit, hp]

/-- A thread whose job is over has a permit only if it is about to give it back. -/
theorem returning_of_isOver (ho : j.isOver = true) (hh : j.holdsPermit = true) :
    ∃ panicked, j.place = .returning panicked := by
  cases hp : j.place with
  | returning panicked => exact ⟨panicked, rfl⟩
  | working job => simp [isOver, hp] at ho
  | _ => simp [holdsPermit, hp] at hh

end JobThread

namespace JobPool

variable {τ : Type}

/-- What the permits of a pool are for. -/
structure Limited (permits : UInt32) (es : History τ) (p : JobPool τ) : Prop where
  /-- Every permit is with the semaphore, or with a job that took it and did not give it back. -/
  count : p.permits.count.toNat + p.threads.countP JobThread.holdsPermit = permits.toNat
  /-- No more jobs run at once than there are permits. -/
  working_le : p.threads.countP JobThread.isWorking ≤ permits.toNat
  /-- A job that returned or panicked can give its permit back at once, -/
  can_give_back : ∀ (i : Nat) (j : JobThread τ) (panicked : Bool), p.threads[i]? = some j →
    j.place = .returning panicked → ∃ chosen e, p.step (.advance i chosen) = some e
  /-- and this never fails: the semaphore has one permit more, and nothing is reported. -/
  given_back : ∀ (i : Nat) (j : JobThread τ) (panicked : Bool) (chosen : Option ThreadId)
    (e : Effect (JobPool τ) (Outcome τ)), p.threads[i]? = some j →
    j.place = .returning panicked → p.step (.advance i chosen) = some e →
    e.state.permits.count.toNat = p.permits.count.toNat + 1 ∧ e.notices = []
  /-- No permit was ever reported as lost. -/
  not_lost : ∀ o ∈ es, ∀ error, Notice.permitLost error ∉ o.notices
  /-- When all jobs are done, all permits are back, -/
  restored : (∀ j ∈ p.threads, j.isDone = true) → p.permits.count = permits
  /-- and also when all of them returned or panicked, and nobody can go on. -/
  restored_at_rest : p.Quiescent → (∀ j ∈ p.threads, j.isOver = true) → p.permits.count = permits

section Step

variable {permits : UInt32} {p : JobPool τ} {a : Action τ} {e : Effect (JobPool τ) (Outcome τ)}

theorem Permitted.working_le (h : Permitted permits p) :
    p.threads.countP JobThread.isWorking ≤ permits.toNat :=
  calc p.threads.countP JobThread.isWorking
      ≤ p.threads.countP JobThread.holdsPermit :=
        List.countP_mono_left fun _ _ => JobThread.holdsPermit_of_isWorking
    _ ≤ permits.toNat := h.count ▸ Nat.le_add_left ..

/-- When no thread has a permit, all of them are with the semaphore. -/
theorem Permitted.restored (h : Permitted permits p)
    (hnone : ∀ j ∈ p.threads, j.holdsPermit = false) : p.permits.count = permits := by
  have hzero : p.threads.countP JobThread.holdsPermit = 0 :=
    List.countP_eq_zero.2 fun j hj => by simp [hnone j hj]
  have hcount := h.count
  rw [hzero] at hcount
  exact UInt32.toNat_inj.1 hcount

/-- A thread that gives its permit back finds room for it. -/
theorem Permitted.post (h : Permitted permits p) {i : Nat} {j : JobThread τ} {panicked : Bool}
    {chosen : Option ThreadId} {f : Effect Semaphore Semaphore.Outcome}
    (hj : p.threads[i]? = some j) (hp : j.place = .returning panicked)
    (hf : p.permits.Transition (.post chosen) f) :
    f.outcome = .posted ∧ f.state.count.toNat = p.permits.count.toNat + 1 := by
  have hroom := h.count_ne_ceiling hj (by simp [JobThread.holdsPermit, hp])
  have ho : f.outcome = .posted := by
    cases hf with
    | overflow hc => exact absurd hc hroom
    | post | wake => rfl
  exact ⟨ho, (hf.posted h.sound.count_le ho).2⟩

/-- No step reports that a permit was lost. -/
theorem Transition.not_lost (ht : Transition p a e) (h : Permitted permits p) (error : Error) :
    Notice.permitLost error ∉ e.notices := by
  have joined {name : String} {result : Except Error Unit} :
      Notice.permitLost error ∉ Notice.threadJoined name :: joinNotices result := by
    cases result <;> simp [joinNotices]
  cases ht with
  | giveBack hj hp _ hf =>
    rw [(h.post hj hp hf).1]
    exact List.not_mem_nil
  | pruneCollect | collect => exact joined
  | pass =>
    dsimp only
    split <;> simp
  | accept | decline => simp
  | _ => exact List.not_mem_nil

end Step

section IsRun

variable {permits : UInt32} {es : History τ} {p : JobPool τ}

/-- No permit is ever reported as lost. -/
theorem IsRun.not_lost (h : IsRun permits es p) :
    ∀ o ∈ es, ∀ error, Notice.permitLost error ∉ o.notices := by
  refine h.induction (fun es _ => ∀ o ∈ es, ∀ error, Notice.permitLost error ∉ o.notices)
    (fun _ => nofun) fun es q a e hq ht ih => ?_
  refine List.forall_mem_append.2 ⟨ih, fun o ho => ?_⟩
  obtain rfl := List.mem_singleton.1 ho
  exact ht.not_lost hq.permitted

/-- A thread that is about to give its permit back can do so, -/
theorem IsRun.can_give_back (h : IsRun permits es p) {i : Nat} {j : JobThread τ} {panicked : Bool}
    (hj : p.threads[i]? = some j) (hp : j.place = .returning panicked) :
    ∃ chosen e, p.step (.advance i chosen) = some e := by
  obtain ⟨t, -, hadvance⟩ := advance_returning hj (h.sound_at hj) hp p.permits.waiters.first
  obtain ⟨f, hf⟩ := p.permits.exists_post
  rw [hf, Option.map_some] at hadvance
  exact ⟨_, _, hadvance⟩

/-- and then the semaphore has it. -/
theorem IsRun.given_back (h : IsRun permits es p) {i : Nat} {j : JobThread τ} {panicked : Bool}
    {chosen : Option ThreadId} {e : Effect (JobPool τ) (Outcome τ)} (hj : p.threads[i]? = some j)
    (hp : j.place = .returning panicked) (he : p.step (.advance i chosen) = some e) :
    e.state.permits.count.toNat = p.permits.count.toNat + 1 ∧ e.notices = [] := by
  obtain ⟨t, -, hadvance⟩ := advance_returning hj (h.sound_at hj) hp chosen
  obtain ⟨f, hf, rfl⟩ := Option.map_eq_some_iff.1 (hadvance.symm.trans he)
  obtain ⟨ho, hcount⟩ := h.permitted.post hj hp (Semaphore.transition_of_step hf)
  exact ⟨hcount, by rw [ho]; rfl⟩

/-- When nobody can go on, a thread whose job is over has no permit. -/
theorem IsRun.holdsPermit_of_quiescent (h : IsRun permits es p) (hq : p.Quiescent)
    {j : JobThread τ} (hj : j ∈ p.threads) (ho : j.isOver = true) : j.holdsPermit = false := by
  by_contra hholds
  obtain ⟨panicked, hp⟩ := JobThread.returning_of_isOver ho (by simpa using hholds)
  obtain ⟨i, hi⟩ := List.getElem?_of_mem hj
  obtain ⟨chosen, e, he⟩ := h.can_give_back hi hp
  have hheld := (h.sound j hj).isHeld_eq_false (by simp [hp])
  exact absurd (he.symm.trans (hq.threads i j hi hheld chosen)) nofun

/-- Which pools there are. -/
theorem exists_create_iff {permits : UInt32} :
    (∃ p : JobPool τ, create permits = .ok p) ↔ 1 ≤ permits := by
  rw [Semaphore.one_le_iff]
  refine ⟨fun ⟨_, hp⟩ => (create_eq_ok hp).1, fun hne => ?_⟩
  have hnew : Semaphore.create permits permits = .ok { count := permits, ceiling := permits } :=
    Semaphore.create_eq_ok_iff.2 ⟨⟨Semaphore.one_le_iff.2 hne, UInt32.le_refl _⟩, rfl⟩
  rw [create, if_neg hne, hnew]
  exact ⟨_, rfl⟩

/-- A pool can be made with any number of permits but none. Each permit is always with the
    semaphore or with one job, so that this is how many jobs run at once, and comes back
    when the job ends, however it ends. -/
theorem permits_limit_jobs (permits : UInt32) :
    ((∃ p : JobPool τ, create permits = .ok p) ↔ 1 ≤ permits) ∧
      ∀ (es : History τ) (p : JobPool τ), IsRun permits es p → Limited permits es p := by
  refine ⟨exists_create_iff, fun es p h => ?_⟩
  exact {
    count := h.permitted.count
    working_le := h.permitted.working_le
    can_give_back := fun _ _ _ hj hp => h.can_give_back hj hp
    given_back := fun _ _ _ _ _ hj hp he => h.given_back hj hp he
    not_lost := h.not_lost
    restored := fun hdone => h.permitted.restored fun j hj =>
      (h.sound j hj).holdsPermit_of_isDone (hdone j hj)
    restored_at_rest := fun hq hover => h.permitted.restored fun j hj =>
      h.holdsPermit_of_quiescent hq hj (hover j hj) }

/-- A job with the only permit panics while the second one waits for it, a third one has a thread
    that did not begin, and a destroy is under way. -/
theorem permits_limit_jobs_of_panic :
    (∃ p : JobPool Nat, create 1 = .ok p) ∧ ∃ (es : History Nat) (p : JobPool Nat),
      IsRun 1 es p ∧ p.permits.count = 0 ∧
      p.threads.map JobThread.place = [.returning true, .waiting 11, .outside] ∧
      p.destroying 9 = some (.collecting 0 [1, 2]) ∧ Limited 1 es p := by
  obtain ⟨es, p, h, hf⟩ := exists_isRun 1
    [.submit 7 10, .prune 7 true, .create 7 (.ok 1), .submit 7 11, .prune 7 true, .prune 7 true,
      .create 7 (.ok 2), .submit 7 12, .prune 7 true, .prune 7 true, .prune 7 true,
      .create 7 (.ok 3), .advance 0 none, .advance 0 none, .advance 0 none, .advance 0 none,
      .advance 1 none, .advance 1 none, .advance 1 none, .advance 1 none, .destroy 9, .proceed 9,
      .jobEnded 0 true]
    (fun _ p => (p.permits.count, p.threads.map JobThread.place, p.destroying 9))
    (0, [.returning true, .waiting 11, .outside], some (.collecting 0 [1, 2])) (by decide)
  simp only [Prod.mk.injEq] at hf
  obtain ⟨hnew, hlimited⟩ := permits_limit_jobs (τ := Nat) 1
  exact ⟨hnew.2 (by decide), es, p, h, hf.1, hf.2.1, hf.2.2, hlimited es p h⟩

end IsRun

end JobPool

end Threading

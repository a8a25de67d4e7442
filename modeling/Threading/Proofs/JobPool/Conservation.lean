import Threading.Proofs.JobPool.Jobs
import Threading.Proofs.JobPool.Limit

/-!
# Work conservation

No permit is idle while a job waits for one: when nobody can go on, the threads that
began and are not gone are those in their jobs, as many as there are permits for, and
those that wait for a permit (`IsRun.working_of_quiescent`). So if moreover no job is
running and no thread is held by the operating system, every accepted job has run
(`IsRun.complete`).

Together with the places of the jobs (`Accounted`) this says that the pool neither loses
nor repeats a job, whatever jobs panic and whoever destroys the pool meanwhile
(`IsRun.work_conserving`).
-/

namespace Threading

/-- The thread began, and is not gone. -/
def JobThread.isThere {τ : Type} (j : JobThread τ) : Bool :=
  !j.isHeld && !j.handle.hasExited

namespace JobThread

variable {τ : Type} {j : JobThread τ}

theorem isWaiting_iff : j.isWaiting = true ↔ ∃ job, j.place = .waiting job := by
  cases hp : j.place <;> simp [isWaiting, hp]

/-- A thread in the closure began, and is not gone. -/
theorem Sound.isThere (h : j.Sound) (hp : j.place ≠ .outside) : j.isThere = true := by
  obtain ⟨t, ht⟩ := h.inside hp
  simp [JobThread.isThere, h.isHeld_eq_false hp, hasExited_eq ht, Progress.isOver]

/-- The job of a thread that is gone is over. -/
theorem Sound.whereabouts_of_hasExited (h : j.Sound) (hg : j.handle.hasExited = true) :
    j.whereabouts = .settled := by
  have hp := h.outside_of_hasExited hg
  obtain ⟨t, progress, hs, -⟩ := h.inside_iff
  rw [hasExited_eq hs] at hg
  cases progress <;> simp_all [whereabouts, bound?, Progress.isOver]

end JobThread

namespace JobPool

variable {τ : Type} {permits : UInt32} {es : History τ} {p : JobPool τ}

/-- What a pool with this many permits makes of its jobs. -/
structure WorkConserving (permits : UInt32) (es : History τ) (p : JobPool τ) : Prop where
  /-- An accepted job is carried by its thread until it begins, once; no job is lost. -/
  accounted : Accounted es p
  /-- A thread begins no job but the one that was accepted with it. -/
  accepted_of_begun : ∀ (i : Nat) (job : τ), (i, job) ∈ begun es → (accepted es)[i]? = some job
  /-- If the jobs can be told apart, none begins twice, and none begins whose submit returned an
      error. -/
  distinct : (submitted es).Nodup → ((begun es).map Prod.snd).Nodup ∧
    ∀ job ∈ rejected es, job ∉ (begun es).map Prod.snd
  /-- When nobody can go on, of the threads that began and are not gone, as many are in their jobs
      as there are permits for, and the others wait for a permit. -/
  at_rest : p.Quiescent → ∀ there, there = p.threads.filter JobThread.isThere →
    there.countP JobThread.isWorking = min permits.toNat there.length ∧
    there.countP JobThread.isWaiting = there.length - min permits.toNat there.length
  /-- If moreover no job is running and no thread is held by the operating system, every accepted
      job has run once, and is over. -/
  complete : p.Quiescent → (∀ j ∈ p.threads, j.isWorking = false) →
    (∀ j ∈ p.threads, j.isHeld = false) → ∀ (i : Nat) (job : τ), (accepted es)[i]? = some job →
    ofThread i (begun es) = [job] ∧ ofThread i (finished es) = [job]

/-! ## When nobody can go on -/

/-- In a quiescent pool, the threads that began and are not gone are those in their jobs and
    those that wait for a permit. -/
theorem IsRun.toNat_isThere (h : IsRun permits es p) (hq : p.Quiescent) {j : JobThread τ}
    (hj : j ∈ p.threads) : j.isThere.toNat = j.isWorking.toNat + j.isWaiting.toNat := by
  have hs := h.sound j hj
  obtain ⟨i, hi⟩ := List.getElem?_of_mem hj
  have hcases := h.of_quiescent hq hi
  cases hp : j.place with
  | outside =>
    have hgone : j.isThere = false := by
      rcases hcases with hheld | hworking | hg | ⟨t, hw, -⟩
      · simp [JobThread.isThere, hheld]
      · simp [JobThread.isWorking, hp] at hworking
      · simp [JobThread.isThere, hg]
      · simp [JobThread.waiting?, hp] at hw
    simp [hgone, JobThread.isWorking, JobThread.isWaiting, hp]
  | working job => simp [hs.isThere, JobThread.isWorking, JobThread.isWaiting, hp]
  | waiting job => simp [hs.isThere, JobThread.isWorking, JobThread.isWaiting, hp]
  | arriving job | returning panicked =>
    -- It could ask for its permit, or give it back.
    rcases hcases with hheld | hworking | hg | ⟨t, hw, -⟩
    · simp [hs.isHeld_eq_false, hp] at hheld
    · simp [JobThread.isWorking, hp] at hworking
    · simp [hs.outside_of_hasExited hg] at hp
    · simp [JobThread.waiting?, hp] at hw

/-- If a thread waits for a permit in a quiescent pool, as many jobs are running as there are
    permits. -/
theorem IsRun.countP_isWorking_of_waiting (h : IsRun permits es p) (hq : p.Quiescent)
    (hwait : 0 < p.threads.countP JobThread.isWaiting) :
    p.threads.countP JobThread.isWorking = permits.toNat := by
  obtain ⟨j, hj, hw⟩ := List.countP_pos_iff.1 hwait
  obtain ⟨i, hi⟩ := List.getElem?_of_mem hj
  obtain ⟨job, hp⟩ := JobThread.isWaiting_iff.1 hw
  have hs := h.sound j hj
  have hasleep : p.permits.waiters.asleep ≠ [] := by
    rcases h.of_quiescent hq hi with hheld | hworking | hg | ⟨t, -, hmem⟩
    · simp [hs.isHeld_eq_false, hp] at hheld
    · simp [JobThread.isWorking, hp] at hworking
    · simp [hs.outside_of_hasExited hg] at hp
    · exact List.ne_nil_of_mem hmem
  obtain ⟨hcount, hholders⟩ := h.holders_of_quiescent hq hasleep
  rw [← hcount]
  exact List.countP_congr fun v hv => ⟨JobThread.holdsPermit_of_isWorking, hholders v hv⟩

/-- In a quiescent pool, of the threads that began and are not gone, as many as there are permits
    for are in their jobs, and the others wait for a permit. -/
theorem IsRun.working_of_quiescent (h : IsRun permits es p) (hq : p.Quiescent) :
    p.threads.countP JobThread.isWorking =
      min permits.toNat (p.threads.countP JobThread.isThere) ∧
    p.threads.countP JobThread.isWaiting = p.threads.countP JobThread.isThere -
      min permits.toNat (p.threads.countP JobThread.isThere) := by
  have hsum : p.threads.countP JobThread.isThere =
      p.threads.countP JobThread.isWorking + p.threads.countP JobThread.isWaiting :=
    countP_eq_add fun j hj => h.toNat_isThere hq hj
  have hle := h.permitted.working_le
  rcases Nat.eq_zero_or_pos (p.threads.countP JobThread.isWaiting) with hnone | hsome
  · omega
  · have hall := h.countP_isWorking_of_waiting hq hsome
    omega

/-- If moreover no job is running and no thread is held by the operating system, all threads are
    gone. -/
theorem IsRun.hasExited_of_quiescent (h : IsRun permits es p) (hq : p.Quiescent)
    (hworking : ∀ j ∈ p.threads, j.isWorking = false) (hheld : ∀ j ∈ p.threads, j.isHeld = false) :
    ∀ j ∈ p.threads, j.handle.hasExited = true := by
  have hzero : p.threads.countP JobThread.isWorking = 0 :=
    List.countP_eq_zero.2 fun j hj => by simp [hworking j hj]
  have hpos : 0 < permits.toNat := by
    obtain ⟨q, hcreate, -⟩ := h
    exact Nat.pos_of_ne_zero fun hz => (create_eq_ok hcreate).1 (UInt32.toNat_inj.1 hz)
  -- Somebody would be in a job if anybody was there.
  have hnobody : p.threads.countP JobThread.isThere = 0 := by
    have hmin := (h.working_of_quiescent hq).1
    omega
  intro j hj
  have hgone := List.countP_eq_zero.1 hnobody j hj
  simpa [JobThread.isThere, hheld j hj] using hgone

/-- Then every accepted job has run, once, on the thread that was made for it. -/
theorem IsRun.complete (h : IsRun permits es p) (hq : p.Quiescent)
    (hworking : ∀ j ∈ p.threads, j.isWorking = false) (hheld : ∀ j ∈ p.threads, j.isHeld = false)
    {i : Nat} {job : τ} (hi : (accepted es)[i]? = some job) :
    ofThread i (begun es) = [job] ∧ ofThread i (finished es) = [job] := by
  have hlt := (List.getElem?_eq_some_iff.1 hi).1
  rw [← h.accounted.length, jobs, List.length_map] at hlt
  have hj := List.getElem?_eq_getElem hlt
  have hgone := h.hasExited_of_quiescent hq hworking hheld _ (List.mem_of_getElem? hj)
  have hfate := h.accounted.fates i job _ hi (jobs_of_getElem? hj)
  rw [(h.sound_at hj).whereabouts_of_hasExited hgone] at hfate
  exact hfate

/-! ## Every moment -/

/-- A thread begins no job but its own. -/
theorem Accounted.accepted_of_begun (h : Accounted es p) {i : Nat} {job : τ}
    (hb : (i, job) ∈ begun es) : (accepted es)[i]? = some job := by
  have hmem := mem_ofThread.2 hb
  rcases h.begun_of_thread i with hnone | ⟨own, hi, hone⟩
  · rw [hnone] at hmem
    cases hmem
  · rw [hone, List.mem_singleton] at hmem
    rw [hi, hmem]

/-- A thread begins one job at most. -/
theorem Accounted.nodup_threads (h : Accounted es p) : ((begun es).map Prod.fst).Nodup := by
  rw [List.nodup_iff_count_le_one]
  intro i
  have hcount : ((begun es).map Prod.fst).count i = (ofThread i (begun es)).length := by
    rw [ofThread, List.length_map, ← List.countP_eq_length_filter, List.count_eq_countP,
      List.countP_map]
    rfl
  rw [hcount]
  rcases h.begun_of_thread i with hnone | ⟨job, -, hone⟩
  · simp [hnone]
  · simp [hone]

/-- If the jobs can be told apart, none begins twice, and none begins whose submit returned an
    error. -/
theorem Accounted.distinct (h : Accounted es p) (hdistinct : (submitted es).Nodup) :
    ((begun es).map Prod.snd).Nodup ∧ ∀ job ∈ rejected es, job ∉ (begun es).map Prod.snd := by
  have hall := (List.nodup_append.1 (h.answered.nodup_iff.1 hdistinct)).1
  obtain ⟨haccepted, -, hdisjoint⟩ := List.nodup_append.1 hall
  constructor
  · refine (List.Nodup.of_map _ h.nodup_threads).map_on fun x hx y hy hxy => ?_
    -- One job is that of one thread.
    have hx' := h.accepted_of_begun hx
    have hy' := h.accepted_of_begun hy
    have hlt := (List.getElem?_eq_some_iff.1 hx').1
    have hsame : x.1 = y.1 := (List.getElem?_inj hlt haccepted).1 (by rw [hx', hy', hxy])
    exact Prod.ext hsame hxy
  · intro job hr hb
    obtain ⟨⟨i, x⟩, hmem, rfl⟩ := List.mem_map.1 hb
    exact hdisjoint x (List.mem_of_getElem? (h.accepted_of_begun hmem)) x hr rfl

/-- The threads with a place in the closure are among those that are there. -/
theorem IsRun.countP_there (h : IsRun permits es p) {f : JobThread τ → Bool}
    (hf : ∀ j, f j = true → j.place ≠ .outside) :
    (p.threads.filter JobThread.isThere).countP f = p.threads.countP f := by
  rw [List.countP_filter]
  refine List.countP_congr fun j hj => ?_
  rw [Bool.and_eq_true]
  exact ⟨And.left, fun hfj => ⟨hfj, (h.sound j hj).isThere (hf j hfj)⟩⟩

/-- The pool loses no job and repeats none, whatever jobs panic and whoever destroys it, and
    leaves no permit idle while a job waits for one. -/
theorem IsRun.work_conserving (h : IsRun permits es p) : WorkConserving permits es p where
  accounted := h.accounted
  accepted_of_begun := fun _ _ => h.accounted.accepted_of_begun
  distinct := h.accounted.distinct
  at_rest := by
    rintro hq there rfl
    obtain ⟨hworking, hwaiting⟩ := h.working_of_quiescent hq
    rw [← List.countP_eq_length_filter, h.countP_there, h.countP_there]
    · exact ⟨hworking, hwaiting⟩
    · exact fun j hj => by obtain ⟨job, hp⟩ := JobThread.isWaiting_iff.1 hj; simp [hp]
    · exact fun j hj => by obtain ⟨job, hp⟩ := JobThread.isWorking_iff.1 hj; simp [hp]
  complete := fun hq hworking hheld _ _ => h.complete hq hworking hheld

/-- The first of three jobs panicked and its thread is gone, the second runs with its permit, and
    the third waits for that; a destroy is under way, and a fourth job came too late. -/
theorem work_conserving_of_panic :
    ∃ (es : History Nat) (p : JobPool Nat), IsRun 1 es p ∧ p.Quiescent ∧
      (p.threads.filter JobThread.isThere).length = 2 ∧
      (accepted es = [10, 11, 12] ∧ rejected es = [13] ∧
        (begun es).map Prod.snd = [10, 11]) ∧
      WorkConserving 1 es p := by
  obtain ⟨es, p, h, hf⟩ := exists_isRun 1
    [.submit 7 10, .prune 7 true, .create 7 (.ok 1), .submit 7 11, .prune 7 true, .prune 7 true,
      .create 7 (.ok 2), .submit 7 12, .prune 7 true, .prune 7 true, .prune 7 true,
      .create 7 (.ok 3), .advance 0 none, .advance 0 none, .advance 0 none, .advance 0 none,
      .advance 1 none, .advance 1 none, .advance 1 none, .advance 1 none, .destroy 9, .proceed 9,
      .submit 7 13, .jobEnded 0 true, .advance 0 (some 2), .advance 1 none, .advance 0 none,
      .advance 0 none, .advance 2 none, .advance 2 none, .advance 2 none, .advance 2 none,
      .proceed 9, .proceed 9]
    (fun es p => (decide p.Quiescent, (p.threads.filter JobThread.isThere).length, accepted es,
      rejected es, (begun es).map Prod.snd))
    (true, 2, [10, 11, 12], [13], [10, 11]) (by decide)
  simp only [Prod.mk.injEq, decide_eq_true_eq] at hf
  obtain ⟨hq, hthere, hjobs⟩ := hf
  exact ⟨es, p, h, hq, hthere, hjobs, h.work_conserving⟩

end JobPool

end Threading

import Threading.Proofs.JobPool.Permits
import Threading.Proofs.JobPool.Teardown

/-!
# Who can go on in a pool with a thread for every job

A thread of the pool always has a next step, unless it sleeps for a permit or runs
its job, or is gone (`IsRun.advance_eq_none`). A submit always has one
(`IsRun.submitting_eq_none`), and a destroy unless the thread it joins is still
there (`IsRun.proceed_eq_none`).

A pool is *quiescent* if nobody has a next step, but for threads that the
operating system still holds (`Quiescent`). Then every permit is with a thread that
runs its job, if somebody sleeps for one (`IsRun.holders_of_quiescent`). So a destroy
that waits in a quiescent pool waits for a job that the pool cannot make go on, or
is called by the job that has the only permit (`IsRun.blocked_by_a_job`).
-/

namespace Threading.JobPool

variable {τ : Type} {p : JobPool τ} {c t : ThreadId} {i : Nat} {j : JobThread τ}

/-- Nobody has a next step: every thread is held by the operating system, sleeps for a
    permit, runs its job or is gone, no submit holds the lock, and every destroy waits. -/
structure Quiescent (p : JobPool τ) : Prop where
  threads : ∀ i j, p.threads[i]? = some j → j.isHeld = false →
    ∀ chosen, p.advance i chosen = none
  pruning : ∀ c memory, p.prune c memory = none
  creating : ∀ c answer, p.createThread c answer = none
  destroys : ∀ c, p.proceed c = none

/-- The pool cannot make the thread go on: the operating system holds it, or it is in its job,
    and has no call of the pool under way. -/
def isElsewhere (p : JobPool τ) (j : JobThread τ) : Bool :=
  j.isHeld || (j.isWorking && !j.thread?.any p.isCalling)

/-! ## Deciding that nobody can go on -/

/-- A thread that cannot go on if the first sleeping thread is woken cannot go on at all. -/
theorem advance_eq_none_of_first (h : p.advance i p.permits.waiters.first = none)
    (chosen : Option ThreadId) : p.advance i chosen = none := by
  cases hj : p.threads[i]? with
  | none => simp [advance, hj]
  | some j =>
    cases hc : j.handle.spawned with
    | none => simp [advance, hj, hc]
    | some course =>
      simp only [advance, hj, hc, Option.bind_eq_bind, Option.bind_some] at h ⊢
      cases hp : j.place with
      | returning panicked =>
        -- The permit could be given back, so it is the closure that does not end.
        obtain ⟨f, hf⟩ := p.permits.exists_post
        simp only [hp, hf, Option.bind_some] at h
        cases hended : j.handle.closureEnded course.thread panicked with
        | none => cases p.permits.step (.post chosen) <;> simp [hended]
        | some handle => simp [hended] at h
      | working job => rfl
      | _ => simpa only [hp] using h

theorem prune_eq_none_of_submitting (h : ∀ s, p.submitting = some s → s.caller ≠ c)
    (memory : Bool) : p.prune c memory = none := by
  cases hsub : p.submitting with
  | none => simp [prune, hsub]
  | some s => simp [prune, hsub, h s hsub]

theorem createThread_eq_none_of_stage {answer : Except Refusal ThreadId}
    (h : ∀ s, p.submitting = some s → s.stage ≠ .creating) : p.createThread c answer = none := by
  cases hsub : p.submitting with
  | none => simp [createThread, hsub]
  | some s => simp [createThread, hsub, h s hsub]

theorem proceed_of_destroying_eq_none (h : p.destroying c = none) : p.proceed c = none := by
  rw [proceed, h]
  rfl

/-- It is enough to ask the threads, the submit and the destroys under way. -/
theorem quiescent_iff : p.Quiescent ↔
    (∀ i ∈ List.range p.threads.length, (p.threads[i]?.any JobThread.isHeld ||
      (p.advance i p.permits.waiters.first).isNone) = true) ∧
    (∀ s ∈ p.submitting, s.stage ≠ .creating ∧
      ∀ memory, (p.prune s.caller memory).isNone = true) ∧
    ∀ x ∈ p.destroys, (p.proceed x.1).isNone = true := by
  constructor
  · intro h
    refine ⟨fun i hi => ?_, fun s hs => ⟨fun hst => ?_, fun memory => ?_⟩,
      fun x _ => Option.isNone_iff_eq_none.2 (h.destroys x.1)⟩
    · have hlt := List.mem_range.1 hi
      have hj := List.getElem?_eq_getElem hlt
      rw [hj, Option.any_some]
      cases hheld : p.threads[i].isHeld with
      | true => rfl
      | false => rw [h.threads i _ hj hheld, Bool.false_or, Option.isNone_none]
    · have hn := h.creating s.caller (.error (.other ""))
      simp [createThread, Option.mem_def.1 hs, hst] at hn
    · rw [h.pruning, Option.isNone_none]
  · rintro ⟨hthreads, hsubmit, hdestroys⟩
    refine ⟨fun i j hj hheld => ?_, fun c memory => ?_, fun c answer => ?_, fun c => ?_⟩
    · have hi := hthreads i (List.mem_range.2 (List.getElem?_eq_some_iff.1 hj).1)
      rw [hj, Option.any_some, hheld, Bool.false_or] at hi
      exact advance_eq_none_of_first (Option.isNone_iff_eq_none.1 hi)
    · by_cases hc : ∃ s, p.submitting = some s ∧ s.caller = c
      · obtain ⟨s, hs, rfl⟩ := hc
        exact Option.isNone_iff_eq_none.1 ((hsubmit s hs).2 memory)
      · exact prune_eq_none_of_submitting (fun s hs hcaller => hc ⟨s, hs, hcaller⟩) memory
    · exact createThread_eq_none_of_stage fun s hs => (hsubmit s hs).1
    · cases hd : p.destroying c with
      | none => exact proceed_of_destroying_eq_none hd
      | some d =>
        exact Option.isNone_iff_eq_none.1 (hdestroys (c, d) (Calls.mem_of_lookup hd))

instance : Decidable p.Quiescent := decidable_of_iff _ quiescent_iff.symm

/-! ## Threads -/

/-- A thread that asks for a permit goes on if the semaphore lets it: it gets one, or sleeps. -/
theorem exists_advance_of_asks {progress : Progress τ} {job : τ} {a : Semaphore.Action}
    {f : Effect Semaphore Semaphore.Outcome} (hj : p.threads[i]? = some j)
    (hc : j.handle.spawned = some ⟨t, progress⟩) (ha : asks t j.place = some (a, job))
    (hf : p.permits.step a = some f) (chosen : Option ThreadId) :
    ∃ e, p.advance i chosen = some e := by
  have ho : f.outcome = .taken ∨ f.outcome = .asleep := by
    have ht := Semaphore.transition_of_step hf
    cases hp : j.place <;> rw [hp, asks] at ha <;> cases ha <;> cases ht <;> simp
  have hasked : ∃ e, p.askPermit i job a = some e := by
    rw [askPermit, hf]
    rcases ho with ho | ho <;> simp [ho]
  simp only [advance, hj, hc, Option.bind_eq_bind, Option.bind_some]
  cases hp : j.place <;> rw [hp, asks] at ha <;> cases ha <;> exact hasked

section IsRun

variable {permits : UInt32} {es : History τ} {d : Joining}

/-- The numbers of the threads are different. -/
theorem IsRun.nodup_threads (h : IsRun permits es p) :
    (p.threads.map JobThread.thread?).Nodup := by
  rw [List.nodup_iff_getElem?_ne_getElem?]
  intro i k hik hk heq
  rw [List.length_map] at hk
  have hj := List.getElem?_eq_getElem (Nat.lt_trans hik hk)
  have hv := List.getElem?_eq_getElem hk
  rw [List.getElem?_map, List.getElem?_map, hj, hv, Option.map_some, Option.map_some,
    Option.some_inj] at heq
  obtain ⟨t, progress, ht, -⟩ := (h.sound_at hj).inside_iff
  have hnumber : p.threads[i].thread? = some t := JobThread.thread?_eq_some_iff.2 ⟨progress, ht⟩
  exact Nat.ne_of_lt hik (h.thread_unique hj hv hnumber (heq ▸ hnumber))

/-- Whoever waits at the semaphore is a thread that waits for a permit. -/
theorem IsRun.mem_queue_iff (h : IsRun permits es p) :
    t ∈ p.permits.queue ↔
      ∃ (i : Nat) (j : JobThread τ), p.threads[i]? = some j ∧ j.waiting? = some t := by
  rw [h.permitted.queue.mem_iff, List.mem_filterMap]
  constructor
  · rintro ⟨j, hj, hw⟩
    obtain ⟨i, hi⟩ := List.getElem?_of_mem hj
    exact ⟨i, j, hi, hw⟩
  · rintro ⟨i, j, hj, hw⟩
    exact ⟨j, List.mem_of_getElem? hj, hw⟩

/-- A thread that did not ask for a permit yet does not wait at the semaphore. -/
theorem IsRun.not_mem_queue (h : IsRun permits es p) (hj : p.threads[i]? = some j)
    (ht : j.thread? = some t) {job : τ} (hp : j.place = .arriving job) :
    t ∉ p.permits.queue := by
  intro hqueue
  obtain ⟨k, v, hv, hw⟩ := h.mem_queue_iff.1 hqueue
  cases hpv : v.place with
  | waiting job' =>
    rw [JobThread.waiting?, hpv] at hw
    obtain rfl := h.thread_unique hj hv ht hw
    obtain rfl := Option.some.inj (hj.symm.trans hv)
    rw [hp] at hpv
    cases hpv
  | _ => simp [JobThread.waiting?, hpv] at hw

/-- Without a step, a thread runs its job, or is gone, or sleeps for a permit. -/
theorem IsRun.advance_eq_none (h : IsRun permits es p) (hj : p.threads[i]? = some j)
    (hn : ∀ chosen, p.advance i chosen = none) :
    j.isWorking = true ∨ j.handle.hasExited = true ∨
      ∃ t, j.waiting? = some t ∧ t ∈ p.permits.waiters.asleep := by
  have hs := h.sound_at hj
  obtain ⟨t, progress, hc, -⟩ := hs.inside_iff
  have ht : j.thread? = some t := JobThread.thread?_eq_some_iff.2 ⟨progress, hc⟩
  have hrefused (job : τ) (a : Semaphore.Action) (ha : asks t j.place = some (a, job)) :
      p.permits.step a = none := by
    by_contra hstep
    obtain ⟨f, hf⟩ := Option.ne_none_iff_exists'.1 hstep
    obtain ⟨e, he⟩ := exists_advance_of_asks hj hc ha hf none
    rw [hn] at he
    cases he
  cases hp : j.place with
  | outside =>
    rcases advance_outside hj hs hp none with ⟨-, hg⟩ | ⟨j', o, -, he⟩
    · exact .inr (.inl hg)
    · rw [hn] at he
      cases he
  | arriving job =>
    have hwait := hrefused job (.wait t) (by rw [hp, asks])
    have hfree : ¬p.permits.waiters.holds t = true := by
      simpa [Condition.holds, Semaphore.queue] using h.not_mem_queue hj ht hp
    rw [Semaphore.step, if_neg hfree] at hwait
    split at hwait <;> cases hwait
  | waiting job =>
    -- A thread that was woken may look.
    have hlook := hrefused job (.look t) (by rw [hp, asks])
    have hw : j.waiting? = some t := by rw [JobThread.waiting?, hp, ht]
    rcases List.mem_append.1 (h.mem_queue_iff.2 ⟨i, j, hj, hw⟩) with hasleep | hwoken
    · exact .inr (.inr ⟨t, hw, hasleep⟩)
    · rw [Semaphore.step, if_pos (List.contains_iff_mem.2 hwoken)] at hlook
      split at hlook <;> cases hlook
  | working job => exact .inl (JobThread.isWorking_iff.2 ⟨job, hp⟩)
  | returning panicked =>
    obtain ⟨x, -, hadvance⟩ := advance_returning hj hs hp p.permits.waiters.first
    obtain ⟨f, hf⟩ := p.permits.exists_post
    rw [hf, hn] at hadvance
    cases hadvance

/-! ## Calls -/

/-- A caller may join a thread for which it does not wait yet. -/
theorem Orderly.admits (ho : Orderly p) (hs : j.Sound) (hj : p.threads[i]? = some j)
    (hcalling : p.isCalling c = true) (hawaits : p.awaits c = none) :
    j.handle.admits c = true := by
  obtain ⟨t, progress, ht, hin⟩ := hs.inside_iff
  refine hs.onlyJoined.admits hs.kept (fun hjoiner => ?_) ht ?_
  · rw [(ho.awaits_iff c i).2 ((joinerAt_of_getElem? hj).trans hjoiner)] at hawaits
    cases hawaits
  · rintro rfl
    -- The thread of a job calls from the job.
    have hnumber : j.thread? = some t := JobThread.thread?_eq_some_iff.2 ⟨progress, ht⟩
    have hworking := ho.calling j (List.mem_of_getElem? hj) t hnumber hcalling
    obtain ⟨job, hp⟩ := JobThread.isWorking_iff.1 hworking
    rw [hin.2 (by simp [hp]), Progress.isInside]

theorem exists_join (ha : j.handle.admits c = true) : ∃ e, j.handle.step (.join c) = some e := by
  simp only [Handle.step, ha, Bool.not_true, Bool.false_eq_true, if_false]
  split
  · exact ⟨_, rfl⟩
  · split <;> exact ⟨_, rfl⟩

/-- The wait for a thread that is gone is over. -/
theorem exists_collect (hs : j.Sound) (hjoiner : j.handle.joiner = some c)
    (hg : j.handle.hasExited = true) : ∃ result,
      j.handle.step (.proceed c) = some {
        state := j.handle.collected
        outcome := .returned result
        notices := [.threadJoined j.handle.name.text] } := by
  obtain ⟨t, progress, ht, -⟩ := hs.inside_iff
  rw [JobThread.hasExited_eq ht] at hg
  have hresult : j.handle.joinResult ≠ none := by
    rw [Ne, Handle.OnlyJoined.joinResult_eq_none_iff ht, hg]
    exact nofun
  obtain ⟨result, hr⟩ := Option.ne_none_iff_exists'.1 hresult
  exact ⟨result, by rw [Handle.step, hs.onlyJoined.proceed, if_pos hjoiner, hr, Option.map_some]⟩

/-- A submit waits only for threads that are gone. -/
theorem IsRun.pruned (h : IsRun permits es p) {s : Submit τ} {kept rest : List Nat}
    (hsub : p.submitting = some s) (hst : s.stage = .collecting kept i rest) :
    ∃ j, p.threads[i]? = some j ∧ j.handle.hasExited = true := by
  revert s kept i rest
  refine h.induction (fun _ p => ∀ {i s kept rest}, p.submitting = some s →
    s.stage = .collecting kept i rest → ∃ j, p.threads[i]? = some j ∧ j.handle.hasExited = true)
    nofun fun es q a e hq ht ih => ?_
  intro i s' kept' rest' hsub' hst'
  have gone (hsub : q.submitting = some s') :
      ∃ j, e.state.threads[i]? = some j ∧ j.handle.hasExited = true := by
    obtain ⟨j, hj, hg⟩ := ih hsub hst'
    obtain ⟨j', hj', hc⟩ := ht.changes hj
    exact ⟨j', hj', hc.hasExited (hq.sound_at hj) hg⟩
  cases ht with
  | pruneMark _ _ hj _ hg =>
    cases hsub'
    cases hst'
    exact ⟨_, getElem?_set_self_of_some hj _, hg⟩
  | submit | keep | forget | pruneCollect | makeRoom =>
    cases hsub'
    cases hst'
  | noRoom | accept | decline => cases hsub'
  | _ => exact gone hsub'

/-- A submit that goes through the list has always a next step. -/
theorem IsRun.exists_prune (h : IsRun permits es p) {s : Submit τ} (hsub : p.submitting = some s)
    (hne : s.stage ≠ .creating) (memory : Bool) : ∃ e, p.prune s.caller memory = some e := by
  have hcalling : p.isCalling s.caller = true := by simp [isCalling, hsub]
  cases hst : s.stage with
  | creating => exact absurd hst hne
  | pruning kept rest =>
    have hawaits : p.awaits s.caller = none := by simp [awaits, hsub, hst, Submitting.awaited]
    cases rest with
    | nil =>
      simp only [prune, hsub, hst, Option.bind_eq_bind, Option.bind_some, ne_eq,
        not_true_eq_false, if_false]
      split <;> exact ⟨_, rfl⟩
    | cons i rest =>
      have hlt := h.orderly.known_lt i (by simp [known, hsub, hst, Submitting.known])
      have hj := List.getElem?_eq_getElem hlt
      have hs := h.sound_at hj
      obtain ⟨f, hf⟩ := exists_join (h.orderly.admits hs hj hcalling hawaits)
      simp only [prune, hsub, hst, hj, hf, Handle.isUnlocked, hs.onlyJoined.unlocked,
        Option.bind_eq_bind, Option.bind_some, ne_eq, not_true_eq_false, if_false]
      split
      · next hlocked => cases hlocked
      · split
        · exact ⟨_, rfl⟩
        · split <;> exact ⟨_, rfl⟩
  | collecting kept i rest =>
    obtain ⟨j, hj, hg⟩ := h.pruned hsub hst
    have hawaits : p.awaits s.caller = some i := by simp [awaits, hsub, hst, Submitting.awaited]
    have hjoiner := (joinerAt_of_getElem? hj).symm.trans ((h.orderly.awaits_iff _ i).1 hawaits)
    obtain ⟨result, hf⟩ := exists_collect (h.sound_at hj) hjoiner hg
    simp [prune, hsub, hst, hj, hf]

/-- A submit has always a next step. -/
theorem IsRun.submitting_eq_none (h : IsRun permits es p)
    (hprune : ∀ c memory, p.prune c memory = none)
    (hcreate : ∀ c answer, p.createThread c answer = none) : p.submitting = none := by
  by_contra hne
  obtain ⟨s, hsub⟩ := Option.ne_none_iff_exists'.1 hne
  by_cases hst : s.stage = .creating
  · have hanswer := hcreate s.caller (.error (.other ""))
    simp [createThread, hsub, hst] at hanswer
  · obtain ⟨e, he⟩ := h.exists_prune hsub hst true
    rw [hprune] at he
    cases he

/-- A destroy that cannot go on waits for another thread, which is still there. -/
theorem IsRun.proceed_eq_none (h : IsRun permits es p) (hd : p.destroying c = some d)
    (hn : p.proceed c = none) : ∃ i rest j, d = .collecting i rest ∧ p.threads[i]? = some j ∧
      j.handle.hasExited = false ∧ j.thread? ≠ some c := by
  have ho := h.orderly
  have hawaits : p.awaits c = d.awaited := by
    rw [awaits_of_not_submitting (ho.of_destroying hd).2.2, hd, Option.bind_some]
  simp only [proceed, hd, Option.bind_eq_bind, Option.bind_some] at hn
  cases d with
  | joining rest =>
    cases rest with
    | nil => cases hn
    | cons i rest =>
      have hj := List.getElem?_eq_getElem (ho.left_lt c _ hd i List.mem_cons_self)
      have hcalling : p.isCalling c = true := by simp [isCalling, hd]
      obtain ⟨f, hf⟩ := exists_join (ho.admits (h.sound_at hj) hj hcalling hawaits)
      simp only [hj, hf, Option.bind_some] at hn
      split at hn <;> cases hn
  | collecting i rest =>
    have hj := List.getElem?_eq_getElem (ho.left_lt c _ hd i List.mem_cons_self)
    have hs := h.sound_at hj
    have hjoiner := (joinerAt_of_getElem? hj).symm.trans ((ho.awaits_iff c i).1 hawaits)
    refine ⟨i, rest, _, rfl, hj, ?_, fun hself => ?_⟩
    · by_contra hg
      obtain ⟨result, hf⟩ := exists_collect hs hjoiner (by simpa using hg)
      simp [hj, hf] at hn
    · -- No thread is marked as joined by itself.
      obtain ⟨progress, ht⟩ := JobThread.thread?_eq_some_iff.1 hself
      rcases hs.onlyJoined.joined _ ht with ⟨-, -, hnone⟩ | ⟨-, -, hne, -⟩
      · rw [hnone] at hjoiner
        cases hjoiner
      · exact hne hjoiner

/-! ## Quiescent pools -/

/-- In a quiescent pool, a thread is held, runs its job, is gone, or sleeps for a permit. -/
theorem IsRun.of_quiescent (h : IsRun permits es p) (hq : p.Quiescent)
    (hj : p.threads[i]? = some j) : j.isHeld = true ∨ j.isWorking = true ∨
      j.handle.hasExited = true ∨ ∃ t, j.waiting? = some t ∧ t ∈ p.permits.waiters.asleep := by
  cases hheld : j.isHeld with
  | true => exact .inl rfl
  | false => exact .inr (h.advance_eq_none hj (hq.threads i j hj hheld))

/-- If somebody sleeps for a permit in a quiescent pool, all permits are with threads that run
    their jobs. -/
theorem IsRun.holders_of_quiescent (h : IsRun permits es p) (hq : p.Quiescent)
    (hasleep : p.permits.waiters.asleep ≠ []) :
    p.threads.countP JobThread.holdsPermit = permits.toNat ∧
      ∀ j ∈ p.threads, j.holdsPermit = true → j.isWorking = true := by
  have hperm := h.permitted
  have inside {i : Nat} {j : JobThread τ} (hj : p.threads[i]? = some j) (hp : j.place ≠ .outside) :
      j.isWorking = true ∨ ∃ t, j.waiting? = some t ∧ t ∈ p.permits.waiters.asleep := by
    have hs := h.sound_at hj
    rcases h.of_quiescent hq hj with hheld | hworking | hg | hw
    · rw [hs.isHeld_eq_false hp] at hheld
      cases hheld
    · exact .inl hworking
    · exact absurd (hs.outside_of_hasExited hg) hp
    · exact .inr hw
  constructor
  · -- Whoever was woken would look, so nobody was, and no permit is left.
    have hwoken : p.permits.waiters.woken = [] := by
      rw [List.eq_nil_iff_forall_not_mem]
      intro t ht
      obtain ⟨i, j, hj, hw⟩ := h.mem_queue_iff.1 (List.mem_append_right _ ht)
      cases hp : j.place with
      | waiting job =>
        rcases inside hj (by simp [hp]) with hworking | ⟨x, hx, hasleep⟩
        · simp [JobThread.isWorking, hp] at hworking
        · obtain rfl := Option.some.inj (hx.symm.trans hw)
          exact List.disjoint_of_nodup_append hperm.sound.nodup hasleep ht
      | _ => simp [JobThread.waiting?, hp] at hw
    have hzero := hperm.sound.enough hasleep
    have hcount := hperm.count
    rw [hwoken, List.length_nil] at hzero
    omega
  · intro j hmem hholds
    obtain ⟨i, hj⟩ := List.getElem?_of_mem hmem
    cases hp : j.place with
    | working job => exact JobThread.isWorking_iff.2 ⟨job, hp⟩
    | returning panicked =>
      rcases inside hj (by simp [hp]) with hworking | ⟨t, hw, -⟩
      · exact hworking
      · simp [JobThread.waiting?, hp] at hw
    | _ => simp [JobThread.holdsPermit, hp] at hholds

/-- One thread at most has this number. -/
theorem IsRun.countP_thread_le (h : IsRun permits es p) (c : ThreadId) :
    p.threads.countP (fun j => j.thread? == some c) ≤ 1 := by
  have hle := List.nodup_iff_count_le_one.1 h.nodup_threads (some c)
  rwa [List.count_eq_countP, List.countP_map] at hle

/-- If all permits are with one thread, there is one permit. -/
theorem IsRun.one_permit (h : IsRun permits es p)
    (hcount : p.threads.countP JobThread.holdsPermit = permits.toNat)
    (hall : ∀ v ∈ p.threads, v.holdsPermit = true → v.thread? = some c) :
    permits = 1 ∧ ∃ v ∈ p.threads, v.holdsPermit = true := by
  have hle : p.threads.countP JobThread.holdsPermit ≤ 1 :=
    Nat.le_trans (List.countP_mono_left fun v hv hholds => beq_iff_eq.2 (hall v hv hholds))
      (h.countP_thread_le c)
  have hne : permits.toNat ≠ 0 := fun hz => by
    obtain ⟨q, hq, -⟩ := h
    exact (create_eq_ok hq).1 (UInt32.toNat_inj.1 hz)
  have hone : permits.toNat = 1 := by omega
  exact ⟨UInt32.toNat_inj.1 hone, List.countP_pos_iff.1 (by omega)⟩

/-- In a quiescent pool only one destroy waits, so nobody else calls the pool. -/
theorem IsRun.isCalling_of_quiescent (h : IsRun permits es p) (hq : p.Quiescent)
    (hd : p.destroying c = some d) (htc : t ≠ c) : p.isCalling t = false := by
  have first {x : ThreadId} {d : Joining} (hd : p.destroying x = some d) :
      firstDestroyer es = some x := by
    obtain ⟨i, rest, j, rfl, -⟩ := h.proceed_eq_none hd (hq.destroys x)
    exact (h.teardown.busy x _ hd (List.cons_ne_nil i rest)).1
  have hsub := (h.orderly.of_destroying hd).2.2
  cases hdt : p.destroying t with
  | none => simp [isCalling, hdt, hsub]
  | some d' => exact absurd (Option.some.inj ((first hdt).symm.trans (first hd))) htc

/-- In a quiescent pool the lock is free. A destroy that did not return waits while another
    thread is in its job, which calls nothing of the pool, or is held by the operating system;
    or there is one permit, the destroy was called by the job that has it, and waits for a
    thread that waits for the permit. -/
theorem IsRun.blocked_by_a_job (h : IsRun permits es p) (hq : p.Quiescent) :
    p.submitting = none ∧ ∀ c d, p.destroying c = some d →
      (∃ j ∈ p.threads, j.thread? ≠ some c ∧ p.isElsewhere j = true) ∨
      (permits = 1 ∧ (∃ v ∈ p.threads, v.thread? = some c ∧ v.isWorking = true) ∧
        ∃ i rest j, d = .collecting i rest ∧ p.threads[i]? = some j ∧ j.isWaiting = true) := by
  refine ⟨h.submitting_eq_none hq.pruning hq.creating, fun c d hd => ?_⟩
  obtain ⟨i, rest, j, rfl, hj, hg, hjc⟩ := h.proceed_eq_none hd (hq.destroys c)
  have elsewhere {v : JobThread τ} (hvc : v.thread? ≠ some c) (hworking : v.isWorking = true) :
      p.isElsewhere v = true := by
    have hidle : v.thread?.any p.isCalling = false := by
      cases ht : v.thread? with
      | none => rfl
      | some t => exact h.isCalling_of_quiescent hq hd fun htc => hvc (htc ▸ ht)
    simp [isElsewhere, hworking, hidle]
  rcases h.of_quiescent hq hj with hheld | hworking | hg' | ⟨t, hw, hasleep⟩
  · exact .inl ⟨j, List.mem_of_getElem? hj, hjc, by simp [isElsewhere, hheld]⟩
  · exact .inl ⟨j, List.mem_of_getElem? hj, hjc, elsewhere hjc hworking⟩
  · rw [hg] at hg'
    cases hg'
  · obtain ⟨hcount, hholders⟩ := h.holders_of_quiescent hq (List.ne_nil_of_mem hasleep)
    by_cases hother : ∃ v ∈ p.threads, v.holdsPermit = true ∧ v.thread? ≠ some c
    · obtain ⟨v, hv, hholds, hvc⟩ := hother
      exact .inl ⟨v, hv, hvc, elsewhere hvc (hholders v hv hholds)⟩
    · -- The caller has all the permits there are.
      push Not at hother
      obtain ⟨hone, v, hv, hholds⟩ := h.one_permit hcount hother
      refine .inr ⟨hone, ⟨v, hv, hother v hv hholds, hholders v hv hholds⟩, i, rest, j, rfl, hj, ?_⟩
      cases hp : j.place <;> simp_all [JobThread.waiting?, JobThread.isWaiting]

/-- The first of three jobs destroys the pool while the second one is running. Both have a permit,
    and the third waits for one: the destroy waits for the second job. -/
theorem blocked_by_a_job_of_two_permits :
    ∃ (es : History Nat) (p : JobPool Nat), IsRun 2 es p ∧ p.Quiescent ∧
      p.threads.countP JobThread.isWaiting = 1 ∧ p.submitting = none ∧
      p.destroying 1 = some (.collecting 1 [2]) ∧
      ∃ j ∈ p.threads, j.thread? ≠ some 1 ∧ p.isElsewhere j = true := by
  obtain ⟨es, p, h, hf⟩ := exists_isRun 2
    [.submit 7 10, .prune 7 true, .create 7 (.ok 1), .submit 7 11, .prune 7 true, .prune 7 true,
      .create 7 (.ok 2), .submit 7 12, .prune 7 true, .prune 7 true, .prune 7 true,
      .create 7 (.ok 3), .advance 0 none, .advance 0 none, .advance 0 none, .advance 0 none,
      .advance 1 none, .advance 1 none, .advance 1 none, .advance 1 none, .advance 2 none,
      .advance 2 none, .advance 2 none, .advance 2 none, .destroy 1, .proceed 1, .proceed 1]
    (fun _ p => (decide p.Quiescent, p.threads.countP JobThread.isWaiting, p.destroying 1))
    (true, 1, some (.collecting 1 [2])) (by decide)
  simp only [Prod.mk.injEq, decide_eq_true_eq] at hf
  obtain ⟨hq, hwaiting, hd⟩ := hf
  obtain ⟨hsub, hblocked⟩ := h.blocked_by_a_job hq
  refine ⟨es, p, h, hq, hwaiting, hsub, hd, (hblocked 1 _ hd).resolve_right ?_⟩
  rintro ⟨hone, -⟩
  exact absurd hone (by decide)

/-- A job with the only permit destroys the pool, and waits for a job that waits for the permit.
    Nobody can go on, and no other job is running. -/
theorem stuck_when_a_job_destroys :
    ∃ (es : History Nat) (p : JobPool Nat), IsRun 1 es p ∧ p.Quiescent ∧
      p.destroying 1 = some (.collecting 1 []) ∧
      (∃ j, p.threads[1]? = some j ∧ j.isWaiting = true) ∧
      ∀ j ∈ p.threads, j.thread? ≠ some 1 → p.isElsewhere j = false := by
  obtain ⟨es, p, h, hf⟩ := exists_isRun 1
    [.submit 7 10, .prune 7 true, .create 7 (.ok 1), .submit 7 11, .prune 7 true, .prune 7 true,
      .create 7 (.ok 2), .advance 0 none, .advance 0 none, .advance 0 none, .advance 0 none,
      .advance 1 none, .advance 1 none, .advance 1 none, .advance 1 none, .destroy 1, .proceed 1,
      .proceed 1]
    (fun _ p => (decide p.Quiescent, p.destroying 1, p.threads[1]?.map JobThread.isWaiting,
      p.threads.all fun j => j.thread? == some 1 || !p.isElsewhere j))
    (true, some (.collecting 1 []), some true, true) (by decide)
  simp only [Prod.mk.injEq, decide_eq_true_eq, List.all_eq_true, Option.map_eq_some_iff] at hf
  obtain ⟨hq, hd, hwaiting, hnobody⟩ := hf
  exact ⟨es, p, h, hq, hd, hwaiting, fun j hj hne => by simpa [hne] using hnobody j hj⟩

end IsRun

end Threading.JobPool

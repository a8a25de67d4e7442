import Threading.Proofs.JobPool.Callers

/-!
# The permits of a pool

Every permit is with the semaphore, or with a thread that runs its job or is
about to give it back; and the threads that wait at the semaphore are those that
wait for a permit (`Permitted`, `IsRun.permitted`). A permit that is given back finds
its place (`IsRun.count_ne_ceiling`).
-/

namespace Threading

/-- The number of a thread that waits for a permit. -/
def JobThread.waiting? {τ : Type} (j : JobThread τ) : Option ThreadId :=
  match j.place with
  | .waiting _ => j.thread?
  | _ => none

namespace JobPool

variable {τ : Type}

/-- The permits of a pool are with the semaphore or with its threads. -/
structure Permitted (permits : UInt32) (p : JobPool τ) : Prop where
  sound : p.permits.Sound
  ceiling : p.permits.ceiling = permits
  count : p.permits.count.toNat + p.threads.countP JobThread.holdsPermit = permits.toNat
  queue : p.permits.queue.Perm (p.threads.filterMap JobThread.waiting?)

section Step

variable {p q : JobPool τ} {a : Action τ} {e : Effect (JobPool τ) (Outcome τ)} {permits : UInt32}
  {i : Nat} {j v : JobThread τ}

/-- A thread changes, and the permits and the queue with it. -/
theorem Permitted.change (h : Permitted permits p) (hj : p.threads[i]? = some j)
    (hq : q.threads = p.threads.set i v) (hs : q.permits.Sound)
    (hceiling : q.permits.ceiling = p.permits.ceiling)
    (hcount : q.permits.count.toNat + v.holdsPermit.toNat =
      p.permits.count.toNat + j.holdsPermit.toNat)
    (hqueue : (j.waiting?.toList ++ q.permits.queue).Perm (v.waiting?.toList ++ p.permits.queue)) :
    Permitted permits q where
  sound := hs
  ceiling := hceiling.trans h.ceiling
  count := by
    have hset := countP_set_add (f := JobThread.holdsPermit) hj v
    have hold := h.count
    rw [hq]
    omega
  queue := by
    have hset := perm_filterMap_set (f := JobThread.waiting?) hj v
    rw [← hq] at hset
    exact (List.perm_append_left_iff _).1
      (hqueue.trans ((h.queue.append_left _).trans hset.symm))

/-- A thread changes that neither has a permit nor waits, before and after. -/
theorem Permitted.same (h : Permitted permits p) (hj : p.threads[i]? = some j)
    (hq : q.threads = p.threads.set i v) (hqs : q.permits = p.permits)
    (hholds : v.holdsPermit = j.holdsPermit) (hwaits : v.waiting? = j.waiting?) :
    Permitted permits q :=
  h.change hj hq (hqs ▸ h.sound) (by rw [hqs]) (by rw [hqs, hholds]) (by rw [hqs, hwaits])

/-- A thread takes a permit. -/
theorem Permitted.take (h : Permitted permits p) {t : ThreadId} {job : τ} {b : Semaphore.Action}
    {s : Semaphore} {ns : List Notice} (hj : p.threads[i]? = some j) (ht : j.thread? = some t)
    (hb : asks t j.place = some (b, job))
    (hs : p.permits.Transition b { state := s, outcome := .taken, notices := ns }) :
    Permitted permits
      { p with permits := s, threads := p.threads.set i { j with place := .working job } } := by
  have hsound := hs.sound h.sound
  cases hp : j.place with
  | arriving x =>
    rw [hp, asks] at hb
    cases hb
    cases hs with
    | take hw hc =>
      have hpred := Semaphore.toNat_pred hc
      refine h.change hj rfl hsound rfl ?_ ?_
      · simpa [JobThread.holdsPermit, hp] using hpred
      · simp [JobThread.waiting?, hp, Semaphore.queue]
  | waiting x =>
    rw [hp, asks] at hb
    cases hb
    cases hs with
    | takeWoken hw hc =>
      have hpred := Semaphore.toNat_pred hc
      refine h.change hj rfl hsound rfl ?_ ?_
      · simpa [JobThread.holdsPermit, hp] using hpred
      · -- The thread leaves the queue.
        have hleave := (List.perm_cons_erase hw).append_left p.permits.waiters.asleep
        simpa [JobThread.waiting?, hp, ht, Semaphore.queue, Condition.leave] using
          (List.perm_middle.symm.trans hleave.symm)
  | _ => simp [asks, hp] at hb

/-- A thread finds no permit, and sleeps. -/
theorem Permitted.sleep (h : Permitted permits p) {t : ThreadId} {job : τ} {b : Semaphore.Action}
    {s : Semaphore} {ns : List Notice} (hj : p.threads[i]? = some j) (ht : j.thread? = some t)
    (hb : asks t j.place = some (b, job))
    (hs : p.permits.Transition b { state := s, outcome := .asleep, notices := ns }) :
    Permitted permits
      { p with permits := s, threads := p.threads.set i { j with place := .waiting job } } := by
  have hsound := hs.sound h.sound
  have ht' : JobThread.thread? { j with place := .waiting job } = some t := ht
  cases hp : j.place with
  | arriving x =>
    rw [hp, asks] at hb
    cases hb
    cases hs with
    | sleep hw hc =>
      refine h.change hj rfl hsound rfl ?_ ?_
      · simp [JobThread.holdsPermit, hp]
      · simp only [JobThread.waiting?, hp, ht', Option.toList_none, Option.toList_some,
          List.nil_append, List.singleton_append]
        exact Condition.perm_sleep ..
  | waiting x =>
    rw [hp, asks] at hb
    cases hb
    cases hs with
    | sleepOn hw hc =>
      refine h.change hj rfl hsound rfl ?_ ?_
      · simp [JobThread.holdsPermit, hp]
      · simp only [JobThread.waiting?, hp, ht, ht']
        exact (Condition.perm_sleepOn _ hw).append_left _
  | _ => simp [asks, hp] at hb

theorem holders_pos (hj : p.threads[i]? = some j) (hholds : j.holdsPermit = true) :
    0 < p.threads.countP JobThread.holdsPermit :=
  List.countP_pos_iff.2 ⟨j, List.mem_of_getElem? hj, hholds⟩

/-- While a thread has a permit, there is room for it in the semaphore. -/
theorem Permitted.count_ne_ceiling (h : Permitted permits p) (hj : p.threads[i]? = some j)
    (hholds : j.holdsPermit = true) : p.permits.count ≠ p.permits.ceiling := by
  intro heq
  have hpos := holders_pos hj hholds
  have hcount := h.count
  rw [heq, h.ceiling] at hcount
  omega

/-- A thread gives its permit back. -/
theorem Permitted.giveBack (h : Permitted permits p) {t : ThreadId} {panicked : Bool}
    {chosen : Option ThreadId} {f : Effect Semaphore Semaphore.Outcome}
    (hj : p.threads[i]? = some j) (hp : j.place = .returning panicked)
    (hs : p.permits.Transition (.post chosen) f) :
    Permitted permits
      { p with
        permits := f.state
        threads := p.threads.set i
          { handle := { j.handle with spawned := some ⟨t, .ended panicked⟩ }, place := .outside } } := by
  have hsound := hs.sound h.sound
  have hroom := h.count_ne_ceiling hj (by simp [JobThread.holdsPermit, hp])
  have hwaits : j.waiting? = none := by simp [JobThread.waiting?, hp]
  cases hs with
  | overflow hc => exact absurd hc hroom
  | post hne _ =>
    have hsucc := Semaphore.toNat_succ h.sound.count_le hne
    refine h.change hj rfl hsound rfl ?_ ?_
    · simpa [JobThread.holdsPermit, hp] using hsucc
    · rw [hwaits]
      exact .refl _
  | wake hne ht =>
    have hsucc := Semaphore.toNat_succ h.sound.count_le hne
    refine h.change hj rfl hsound rfl ?_ ?_
    · simpa [JobThread.holdsPermit, hp] using hsucc
    · rw [hwaits]
      exact Condition.perm_wake _ ht

/-- Every step keeps the permits with the semaphore or with the threads. -/
theorem Transition.permitted (ht : Transition p a e) (h : Permitted permits p) :
    Permitted permits e.state := by
  cases ht with
  | take hj ht hb hs => exact h.take hj ht hb hs
  | sleep hj ht hb hs => exact h.sleep hj ht hb hs
  | giveBack hj hp _ hs => exact h.giveBack hj hp hs
  | pruneMark _ _ hj | pruneCollect _ _ hj | mark _ hj | collect _ hj =>
    exact h.same hj rfl rfl rfl rfl
  | move hj m =>
    refine h.same hj rfl rfl ?_ ?_
    · cases m <;> simp_all [JobThread.holdsPermit]
    · cases m <;> simp_all [JobThread.waiting?]
  | finish hj hp =>
    exact h.same hj rfl rfl (by simp [JobThread.holdsPermit, hp])
      (by simp [JobThread.waiting?, hp])
  | accept =>
    exact { h with
      count := by simpa [JobThread.holdsPermit] using h.count
      queue := by simpa [JobThread.waiting?, List.filterMap_cons] using h.queue }
  | stir hs =>
    have hsound := hs.sound h.sound
    cases hs with
    | stir ht => exact ⟨hsound, h.ceiling, h.count, (Condition.perm_wake _ ht).trans h.queue⟩
  | _ => exact { h with }

end Step

/-- The permits are with the semaphore or with the threads at every moment. -/
theorem IsRun.permitted {permits : UInt32} {es : History τ} {p : JobPool τ}
    (h : IsRun permits es p) : Permitted permits p := by
  refine h.induction (fun _ p => Permitted permits p) (fun hne => ?_)
    fun _ _ _ _ _ ht ih => ht.permitted ih
  have hnew : Semaphore.create permits permits = .ok { count := permits, ceiling := permits } := by
    simp [Semaphore.create, hne]
  exact ⟨(Semaphore.sound_create hnew).1, rfl, Nat.add_zero _, .nil⟩

end JobPool

end Threading

import Threading.Proofs.WorkerPool.AtRest
import Threading.Proofs.WorkerPool.SelfDestroy
import Threading.Proofs.WorkerPool.WakeUp

/-!
# The last reference goes in a task

A task may have the last reference to its own pool. When it lets go of it, in its body or
at its end, the pool is destroyed on the thread of the worker that runs the task, and
abandoned. Nobody but the workers can do anything meanwhile, and:

* the destroy waits for nobody: it asks the workers up to its own, shuts the pool down,
  and returns `0`, and then the pool can be abandoned (`Releasing`, `IsRun.releasing`);
* the workers go on without the pool. The list goes with the last of them that holds it
  (`IsRun.tasks_eq_nil_of_unheld`), so when they are gone, no task is left: those up to
  the panic that takes the last worker have run, and the others went (`IsRun.woundUp`).
-/

namespace Threading.WorkerPool

variable {τ : Type}

/-! ## Who holds the list -/

section Step

variable {p : WorkerPool τ} {a : Action τ} {e : Effect (WorkerPool τ) (Outcome τ)}

/-- A worker lets go of the list in one step of its own, or when the pool is abandoned. -/
theorem Changes.holdsList {i : Nat} {w w' : Worker τ} (h : Changes p a i w w')
    (hw : w.holdsList = true) : w'.holdsList = true ∨
      (a = .advance i ∧ ∃ panicked, w.loop = .releasing panicked) ∨ a = .abandon := by
  cases h with
  | moves m =>
    cases m with
    | release hl => exact .inr (.inl ⟨rfl, _, hl⟩)
    | begin | raise | enter => exact .inl rfl
    | lower _ hs | exit _ hs => simp [Worker.holdsList, hs] at hw
    | _ => exact .inl hw
  | abandoned ha => exact .inr (.inr ha)
  | _ => exact .inl hw

/-- The closure of a worker is taken by its thread, or goes when the pool is abandoned. -/
theorem Changes.job {i : Nat} {w w' : Worker τ} (h : Changes p a i w w') (ha : a ≠ .abandon) :
    w'.handle.job = w.handle.job ∨ w'.handle.job = none := by
  cases h with
  | moves m =>
    cases m with
    | begin => exact .inr rfl
    | _ => exact .inl rfl
  | abandoned hab => exact absurd hab ha
  | _ => exact .inl rfl

/-- A closure that no thread will take goes with the handle. -/
theorem job_abandon {w : Worker τ} (h : w.Sound) (hd : w.handle.dropped = false)
    (hs : w.handle.spawned = none) : w.abandon.handle.job = none := by
  have hunused : w.handle.isUnused = true := by
    simp [Handle.isUnused, Handle.isUnlocked, h.unlocked, h.not_inline, (h.threadless hs).2.2.2.1]
  cases hj : w.handle.job <;> simp [Worker.abandon, Handle.step, hunused, hd, hs, hj]

/-- A worker that lets go of the list as the last one takes the tasks with it. -/
theorem tasks_of_release {i : Nat} {w : Worker τ} {panicked : Bool}
    (he : p.release i w panicked = some e) (hl : e.state.listHeld = false) :
    e.state.tasks = [] := by
  rw [release] at he
  simp only [Option.bind_eq_bind, Option.bind_eq_some_iff] at he
  obtain ⟨course, -, handle, -, he⟩ := he
  split at he
  · next hheld =>
    cases he
    rw [hheld] at hl
    cases hl
  · cases he
    rfl

/-- If nobody holds the list when the pool is abandoned, the tasks go. -/
theorem tasks_of_abandon (he : p.step .abandon = some e) (hl : e.state.listHeld = false) :
    e.state.tasks = [] := by
  rw [step] at he
  split at he
  · cases he
  · dsimp only at he
    split at he
    · next hheld =>
      cases he
      rw [hheld] at hl
      cases hl
    · cases he
      rfl

/-- A pool is abandoned by one step, and stays so. -/
theorem Transition.of_abandoned (ht : Transition p a e) (ha : e.state.abandoned = true) :
    a = .abandon ∨ p.abandoned = true := by
  cases ht with
  | abandon | abandonLast => exact .inl rfl
  | _ => exact .inr ha

theorem listHeld_eq_false : p.listHeld = false ↔
    p.abandoned = true ∧ ∀ w ∈ p.workers, w.holdsList = false := by
  simp [listHeld]

end Step

section IsRun

variable {label : String} {answers : List (Except Refusal ThreadId)} {es fs : History τ}
  {p q : WorkerPool τ}

/-- A list that nobody holds is gone. -/
theorem IsRun.tasks_eq_nil_of_unheld (h : IsRun label answers es p) (hl : p.listHeld = false) :
    p.tasks = [] := by
  obtain ⟨hd, f, hf, hrun⟩ := h
  revert hl
  refine hrun.invariant (fun _ q => q.listHeld = false → q.tasks = []) (fun _ => ?_)
    fun fs v a e hv ih he hl => ?_
  · obtain ⟨workers, hstate, -⟩ := create_eq_ok hf
    rw [hstate]
  · have hvrun : IsRun label answers fs v := ⟨hd, f, hf, hv⟩
    have ht := transition_of_step hvrun.sound he
    obtain ⟨hab, hnone⟩ := listHeld_eq_false.1 hl
    cases hheld : v.listHeld with
    | false =>
      have hdown := (hvrun.teardown.abandoned (listHeld_eq_false.1 hheld).1).1
      exact ht.tasks_eq_nil hdown (ih hheld)
    | true =>
      rcases ht.of_abandoned hab with rfl | hvab
      · exact tasks_of_abandon he hl
      · -- Some worker held the list, and lets go of it in this step.
        have hex : ∃ w ∈ v.workers, w.holdsList = true := by simpa [listHeld, hvab] using hheld
        obtain ⟨w, hw, hwl⟩ := hex
        obtain ⟨i, hi⟩ := List.getElem?_of_mem hw
        obtain ⟨w', hw', hc⟩ := ht.changes hi
        rcases hc.holdsList hwl with hwl' | ⟨rfl, panicked, hloop⟩ | rfl
        · rw [hnone w' (List.mem_of_getElem? hw')] at hwl'
          cases hwl'
        · simp only [step, advance, hi, hloop, Option.bind_eq_bind, Option.bind_some] at he
          exact tasks_of_release he hl
        · exact tasks_of_abandon he hl

/-- In an abandoned pool, a worker without a thread has no closure any more. -/
theorem IsRun.job_of_threadless (h : IsRun label answers es p) (ha : p.abandoned = true)
    {w : Worker τ} (hw : w ∈ p.workers) (hs : w.thread? = none) : w.handle.job = none := by
  revert w
  refine h.induction (fun _ q => q.abandoned = true → ∀ {w : Worker τ}, w ∈ q.workers →
    w.thread? = none → w.handle.job = none) (fun _ _ _ ha => (by cases ha))
    (fun fs q a e hq _ ht ih ha w' hw' hs' => ?_) ha
  cases hqa : q.abandoned with
  | true =>
    obtain ⟨i, w, hw, hc⟩ := ht.mem_changed hw'
    have hne : a ≠ .abandon := by
      rintro rfl
      cases ht with
      | move _ m => cases m
      | abandon hopen | abandonLast hopen =>
        rw [hqa] at hopen
        cases hopen
    have hjob := ih hqa (List.mem_of_getElem? hw) (hc.thread? ▸ hs')
    exact (hc.job hne).elim (fun h => h.trans hjob) id
  | false =>
    obtain rfl := (ht.of_abandoned ha).resolve_right (by simp [hqa])
    have hmem : w' ∈ q.workers.map Worker.abandon := by
      cases ht with
      | move _ m => cases m
      | abandon | abandonLast => exact hw'
    obtain ⟨w, hw, rfl⟩ := List.mem_map.1 hmem
    obtain ⟨i, hi⟩ := List.getElem?_of_mem hw
    have hthread : w.thread? = none := by
      obtain ⟨job, dropped, hab, -⟩ := w.abandon_eq
      rwa [hab] at hs'
    refine job_abandon (hq.sound w hw) (hq.teardown.kept hqa i w hi) ?_
    simpa [Worker.thread?] using hthread

/-- When the workers of an abandoned pool are gone, the list is gone. -/
theorem IsRun.tasks_eq_nil_of_gone (h : IsRun label answers es p) (ha : p.abandoned = true)
    (hgone : ∀ w ∈ p.workers, w.isGone = true) : p.tasks = [] := by
  refine h.tasks_eq_nil_of_unheld (listHeld_eq_false.2 ⟨ha, fun w hw => ?_⟩)
  have hg := hgone w hw
  cases hs : w.handle.spawned with
  | none =>
    have hjob := h.job_of_threadless ha hw (by rw [Worker.thread?, hs, Option.map_none])
    simp [Worker.holdsList, hs, hjob]
  | some course =>
    obtain ⟨t, progress⟩ := course
    cases progress <;> simp_all [Worker.holdsList, Worker.isGone, Progress.isOver]

/-! ## What becomes of the tasks -/

/-- Nothing is left of the pool: `count` panics took all its workers, or every task has run. -/
structure WoundUp (panics : τ → Bool) (count : Nat) (es : History τ) (p : WorkerPool τ) : Prop where
  gone : ∀ w ∈ p.workers, w.isGone = true
  tasks : p.tasks = []
  /-- The tasks that began are those up to the panic that takes the last worker, -/
  begun : (begun es).map Prod.snd = served panics count (accepted es)
  /-- each of them returned or panicked once, -/
  finished : ((finished es).map Prod.snd).Perm (served panics count (accepted es))
  /-- and the others went without having run. -/
  freed : freed es = (accepted es).drop (served panics count (accepted es)).length

/-- When the workers are gone and nothing is queued, the pool is wound up. -/
theorem IsRun.woundUp_of_gone (h : IsRun label answers es p) {panics : τ → Bool}
    (hf : follows panics es = true) (hgone : ∀ w ∈ p.workers, w.isGone = true)
    (htasks : p.tasks = []) : WoundUp panics p.spawnedWorkers es p := by
  have hacc := h.accounted
  have horder : accepted es = (begun es).map Prod.snd ++ freed es := by
    rw [hacc.in_order, htasks, List.append_nil]
  have hidle : p.executing = [] :=
    executing_eq_nil fun w hw => (h.sound w hw).task?_of_isGone (hgone w hw)
  have hrun : served panics p.spawnedWorkers (accepted es) = (begun es).map Prod.snd := by
    rw [h.spawnedWorkers_eq]
    exact served_eq ⟨_, horder.symm⟩ (h.panics_before hf) (h.stopped hf hgone)
  have hover := hacc.running
  rw [hidle, List.append_nil] at hover
  exact {
    gone := hgone
    tasks := htasks
    begun := hrun.symm
    finished := hrun ▸ hover.symm
    freed := by rw [hrun, horder, List.drop_left] }

/-- When nobody can go on in an abandoned pool, and no worker runs a task or is held by the
    operating system, the pool is wound up. -/
theorem IsRun.woundUp (h : IsRun label answers es p) {panics : τ → Bool}
    (hf : follows panics es = true) (ha : p.abandoned = true) (hq : p.Quiescent)
    (hrunning : ∀ w ∈ p.workers, w.isRunning = false) (hheld : ∀ w ∈ p.workers, w.isHeld = false) :
    WoundUp panics p.spawnedWorkers es p := by
  have hdown := (h.teardown.abandoned ha).1
  have hgone : ∀ w ∈ p.workers, w.isGone = true := by
    intro w hw
    rcases h.of_quiescent hq hw with hheld' | hasleep | hrunning' | hgone
    · rw [hheld w hw] at hheld'
      cases hheld'
    · rw [h.roused.shut hdown w hw] at hasleep
      cases hasleep
    · rw [hrunning w hw] at hrunning'
      cases hrunning'
    · exact hgone
  exact h.woundUp_of_gone hf hgone (h.tasks_eq_nil_of_gone ha hgone)

end IsRun

/-! ## The destroy of the task -/

/-- What can happen while the thread `t` alone has a reference to the pool: the workers go on, and
    the destroy that `t` called. -/
def isAlone (t : ThreadId) : Action τ → Bool
  | .advance _ | .taskEnded _ _ | .stir _ => true
  | .proceed c => c == t
  | _ => false

/-- How many steps the thread `t` took in destroys. -/
def ownSteps (t : ThreadId) (es : History τ) : Nat :=
  es.countP fun o => match o.action with
    | .proceed c => c == t
    | _ => false

/-- How far the destroy got that the thread `t` of the worker `i` called as the only one. -/
inductive Letting (i : Nat) (t : ThreadId) (fs : History τ) (q : WorkerPool τ) : Prop
  | asking {k : Nat} : k ≤ i → q.destroys = [(t, .asking k)] → ownSteps t fs = k →
    results fs = [] → Letting i t fs q
  | shutting : q.destroys = [(t, .shutting true)] → ownSteps t fs = i + 1 → results fs = [] →
    Letting i t fs q
  | returned : q.destroys = [] → q.shutdown = true → ownSteps t fs = i + 2 →
    results fs = [(t, 0)] → Letting i t fs q

/-- The thread `t` of the worker `i` lets go of the last reference to the pool. -/
structure Releasing (i : Nat) (t : ThreadId) (fs : History τ) (q : WorkerPool τ) : Prop where
  not_abandoned : q.abandoned = false
  worker : ∃ w, q.workers[i]? = some w ∧ w.thread? = some t ∧ w.handle.stage = .running
  letting : Letting i t fs q

/-- Nothing holds up the thread `t` of the worker `i` in its destroy. -/
structure Unhindered (i : Nat) (t : ThreadId) (fs : History τ) (q : WorkerPool τ) : Prop where
  /-- Until it returns, the destroy can go on, -/
  goes_on : ∀ d, q.destroying t = some d → results fs = [] ∧ ∃ e, q.step (.proceed t) = some e
  /-- and then it returned `0`, and the reference can go. -/
  returned : q.destroying t = none → results fs = [(t, 0)] ∧ ∃ e, q.step .abandon = some e
  bounded : ownSteps t fs ≤ i + 2

section Step

variable {p : WorkerPool τ} {a : Action τ} {e : Effect (WorkerPool τ) (Outcome τ)} {i : Nat}
  {t : ThreadId} {fs : History τ}

theorem ownSteps_snoc (o : Occurrence (Action τ) (Outcome τ)) :
    ownSteps t (fs ++ [o]) = ownSteps t fs + (match o.action with
      | .proceed c => c == t
      | _ => false).toNat :=
  countP_snoc ..

theorem ownSteps_proceed (e : Effect (WorkerPool τ) (Outcome τ)) :
    ownSteps t (fs ++ [e.after (.proceed t)]) = ownSteps t fs + 1 := by
  simp [ownSteps_snoc, Effect.after]

/-- The workers leave the destroys alone. -/
theorem Transition.of_isAlone (ht : Transition p a e) (ha : isAlone t a = true)
    (hne : a ≠ .proceed t) (fs : History τ) :
    e.state.destroys = p.destroys ∧ e.state.shutdown = p.shutdown ∧
      e.state.abandoned = p.abandoned ∧ results [e.after a] = [] ∧
      ownSteps t (fs ++ [e.after a]) = ownSteps t fs := by
  rw [ownSteps_snoc]
  cases ht with
  | move _ m => cases m <;> exact ⟨rfl, rfl, rfl, rfl, rfl⟩
  | take | rest | spend | finish => exact ⟨rfl, rfl, rfl, rfl, rfl⟩
  | refuse | accept | rouse | call | abandon | abandonLast => cases ha
  | _ => exact absurd (congrArg Action.proceed (beq_iff_eq.1 ha)) hne

theorem Changes.stage {w w' : Worker τ} (h : Changes p a i w w') (ha : ∀ c, a ≠ .proceed c) :
    w'.handle.stage = w.handle.stage := by
  cases h with
  | moves m => exact m.stage
  | marked hc => exact absurd hc (ha _)
  | abandoned =>
    obtain ⟨job, dropped, hw, -⟩ := Worker.abandon_eq ‹_›
    rw [hw]
  | _ => rfl

end Step

section IsRun

variable {label : String} {answers : List (Except Refusal ThreadId)} {es fs gs : History τ}
  {p q : WorkerPool τ} {i : Nat} {t : ThreadId} {a : Action τ}
  {e : Effect (WorkerPool τ) (Outcome τ)}

theorem destroying_of_singleton {d : Destroying} (hd : q.destroys = [(t, d)]) :
    q.destroying t = some d := by
  simp [destroying, hd]

theorem setDestroying_of_singleton {d d' : Destroying} (hd : q.destroys = [(t, d)]) :
    (q.setDestroying t d').destroys = [(t, d')] := by
  simp [setDestroying, hd]

/-- The next step of the destroy asks one worker more, finds its own, or shuts the pool down. -/
theorem Releasing.proceed (hl : Releasing i t fs q) (h : IsRun label answers gs q)
    (hd : q.destroys ≠ []) : ∃ e, q.step (.proceed t) = some e ∧
      Releasing i t (fs ++ [e.after (.proceed t)]) e.state := by
  obtain ⟨hab, ⟨w, hw, hwt, hstage⟩, hletting⟩ := hl
  cases hletting with
  | @asking k hk hq hown hres =>
    have hlt : k < q.workers.length := Nat.lt_of_le_of_lt hk (List.getElem?_eq_some_iff.1 hw).1
    have hv := List.getElem?_eq_getElem hlt
    have hvs := h.sound_at hv
    refine ⟨_, proceed_asking (destroying_of_singleton hq) hv hvs, hab, ⟨w, hw, hwt, hstage⟩, ?_⟩
    by_cases hki : k = i
    · subst hki
      obtain rfl := Option.some.inj (hv.symm.trans hw)
      rw [if_pos ((hvs.isCurrent_iff hwt).2 hstage)]
      exact .shutting (setDestroying_of_singleton hq) (by rw [ownSteps_proceed, hown])
        (by rw [results_append, hres]; rfl)
    · -- Only one worker has the thread `t`.
      have hother : ¬q.workers[k].handle.isCurrent t = true := fun hcur =>
        hki (h.worker_unique hv hw (hvs.thread?_of_isCurrent hcur) hwt)
      rw [if_neg hother]
      exact .asking (by omega) (setDestroying_of_singleton hq) (by rw [ownSteps_proceed, hown])
        (by rw [results_append, hres]; rfl)
  | shutting hq hown hres =>
    refine ⟨_, by rw [step, WorkerPool.proceed, destroying_of_singleton hq]; rfl, hab,
      ⟨w.wake, ?_, ?_, ?_⟩, .returned ?_ rfl (by rw [ownSteps_proceed, hown])
        (by rw [results_append, hres]; rfl)⟩
    · simp [hw]
    · rw [Worker.thread?, Worker.handle_wake]
      exact hwt
    · rw [Worker.handle_wake, hstage]
    · simp [endDestroying, hq]
  | returned hq => exact absurd hq hd

/-- The release goes on with every step. -/
theorem Releasing.snoc (hl : Releasing i t fs q) (h : IsRun label answers gs q)
    (he : q.step a = some e) (ha : isAlone t a = true) :
    Releasing i t (fs ++ [e.after a]) e.state := by
  by_cases hat : a = .proceed t
  · subst hat
    have hd : q.destroys ≠ [] := by
      intro hnone
      have hn : q.step (.proceed t) = none :=
        proceed_of_destroying_eq_none (by simp [destroying, hnone])
      rw [hn] at he
      cases he
    obtain ⟨f, hf, hnext⟩ := hl.proceed h hd
    obtain rfl := Option.some.inj (he.symm.trans hf)
    exact hnext
  · have ht := transition_of_step h.sound he
    obtain ⟨hd, hs, hab, hr, hown⟩ := ht.of_isAlone ha hat fs
    have hne : ∀ c, a ≠ .proceed c := by
      rintro c rfl
      exact hat (congrArg Action.proceed (beq_iff_eq.1 ha))
    obtain ⟨w, hw, hwt, hstage⟩ := hl.worker
    obtain ⟨w', hw', hc⟩ := ht.changes hw
    refine ⟨hab.trans hl.not_abandoned,
      ⟨w', hw', hc.thread?.trans hwt, (hc.stage hne).trans hstage⟩, ?_⟩
    have hres : results (fs ++ [e.after a]) = results fs := by
      rw [results_append, hr, List.append_nil]
    cases hl.letting with
    | asking hk hq ho hn => exact .asking hk (hd.trans hq) (hown.trans ho) (hres.trans hn)
    | shutting hq ho hn => exact .shutting (hd.trans hq) (hown.trans ho) (hres.trans hn)
    | returned hq hdown ho hn =>
      exact .returned (hd.trans hq) (hs.trans hdown) (hown.trans ho) (hres.trans hn)

/-- The last reference to a pool that is shut down can go when no destroy is under way. -/
theorem exists_abandon (ha : q.abandoned = false) (hs : q.shutdown = true) (hd : q.destroys = []) :
    ∃ e, q.step .abandon = some e := by
  simp only [step, ha, hs, hd, List.isEmpty_nil, Bool.not_true, Bool.or_self, Bool.false_eq_true,
    if_false]
  split <;> exact ⟨_, rfl⟩

/-- While the release is under way nothing holds it up. -/
theorem Releasing.unhindered (hl : Releasing i t fs q) (h : IsRun label answers gs q) :
    Unhindered i t fs q where
  goes_on := fun d hd => by
    have hne : q.destroys ≠ [] := by
      intro hnone
      simp [destroying, hnone] at hd
    obtain ⟨e, he, -⟩ := hl.proceed h hne
    refine ⟨?_, e, he⟩
    cases hl.letting with
    | asking _ _ _ hn | shutting _ _ hn => exact hn
    | returned hq => exact absurd hq hne
  returned := fun hd => by
    cases hl.letting with
    | asking _ hq | shutting hq =>
      rw [destroying_of_singleton hq] at hd
      cases hd
    | returned hq hs _ hn =>
      exact ⟨hn, exists_abandon hl.not_abandoned hs hq⟩
  bounded := by
    cases hl.letting with
    | asking hk _ ho => omega
    | shutting _ ho => omega
    | returned _ _ ho => omega

/-- While no destroy is under way, a worker that runs a task can still be joined. -/
theorem IsRun.stage_of_running (h : IsRun label answers es p) (hd : p.destroys = []) {w : Worker τ}
    (hw : p.workers[i]? = some w) (ht : w.thread? = some t) (hr : w.isRunning = true) :
    w.handle.stage = .running := by
  have hs := h.sound_at hw
  rw [← hs.isCurrent_iff ht]
  by_contra hcur
  obtain ⟨task, htask⟩ := Worker.isRunning_iff.1 hr
  -- Otherwise somebody would wait for the worker.
  obtain ⟨c, hc, -⟩ :=
    hs.joiner_of_task? htask (hs.joined_of_not_isCurrent ht (by simpa using hcur))
  have hcollect := (h.teardown.joiner i w c hw).1 hc
  simp [destroying, hd] at hcollect

/-- A task can destroy its own pool, and nothing holds it up if it has the last reference. -/
theorem IsRun.releasing (h : IsRun label answers es p) (ha : p.abandoned = false)
    (hd : p.destroys = []) {w : Worker τ} (hw : p.workers[i]? = some w)
    (ht : w.thread? = some t) (hr : w.isRunning = true) : ∃ e, p.step (.destroy t) = some e ∧
      ∀ fs q, Run step e.state fs q → (∀ o ∈ fs, isAlone t o.action = true) →
        Unhindered i t fs q := by
  have hadmits : p.admitsDestroy t = true := by
    simp only [admitsDestroy, destroying, hd, List.lookup_nil, Option.isNone_none, Bool.true_and,
      List.all_eq_true, Bool.or_eq_true, bne_iff_ne]
    intro v hv
    by_cases hvt : v.thread? = some t
    · obtain ⟨k, hk⟩ := List.getElem?_of_mem hv
      obtain rfl := h.worker_unique hk hw hvt ht
      obtain rfl := Option.some.inj (hk.symm.trans hw)
      exact .inr hr
    · exact .inl hvt
  have hstep : p.step (.destroy t) = some {
      state := { p with destroys := p.destroys ++ [(t, .asking 0)] }, outcome := .moved } := by
    simp [step, ha, hadmits]
  refine ⟨_, hstep, fun fs q hrun hfs => ?_⟩
  have hstart := h.snoc hstep
  have hreleasing : Releasing i t fs q := by
    refine hrun.invariant (fun fs q => (∀ o ∈ fs, isAlone t o.action = true) →
      Releasing i t fs q) (fun _ => ?_) (fun fs v a e hv ih he hfs => ?_) hfs
    · exact ⟨ha, ⟨w, hw, ht, h.stage_of_running hd hw ht hr⟩,
        .asking (Nat.zero_le i) (by simp [hd]) rfl rfl⟩
    · obtain ⟨hbefore, hlast⟩ := List.forall_mem_append.1 hfs
      exact (ih hbefore).snoc (hstart.append hv) he (hlast _ (List.mem_singleton_self _))
  exact hreleasing.unhindered (hstart.append hrun)

/-- A task on the thread `t` of the worker `i` lets go of the last reference to its pool; no
    destroy is under way then, since whoever calls one has a reference. That waits for nobody.
    And whatever happens from here until nobody can go on in the abandoned pool, if then no worker
    runs a task or is held by the operating system, the pool is wound up: the tasks that began are
    those up to the panic that takes the last worker, each has run once, and the others went
    without having run. -/
theorem IsRun.released_by_task (h : IsRun label answers es p) (ha : p.abandoned = false)
    (hd : p.destroys = []) {w : Worker τ} (hw : p.workers[i]? = some w)
    (ht : w.thread? = some t) (hr : w.isRunning = true) :
    (∃ e, p.step (.destroy t) = some e ∧
      ∀ fs q, Run step e.state fs q → (∀ o ∈ fs, isAlone t o.action = true) →
        Unhindered i t fs q) ∧
    ∀ (panics : τ → Bool) (fs : History τ) (q : WorkerPool τ), Run step p fs q →
      follows panics (es ++ fs) = true → q.abandoned = true → q.Quiescent →
      (∀ v ∈ q.workers, v.isRunning = false) → (∀ v ∈ q.workers, v.isHeld = false) →
      WoundUp panics p.spawnedWorkers (es ++ fs) q := by
  refine ⟨h.releasing ha hd hw ht hr, fun panics fs q hrun hf hab hq hrunning hheld => ?_⟩
  have hqrun := h.append hrun
  rw [h.spawnedWorkers_eq, ← hqrun.spawnedWorkers_eq]
  exact hqrun.woundUp hf hab hq hrunning hheld

/-- The task `10` has the last reference, lets go of it, and returns, while the second worker did
    not begin. The tasks `11` and `12` panic, and `13` goes with the list. -/
theorem released_by_task_of_two_workers :
    ∃ (es fs : History Nat) (p q : WorkerPool Nat), IsRun "pool" [.ok 1, .ok 2] es p ∧
      Run step p fs q ∧ (accepted (es ++ fs) = [10, 11, 12, 13] ∧ freed (es ++ fs) = [13]) ∧
      (∃ e, p.step (.destroy 1) = some e ∧ ∀ gs r, Run step e.state gs r →
        (∀ o ∈ gs, isAlone 1 o.action = true) → Unhindered 0 1 gs r) ∧
      WoundUp (fun task => task == 11 || task == 12) p.spawnedWorkers (es ++ fs) q := by
  obtain ⟨es, p, h, hf⟩ := exists_isRun "pool" [.ok 1, .ok 2]
    [.advance 0, .advance 0, .advance 0, .submit 10 true none, .submit 11 true none,
      .submit 12 true none, .submit 13 true none, .advance 0]
    (fun (es : History Nat) p => !p.abandoned && p.destroys.isEmpty &&
      p.workers[0]?.any (fun w => w.thread? == some 1 && w.isRunning) &&
      (play step p [.destroy 1, .proceed 1, .advance 1, .proceed 1, .abandon, .taskEnded 0 false,
        .advance 0, .advance 1, .advance 1, .advance 1, .taskEnded 0 true, .taskEnded 1 true,
        .advance 0, .advance 0, .advance 0, .advance 0, .advance 1, .advance 1, .advance 1,
        .advance 1]).any fun (fs, q) =>
          follows (fun task => task == 11 || task == 12) (es ++ fs) && q.abandoned &&
          decide q.Quiescent && q.workers.all (fun v => !v.isRunning && !v.isHeld) &&
          accepted (es ++ fs) == [10, 11, 12, 13] && freed (es ++ fs) == [13])
    true (by decide) (by decide)
  simp only [Bool.and_eq_true, Bool.not_eq_true', List.isEmpty_iff, Option.any_eq_true,
    List.all_eq_true, beq_iff_eq, decide_eq_true_eq] at hf
  obtain ⟨⟨⟨ha, hd⟩, w, hw, ht, hr⟩, ⟨fs, q⟩, hplay, hafter⟩ := hf
  obtain ⟨⟨⟨⟨⟨hfollows, hab⟩, hq⟩, hidle⟩, hacc⟩, hfreed⟩ := hafter
  have hrun := run_of_play hplay
  obtain ⟨hrelease, hrest⟩ := h.released_by_task ha hd hw ht hr
  exact ⟨es, fs, p, q, h, hrun, ⟨hacc, hfreed⟩, hrelease,
    hrest _ fs q hrun hfollows hab hq (fun v hv => (hidle v hv).1) fun v hv => (hidle v hv).2⟩

end IsRun

end Threading.WorkerPool

import Threading.Proofs.WorkerPool.Order
import Threading.Proofs.WorkerPool.WakeUp

/-!
# Destroys called by tasks

A task may call destroy on its own pool. The call asks the workers in turn whether
it is called on their threads, and what follows depends on the handle of its own
worker at that moment:

* if the handle can still be joined, then the call shuts the pool down, and
  returns `0` without waiting (`ReturnsAtOnce`);
* if a destroy from outside took the handle already, then that destroy waits for
  the thread, so for the task, and the task waits for the teardown lock (`Stuck`):
  neither returns, and no destroy from outside does.
-/

namespace Threading.WorkerPool

variable {τ : Type}

/-- The pool after the destroy of the thread `t`, called by a task, shut it down. -/
def shutBy (p : WorkerPool τ) (t : ThreadId) : WorkerPool τ :=
  endDestroying { p with shutdown := true, workers := p.workers.map Worker.wake } t

/-- The destroy of the thread `t` finds out that it is called by a task. Whatever
    the others do then, its last step is possible; it returns `0`, and does no more
    than to shut the pool down and to wake the workers: the flag is up and no worker
    sleeps, and the tasks and the handles of the workers are as before. -/
def ReturnsAtOnce (p : WorkerPool τ) (t : ThreadId) : Prop :=
  p.step (.proceed t) =
    some { state := p.setDestroying t (.shutting true), outcome := .moved } ∧
  ∀ fs q, Run step (p.setDestroying t (.shutting true)) fs q →
    (∀ o ∈ fs, o.action ≠ .proceed t) →
    ∃ e, q.step (.proceed t) = some e ∧ e.outcome = .returned 0 ∧ e.state = q.shutBy t ∧
      e.state.shutdown = true ∧ (∀ w ∈ e.state.workers, w.isAsleep = false) ∧
      e.state.tasks = q.tasks ∧ e.state.workers.map Worker.handle = q.workers.map Worker.handle

/-- In a pool that was shut down no worker sleeps. -/
theorem isAsleep_shutBy (p : WorkerPool τ) (t : ThreadId) :
    ∀ w ∈ (p.shutBy t).workers, w.isAsleep = false := by
  rw [shutBy, endDestroying_workers]
  exact forall_map_wake p.workers

/-- Shutting a pool down leaves the handles of its workers alone. -/
theorem handles_shutBy (p : WorkerPool τ) (t : ThreadId) :
    (p.shutBy t).workers.map Worker.handle = p.workers.map Worker.handle := by
  rw [shutBy, endDestroying_workers, List.map_map]
  exact List.map_congr_left fun w _ => w.handle_wake

/-- The task on the thread `t`, of the worker `i`, called destroy, while the destroy
    of `c` waits for the worker. -/
structure Stuck (i : Nat) (t c : ThreadId) (p : WorkerPool τ) : Prop where
  worker : ∃ w, p.workers[i]? = some w ∧ w.thread? = some t ∧ w.handle.stage = .joined
  joining : p.destroying c = some (.collecting i)
  calling : ∃ d, p.destroying t = some d ∧ d ≠ .shutting true ∧ d.holdsLock = false

section IsRun

variable {label : String} {answers : List (Except Refusal ThreadId)} {es : History τ}
  {p : WorkerPool τ}

theorem proceed_asking {c : ThreadId} {k : Nat} {w : Worker τ}
    (hd : p.destroying c = some (.asking k)) (hw : p.workers[k]? = some w) (hs : w.Sound) :
    p.step (.proceed c) = some {
      state := p.setDestroying c (if w.handle.isCurrent c then .shutting true else .asking (k + 1))
      outcome := .moved } := by
  have hfree : w.handle.isUnlocked = true := by
    rw [Handle.isUnlocked, hs.unlocked]
    rfl
  rw [step, proceed, hd]
  simp only [Option.bind_eq_bind, Option.bind_some, hw, hfree, Bool.not_true, Bool.false_eq_true,
    if_false]
  split <;> rfl

/-- A destroy stays where it is while others go on. -/
theorem IsRun.destroying_of_others (h : IsRun label answers es p) {t : ThreadId} {d : Destroying}
    (hd : p.destroying t = some d) {fs : History τ} {q : WorkerPool τ} (hrun : Run step p fs q)
    (hfs : ∀ o ∈ fs, o.action ≠ .proceed t) : q.destroying t = some d := by
  revert hfs
  refine hrun.invariant (fun fs q => (∀ o ∈ fs, o.action ≠ .proceed t) →
    q.destroying t = some d) (fun _ => hd) fun fs v a e hv ih he hfs => ?_
  have hvd := ih fun o ho => hfs o (List.mem_append_left _ ho)
  have ha : a ≠ .proceed t := hfs (e.after a) (by simp)
  obtain ⟨o, ho, hg⟩ := (transition_of_step (h.append hv).sound he).goes_from hvd
  rw [ho, hg.eq_some ha]

theorem IsRun.returnsAtOnce (h : IsRun label answers es p) {i : Nat} {w : Worker τ} {t : ThreadId}
    (hw : p.workers[i]? = some w) (ht : w.thread? = some t)
    (hd : p.destroying t = some (.asking i)) (hr : w.handle.stage = .running) :
    ReturnsAtOnce p t := by
  have hs := h.sound_at hw
  have hstep := proceed_asking hd hw hs
  rw [if_pos ((hs.isCurrent_iff ht).2 hr)] at hstep
  refine ⟨hstep, fun fs q hrun hfs => ?_⟩
  have hnext : (p.setDestroying t (.shutting true)).destroying t = some (.shutting true) := by
    rw [destroying_setDestroying, if_pos rfl, hd, Option.map_some]
  have hq := (h.snoc hstep).destroying_of_others hnext hrun hfs
  exact ⟨_, by rw [step, proceed, hq]; rfl, rfl, rfl, rfl, isAsleep_shutBy q t, rfl,
    handles_shutBy q t⟩

/-! ## Calls that never return -/

/-- The destroy that joins a worker, and the task that the worker runs, wait for each other. -/
theorem IsRun.stuck (h : IsRun label answers es p) {i : Nat} {w : Worker τ} {t : ThreadId}
    {d : Destroying} (hw : p.workers[i]? = some w) (ht : w.thread? = some t)
    (hd : p.destroying t = some d) (hnot : d ≠ .shutting true) (hr : w.handle.stage ≠ .running) :
    ∃ c, c ∉ granted answers ∧ Stuck i t c p := by
  have hs := h.sound_at hw
  have hT := h.teardown
  have hj : w.handle.stage = .joined := by
    refine hs.joined_of_not_isCurrent ht ?_
    cases hcur : w.handle.isCurrent t with
    | false => rfl
    | true => exact absurd ((hs.isCurrent_iff ht).1 hcur) hr
  obtain ⟨task, htask⟩ := hT.running i w t d hw ht hd
  obtain ⟨c, hc, -⟩ := hs.joiner_of_task? htask hj
  have hlock := hT.teardown_of_joiner hw hc
  refine ⟨c, h.not_mem_granted hlock,
    ⟨⟨w, hw, ht, hj⟩, (hT.joiner i w c hw).1 hc, d, hd, hnot, ?_⟩⟩
  cases hholds : d.holdsLock with
  | false => rfl
  | true => exact absurd ht (hT.outside h.sound ((hT.holder t).2 ⟨d, hd, hholds⟩) hw)

/-- A worker that runs a task which called destroy is there. -/
theorem IsRun.isGone_of_destroying (h : IsRun label answers es p) {i : Nat} {w : Worker τ}
    {t : ThreadId} {d : Destroying} (hw : p.workers[i]? = some w) (ht : w.thread? = some t)
    (hd : p.destroying t = some d) : w.isGone = false := by
  obtain ⟨task, htask⟩ := h.teardown.running i w t d hw ht hd
  cases hg : w.isGone with
  | false => rfl
  | true => simp [(h.sound_at hw).task?_of_isGone hg] at htask

/-- Every step leaves the two waiting for each other. -/
theorem Stuck.kept {i : Nat} {t c : ThreadId} {a : Action τ}
    {e : Effect (WorkerPool τ) (Outcome τ)} (hstuck : Stuck i t c p)
    (h : IsRun label answers es p) (ht : Transition p a e) : Stuck i t c e.state := by
  obtain ⟨⟨w, hw, hwt, hj⟩, hc, d, hd, hnot, hlock⟩ := hstuck
  have hT := h.teardown
  refine ⟨?_, ?_, ?_⟩
  · obtain ⟨w', hw', hch⟩ := ht.changes hw
    exact ⟨w', hw', hch.thread?.trans hwt, hch.joined hj⟩
  · obtain ⟨o, ho, hg⟩ := ht.goes_from hc
    cases hg with
    | same => exact ho
    | collects _ hw' hgone =>
      -- The worker still runs the task that called.
      obtain rfl := Option.some.inj (hw.symm.trans hw')
      simp [h.isGone_of_destroying hw hwt hd] at hgone
  · obtain ⟨o, ho, hg⟩ := ht.goes_from hd
    cases hg with
    | same => exact ⟨d, ho, hnot, hlock⟩
    | asks => exact ⟨_, ho, nofun, rfl⟩
    | @finds k v _ hv hcur =>
      -- The worker on whose thread this is was joined before.
      have hvs := h.sound_at hv
      have hvt := hvs.thread?_of_isCurrent hcur
      obtain rfl := h.worker_unique hv hw hvt hwt
      obtain rfl := Option.some.inj (hw.symm.trans hv)
      rw [hvs.isCurrent_iff hvt, hj] at hcur
      cases hcur
    | asked => exact ⟨_, ho, nofun, rfl⟩
    | waits => exact ⟨_, ho, nofun, rfl⟩
    | leaves => exact absurd rfl hnot
    | locks _ hfree =>
      -- The teardown lock is taken.
      rw [(hT.holder c).2 ⟨_, hc, rfl⟩] at hfree
      cases hfree
    | _ => cases hlock

/-- No destroy returns but those of other tasks. -/
theorem Stuck.returned {i : Nat} {t c : ThreadId} {a : Action τ}
    {e : Effect (WorkerPool τ) (Outcome τ)} (hstuck : Stuck i t c p)
    (h : IsRun label answers es p) (ht : Transition p a e) :
    ∀ x ∈ results [e.after a], x.1 ≠ t ∧ x.1 ∈ granted answers := by
  obtain ⟨-, hc, d, hd, hnot, -⟩ := hstuck
  intro x hx
  cases ht with
  | move _ m => cases m <;> cases hx
  | @shutInside y hy =>
    obtain rfl := List.mem_singleton.1 hx
    obtain ⟨k, v, hv, hvy⟩ := h.teardown.inside y hy
    refine ⟨fun hyt => ?_, h.mem_granted_iff.2 ⟨v, List.mem_of_getElem? hv, hvy⟩⟩
    obtain rfl : y = t := hyt
    exact hnot (Option.some.inj (hd.symm.trans hy))
  | finishDestroy hy =>
    -- The teardown lock is with the destroy that waits for the worker.
    obtain rfl := h.teardown.eq_of_holdsLock hc hy rfl rfl
    simp [hc] at hy
  | _ => cases hx

/-- In no continuation do the two go on. -/
theorem Stuck.never_returns {i : Nat} {t c : ThreadId} (hstuck : Stuck i t c p)
    (h : IsRun label answers es p) {fs : History τ} {q : WorkerPool τ} (hrun : Run step p fs q) :
    ∀ x ∈ results fs, x.1 ≠ t ∧ x.1 ∈ granted answers := by
  have hall : Stuck i t c q ∧ ∀ x ∈ results fs, x.1 ≠ t ∧ x.1 ∈ granted answers := by
    refine hrun.invariant (fun fs q => Stuck i t c q ∧
      ∀ x ∈ results fs, x.1 ≠ t ∧ x.1 ∈ granted answers) ⟨hstuck, nofun⟩ ?_
    intro fs v a e hv ⟨hvstuck, hreturned⟩ he
    have hvrun := h.append hv
    have hstep := transition_of_step hvrun.sound he
    refine ⟨hvstuck.kept hvrun hstep, fun x hx => ?_⟩
    rw [results_append, List.mem_append] at hx
    rcases hx with hx | hx
    · exact hreturned x hx
    · exact hvstuck.returned hvrun hstep x hx
  exact hall.2

/-- What a destroy called by a task does, at any moment, on the thread `t` of the
    worker `i`: it gets as far as its own worker; there it returns at once if the
    handle can be joined; if not, the handle was taken by a destroy from outside,
    and from then on no destroy returns but those of other tasks, which do return at
    once if their handles can be joined. -/
theorem IsRun.destroy_called_by_task (h : IsRun label answers es p) {i : Nat} {w : Worker τ}
    {t : ThreadId} (hw : p.workers[i]? = some w) (ht : w.thread? = some t) :
    (∀ k < i, p.destroying t = some (.asking k) → p.step (.proceed t) =
      some { state := p.setDestroying t (.asking (k + 1)), outcome := .moved }) ∧
    (p.destroying t = some (.asking i) → w.handle.stage = .running → ReturnsAtOnce p t) ∧
    (∀ d, p.destroying t = some d → d ≠ .shutting true → w.handle.stage ≠ .running →
      (∃ c, c ∉ granted answers ∧ p.destroying c = some (.collecting i)) ∧
      ∀ fs q, Run step p fs q →
        (∀ x ∈ results fs, x.1 ≠ t ∧ x.1 ∈ granted answers) ∧
        ∀ (j : Nat) (v : Worker τ) (u : ThreadId), q.workers[j]? = some v → v.thread? = some u →
          q.destroying u = some (.asking j) → v.handle.stage = .running → ReturnsAtOnce q u) := by
  refine ⟨fun k hk hd => ?_, fun hd hr => h.returnsAtOnce hw ht hd hr, fun d hd hnot hr => ?_⟩
  · have hlt : k < p.workers.length := Nat.lt_trans hk (List.getElem?_eq_some_iff.1 hw).1
    have hv := List.getElem?_eq_getElem hlt
    have hs := h.sound _ (List.getElem_mem hlt)
    rw [proceed_asking hd hv hs, if_neg]
    intro hcur
    have hki := h.worker_unique hv hw (hs.thread?_of_isCurrent hcur) ht
    omega
  · obtain ⟨c, hc, hstuck⟩ := h.stuck hw ht hd hnot hr
    exact ⟨⟨c, hc, hstuck.joining⟩, fun fs q hrun => ⟨hstuck.never_returns h hrun,
      fun j v u hv hvu hu hjr => (h.append hrun).returnsAtOnce hv hvu hu hjr⟩⟩

/-- The tasks of two workers called destroy. The handle of the first worker was
    taken by the destroy of the thread `9`, the handle of the second was not. -/
theorem destroy_called_by_two_tasks :
    ∃ (es : History Nat) (p : WorkerPool Nat) (w : Worker Nat),
      IsRun "pool" [.ok 1, .ok 2] es p ∧ p.workers[0]? = some w ∧ w.thread? = some 1 ∧
      (w.handle.stage = .joined ∧ p.destroying 1 = some (.asking 0) ∧
        p.destroying 2 = some (.asking 1)) ∧
      (∀ k < 0, p.destroying 1 = some (.asking k) → p.step (.proceed 1) =
        some { state := p.setDestroying 1 (.asking (k + 1)), outcome := .moved }) ∧
      (p.destroying 1 = some (.asking 0) → w.handle.stage = .running → ReturnsAtOnce p 1) ∧
      (∀ d, p.destroying 1 = some d → d ≠ .shutting true → w.handle.stage ≠ .running →
        (∃ c, c ∉ granted [.ok 1, .ok 2] ∧ p.destroying c = some (.collecting 0)) ∧
        ∀ fs q, Run step p fs q →
          (∀ x ∈ results fs, x.1 ≠ 1 ∧ x.1 ∈ granted [.ok 1, .ok 2]) ∧
          ∀ (j : Nat) (v : Worker Nat) (u : ThreadId), q.workers[j]? = some v →
            v.thread? = some u → q.destroying u = some (.asking j) →
            v.handle.stage = .running → ReturnsAtOnce q u) := by
  obtain ⟨es, p, h, hf⟩ := exists_isRun "pool" [.ok 1, .ok 2]
    [.advance 0, .advance 0, .advance 0, .submit 10 true none, .advance 0, .advance 1,
      .advance 1, .advance 1, .submit 11 true none, .advance 1, .destroy 9, .proceed 9, .proceed 9,
      .proceed 9, .proceed 9, .proceed 9, .proceed 9, .destroy 1, .destroy 2, .proceed 2]
    (fun es p => (p.workers[0]?.map fun w => (w.thread?, w.handle.stage), p.destroying 1,
      p.destroying 2))
    (some (some 1, .joined), some (.asking 0), some (.asking 1))
    (by decide) (by decide)
  simp only [Prod.mk.injEq, Option.map_eq_some_iff] at hf
  obtain ⟨⟨w, hw, ht, hstage⟩, hd⟩ := hf
  exact ⟨es, p, w, h, hw, ht, ⟨hstage, hd⟩, h.destroy_called_by_task hw ht⟩

end IsRun

end Threading.WorkerPool

import Threading.Proofs.WorkerPool.Progress

/-!
# No wake-up is lost

A submit wakes one sleeping worker at most, and another worker may take the task
before it looks. Still, no task waits while all workers sleep (`Roused`):

* while a worker sleeps, there are at least as many workers about to look at the
  list as there are tasks on it;
* in a pool that is shut down, no worker sleeps.

So when nobody can go on, tasks are queued only if every worker there is runs a
task, and a destroy waits only for a task, or for a thread that did not begin
(`IsRun.no_lost_wake_up`).
-/

namespace Threading.WorkerPool

variable {τ : Type}

/-- While a worker sleeps, there are as many workers awake as there are `tasks`. -/
def Enough (tasks : List τ) (workers : List (Worker τ)) : Prop :=
  workers.countP Worker.isAsleep ≠ 0 → tasks.length ≤ workers.countP Worker.isAwake

/-- Sleeping workers are not needed. -/
structure Roused (p : WorkerPool τ) : Prop where
  enough : Enough p.tasks p.workers
  shut : p.shutdown = true → ∀ w ∈ p.workers, w.isAsleep = false

theorem enough_nil (workers : List (Worker τ)) : Enough [] workers := fun _ => Nat.zero_le _

/-- One worker changes. It does not go to sleep, and wakes up if there is a new
    task, and takes a task if it is not awake any more. -/
theorem Enough.set {tasks tasks' : List τ} {workers : List (Worker τ)} {i : Nat}
    {w w' : Worker τ} (h : Enough tasks workers) (hw : workers[i]? = some w)
    (hsleep : w'.isAsleep = true → w.isAsleep = true)
    (hawake : tasks'.length + w.isAwake.toNat ≤ tasks.length + w'.isAwake.toNat) :
    Enough tasks' (workers.set i w') := by
  intro hs
  have hasleep := countP_set_add (f := Worker.isAsleep) hw w'
  have hcount := countP_set_add (f := Worker.isAwake) hw w'
  have hle : w'.isAsleep.toNat ≤ w.isAsleep.toNat := by
    cases ha : w'.isAsleep with
    | false => exact Nat.zero_le _
    | true => exact Nat.le_of_eq (by rw [hsleep ha])
  have hs : workers.countP Worker.isAsleep ≠ 0 := by omega
  have := h hs
  omega

theorem Enough.of_forall {tasks : List τ} {workers : List (Worker τ)}
    (h : ∀ w ∈ workers, w.isAsleep = false) : Enough tasks workers := by
  refine absurd (List.countP_eq_zero.2 fun w hw => ?_)
  rw [h w hw]
  exact Bool.false_ne_true

theorem forall_map_wake (workers : List (Worker τ)) :
    ∀ w ∈ workers.map Worker.wake, w.isAsleep = false := by
  intro w' hw'
  obtain ⟨w, -, rfl⟩ := List.mem_map.1 hw'
  exact w.isAsleep_wake

section Step

variable {p : WorkerPool τ} {a : Action τ} {e : Effect (WorkerPool τ) (Outcome τ)}

theorem Transition.enough (ht : Transition p a e) (h : Roused p) :
    Enough e.state.tasks e.state.workers := by
  have hp := h.enough
  -- Only a submit adds a task: it wakes one worker more, unless none sleeps.
  cases ht with
  | accept _ _ _ hasleep => exact .of_forall hasleep
  | rouse _ _ _ hw hl =>
    exact hp.set hw (by simp [Worker.isAsleep]) (by simp [Worker.isAwake, hl])
  | take hw ha htasks =>
    refine hp.set hw (by simp [Worker.isAsleep]) ?_
    rw [ha, htasks]
    exact Nat.le_add_right _ _
  | rest _ _ htasks =>
    rw [htasks]
    exact enough_nil _
  | move hw m =>
    refine hp.set hw (by simp [m.awake.2]) ?_
    rw [m.awake.1]
    exact Nat.le_add_right _ _
  | @finish _ w _ panicked hw hl _ =>
    refine hp.set hw (by cases panicked <;> simp [Worker.isAsleep]) ?_
    simp [Worker.isAwake, hl]
  | mark _ hw _ _ => exact hp.set hw id (Nat.le_refl _)
  | collect _ hw _ _ _ => exact hp.set hw id (Nat.le_refl _)
  | shutInside => exact .of_forall (forall_map_wake _)
  | shutOutside => exact .of_forall (forall_map_wake _)
  | abandon =>
    have hloop : ∀ w : Worker τ, w.abandon.loop = w.loop := Worker.loop_abandon
    intro hs
    rw [countP_map_of_eq fun w => by rw [Worker.isAsleep, hloop, Worker.isAsleep]] at hs
    rw [countP_map_of_eq fun w => by rw [Worker.isAwake, hloop, Worker.isAwake]]
    exact hp hs
  | spend => exact enough_nil _
  | drain => exact enough_nil _
  | abandonLast => exact enough_nil _
  | _ => exact hp

/-- In a pool that is shut down, no worker falls asleep. -/
theorem Changes.isAsleep {i : Nat} {w w' : Worker τ} (hc : Changes p a i w w')
    (hs : p.shutdown = true) (hw : w.isAsleep = false) : w'.isAsleep = false := by
  cases hc with
  | moves m => exact m.awake.2
  | rests => simp [Worker.isAsleep, hs]
  | @ends _ panicked => cases panicked <;> rfl
  | abandoned => rwa [Worker.isAsleep, Worker.loop_abandon]
  | takes => rfl
  | wakes => rfl
  | _ => exact hw

theorem Transition.roused (ht : Transition p a e) (h : Roused p) (hs : e.state.shutdown = true) :
    ∀ w ∈ e.state.workers, w.isAsleep = false := by
  cases hp : p.shutdown with
  | true =>
    intro w' hw'
    obtain ⟨i, w, hw, hc⟩ := ht.mem_changed hw'
    exact hc.isAsleep hp (h.shut hp w (List.mem_of_getElem? hw))
  | false =>
    cases ht with
    | shutInside => exact forall_map_wake _
    | shutOutside => exact forall_map_wake _
    | move => exact absurd (hp.symm.trans hs) Bool.false_ne_true
    | _ => simp_all

end Step

section IsRun

variable {label : String} {answers : List (Except Refusal ThreadId)} {es : History τ}
  {p : WorkerPool τ}

/-- Sleeping workers are not needed at any moment. -/
theorem IsRun.roused (h : IsRun label answers es p) : Roused p := by
  refine h.induction (fun _ q => Roused q) ?_ fun _ _ _ _ _ _ ht ih =>
    ⟨ht.enough ih, ht.roused ih⟩
  intro workers _ _
  exact ⟨enough_nil _, nofun⟩

/-- When nobody can go on, a worker that does not sleep runs a task, or is held,
    or is gone. -/
theorem IsRun.of_quiescent (h : IsRun label answers es p) (hq : p.Quiescent) {w : Worker τ}
    (hw : w ∈ p.workers) :
    w.isHeld = true ∨ w.isAsleep = true ∨ w.isRunning = true ∨ w.isGone = true := by
  obtain ⟨i, hi⟩ := List.getElem?_of_mem hw
  cases hheld : w.isHeld with
  | true => exact .inl rfl
  | false => exact .inr (advance_eq_none hi (h.sound w hw) (hq.workers i w hi hheld))

/-- When nobody can go on, no worker is about to look at the list. -/
theorem IsRun.isAwake_of_quiescent (h : IsRun label answers es p) (hq : p.Quiescent)
    {w : Worker τ} (hw : w ∈ p.workers) : w.isAwake = false := by
  cases ha : w.isAwake with
  | false => rfl
  | true =>
    have hs := h.sound w hw
    rcases h.of_quiescent hq hw with hheld | hasleep | hrunning | hgone
    · simp [hs.isHeld_of_loop (Worker.not_outside_of_isAwake ha)] at hheld
    · rcases Worker.isAwake_iff.1 ha with hl | hl <;> simp [Worker.isAsleep, hl] at hasleep
    · rcases Worker.isAwake_iff.1 ha with hl | hl <;> simp [Worker.isRunning, hl] at hrunning
    · have hopen := hs.isOpen_of_isAwake ha
      simp [hs.isOpen_of_isGone hgone] at hopen

/-- When nobody can go on, the destroys wait for one that waits for a worker. -/
theorem IsRun.collecting_of_quiescent (h : IsRun label answers es p) (hq : p.Quiescent)
    {c : ThreadId} {d : Destroying} (hd : p.destroying c = some d) :
    ∃ x k w, p.destroying x = some (.collecting k) ∧ p.workers[k]? = some w ∧
      w.isGone = false := by
  rcases h.proceed_eq_none hd (hq.destroys c) with ⟨-, x, hx⟩ | ⟨k, w, rfl, hw, hgone⟩
  · -- Somebody else holds the lock, and cannot go on either.
    obtain ⟨f, hf, hlock⟩ := (h.teardown.holder x).1 hx
    rcases h.proceed_eq_none hf (hq.destroys x) with ⟨rfl, -⟩ | ⟨k, w, rfl, hw, hgone⟩
    · cases hlock
    · exact ⟨x, k, w, hf, hw, hgone⟩
  · exact ⟨c, k, w, hd, hw, hgone⟩

/-- When nobody can go on: if tasks are queued, then every worker that began and is
    still there runs a task; if the pool is shut down, then no worker sleeps; and
    if a destroy called outside the pool is under way, then some worker runs a task
    or is held by the operating system. -/
theorem IsRun.no_lost_wake_up (h : IsRun label answers es p) (hq : p.Quiescent) :
    (0 < p.pending → ∀ w ∈ p.workers, w.isHeld = false → w.isGone = false → w.isRunning = true) ∧
    (p.shutdown = true → ∀ w ∈ p.workers, w.isAsleep = false) ∧
    (∀ c d, c ∉ granted answers → p.destroying c = some d →
      ∃ w ∈ p.workers, w.thread?.isSome = true ∧ (w.isRunning = true ∨ w.isHeld = true)) := by
  have hroused := h.roused
  refine ⟨fun hpending w hw hheld hgone => ?_, hroused.shut, fun c d _ hd => ?_⟩
  · rcases h.of_quiescent hq hw with hheld' | hasleep | hrunning | hgone'
    · rw [hheld] at hheld'
      cases hheld'
    · -- A worker that sleeps shows that another one is awake.
      have henough := hroused.enough (Nat.ne_of_gt (List.countP_pos_iff.2 ⟨w, hw, hasleep⟩))
      obtain ⟨v, hv, ha⟩ := List.countP_pos_iff.1 (Nat.lt_of_lt_of_le hpending henough)
      rw [h.isAwake_of_quiescent hq hv] at ha
      cases ha
    · exact hrunning
    · rw [hgone] at hgone'
      cases hgone'
  · obtain ⟨x, k, w, hx, hw, hgone⟩ := h.collecting_of_quiescent hq hd
    have hmem := List.mem_of_getElem? hw
    refine ⟨w, hmem, Worker.thread?_isSome_of_isGone hgone, ?_⟩
    rcases h.of_quiescent hq hmem with hheld | hasleep | hrunning | hgone'
    · exact .inr hheld
    · rw [hroused.shut (h.teardown.shut x _ hx rfl) w hmem] at hasleep
      cases hasleep
    · exact .inl hrunning
    · rw [hgone] at hgone'
      cases hgone'

/-- A worker runs a task, another one is held, and a task is queued, when one of two
    destroys waits for the first worker, and the other for the teardown lock. -/
theorem no_lost_wake_up_of_two_destroys :
    ∃ (es : History Nat) (p : WorkerPool Nat), IsRun "pool" [.ok 1, .ok 2] es p ∧ p.Quiescent ∧
      (p.pending = 1 ∧ p.shutdown = true ∧ p.destroying 8 = some .waiting ∧
        p.destroying 9 = some (.collecting 0)) ∧
      (0 < p.pending →
        ∀ w ∈ p.workers, w.isHeld = false → w.isGone = false → w.isRunning = true) ∧
      (p.shutdown = true → ∀ w ∈ p.workers, w.isAsleep = false) ∧
      (∀ c d, c ∉ granted [.ok 1, .ok 2] → p.destroying c = some d →
        ∃ w ∈ p.workers, w.thread?.isSome = true ∧ (w.isRunning = true ∨ w.isHeld = true)) := by
  obtain ⟨es, p, h, hf⟩ := exists_isRun "pool" [.ok 1, .ok 2]
    [.advance 0, .advance 0, .advance 0, .advance 0, .submit 10 true (some 0),
      .advance 0, .submit 11 true none, .destroy 9, .destroy 8, .proceed 9, .proceed 9, .proceed 9,
      .proceed 9, .proceed 9, .proceed 9, .proceed 8, .proceed 8, .proceed 8, .proceed 8]
    (fun es p => (decide p.Quiescent, p.pending, p.shutdown, p.destroying 8, p.destroying 9))
    (true, 1, true, some .waiting, some (.collecting 0)) (by decide) (by decide)
  simp only [Prod.mk.injEq, decide_eq_true_eq] at hf
  exact ⟨es, p, h, hf.1, hf.2, h.no_lost_wake_up hf.1⟩

end IsRun

end Threading.WorkerPool

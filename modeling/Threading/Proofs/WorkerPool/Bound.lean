import Threading.Proofs.WorkerPool.AtRest
import Threading.Proofs.WorkerPool.WakeUp

/-!
# How long a pool can go on

What a pool has `left` to do is what its destroys have (`remaining`), and its `toil`: the steps that
the threads of its workers have to go, four for each queued task, and a wake-up for each worker that
the shutdown may wake. Every step leaves less, but for what comes from outside: a submit, a call of
destroy, a worker that wakes for no reason, and the end of the last reference have a price
(`Action.price`, `Transition.left_add_le`). A worker that begins a task leaves three less: one for
the step, and two for whatever the task is to do.
-/

namespace Threading

/-- How many steps a thread that makes this progress has to go, its loop apart. -/
def Progress.left : Progress Unit → Nat
  | .created => 9
  | .taken _ => 8
  | .raised _ => 7
  | .inside | .spared _ | .unneeded _ => 3
  | .ended _ => 2
  | .lowered _ => 1
  | .exited _ => 0

/-- How many steps a worker has to go if it gets no task. -/
def Worker.left {τ : Type} (w : Worker τ) : Nat :=
  match w.loop with
  | .running _ => 7
  | .looking | .woken => 6
  | .asleep => 5
  | .leaving | .lost => 4
  | .releasing _ => 3
  | .outside => (w.handle.spawned.map fun c => c.progress.left).getD 0

namespace WorkerPool

variable {τ : Type}

/-- What an action from outside may add to what a pool of so many workers has to do, and the step
    itself. -/
def Action.price (workers : Nat) : Action τ → Nat
  | .submit .. => 6
  | .destroy _ => 3 * workers + 8
  | .stir _ => 2
  | .abandon => 1
  | .advance _ | .taskEnded .. | .proceed _ => 0

/-- What the workers have to do, and the tasks. -/
def toil (p : WorkerPool τ) : Nat :=
  (if p.shutdown then 0 else p.workers.length) + 4 * p.pending + (p.workers.map Worker.left).sum

/-- What is left to do. -/
def left (p : WorkerPool τ) : Nat := p.remaining + p.toil

end WorkerPool

namespace Worker

variable {τ : Type} {w w' : Worker τ}

theorem left_of_isAwake (h : w.isAwake = true) : w.left = 6 := by
  rcases isAwake_iff.1 h with h | h <;> rw [left, h]

theorem left_wake_le (w : Worker τ) : w.wake.left ≤ w.left + 1 := by
  rw [wake]
  split
  · next hl => simp [left, hl]
  · exact Nat.le_succ _

theorem wake_of_awake (h : w.isAsleep = false) : w.wake = w := by
  rw [wake]
  split
  · next hl => simp [isAsleep, hl] at h
  · rfl

theorem left_abandon (w : Worker τ) : w.abandon.left = w.left := by
  obtain ⟨job, dropped, hw, -⟩ := abandon_eq w
  rw [hw]
  rfl

theorem Fresh.left_le (h : w.Fresh) : w.left ≤ 9 := by
  rw [left, h.outside]
  cases hc : w.handle.spawned with
  | none => exact Nat.zero_le _
  | some c => simp [h.created c hc, Progress.left]

/-- A worker that moves by itself has less to do. -/
theorem Moves.left_lt {i : Nat} {a : WorkerPool.Action τ} {o : WorkerPool.Outcome τ}
    {ns : List Notice} (m : w.Moves i w' a o ns) (workers : Nat) :
    w'.left + 1 ≤ w.left + a.price workers := by
  cases m <;> simp_all [left, Progress.left, WorkerPool.Action.price]

end Worker

namespace WorkerPool

variable {τ : Type} {p q : WorkerPool τ} {a : Action τ} {e : Effect (WorkerPool τ) (Outcome τ)}

/-- What a pool has to do that nobody used yet: ten steps for each worker. -/
theorem left_of_fresh {workers : List (Worker τ)} (h : ∀ w ∈ workers, w.Fresh) :
    left ({ workers } : WorkerPool τ) ≤ 10 * workers.length := by
  have hsum : (workers.map Worker.left).sum ≤ 9 * workers.length := by
    induction workers with
    | nil => exact Nat.le_refl _
    | cons w workers ih =>
      have hw := (h w List.mem_cons_self).left_le
      have hrest := ih fun v hv => h v (List.mem_cons_of_mem w hv)
      simp only [List.map_cons, List.sum_cons, List.length_cons]
      omega
  change 0 + (workers.length + 4 * 0 + (workers.map Worker.left).sum) ≤ _
  omega

/-- Whoever calls shutdown wakes every worker once at most, and finds none asleep if somebody did
    so before. -/
theorem sum_left_wake_le (h : p.shutdown = true → ∀ w ∈ p.workers, w.isAsleep = false) :
    ((p.workers.map Worker.wake).map Worker.left).sum ≤
      (if p.shutdown then 0 else p.workers.length) + (p.workers.map Worker.left).sum := by
  cases hs : p.shutdown with
  | false =>
    rw [if_neg Bool.false_ne_true]
    clear h hs
    induction p.workers with
    | nil => exact Nat.zero_le _
    | cons w workers ih =>
      have hw := w.left_wake_le
      simp only [List.map_cons, List.sum_cons, List.length_cons]
      omega
  | true =>
    have hsame : p.workers.map Worker.wake = p.workers :=
      (List.map_congr_left fun w hw => w.wake_of_awake (h hs w hw)).trans (List.map_id _)
    rw [hsame, if_pos rfl, Nat.zero_add]

/-- The workers are as many as before, one of them changes, and perhaps the queued tasks do. -/
theorem toil_set {i : Nat} {w : Worker τ} (hw : p.workers[i]? = some w) (w' : Worker τ)
    (hq : q.workers = p.workers.set i w') (hs : q.shutdown = p.shutdown) :
    q.toil + 4 * p.pending + w.left = p.toil + 4 * q.pending + w'.left := by
  have hset := sum_map_set_add (f := Worker.left) hw w'
  rw [toil, toil, hq, hs, List.length_set]
  omega

/-- A step of a destroy leaves the workers no more to do. -/
theorem Transition.toil_le {c : ThreadId} (ht : Transition p (.proceed c) e)
    (h : p.shutdown = true → ∀ w ∈ p.workers, w.isAsleep = false) : e.state.toil ≤ p.toil := by
  cases ht with
  | move _ m => cases m
  | shutInside | shutOutside =>
    have hwake := sum_left_wake_le h
    change 0 + 4 * p.pending + ((p.workers.map Worker.wake).map Worker.left).sum ≤ p.toil
    rw [toil]
    omega
  | @mark _ k w _ hw =>
    have hset := toil_set (q := { p with workers := p.workers.set k (w.marked c) }) hw _ rfl rfl
    exact Nat.le_of_eq (Nat.add_right_cancel (Nat.add_right_cancel hset))
  | @collect _ k w _ _ hw =>
    have hset := toil_set (q := { p with workers := p.workers.set k w.collected }) hw _ rfl rfl
    exact Nat.le_of_eq (Nat.add_right_cancel (Nat.add_right_cancel hset))
  | drain => exact Nat.add_le_add_right (Nat.add_le_add_left (Nat.zero_le _) _) _
  | _ => exact Nat.le_refl _

theorem begun_eq_nil_of_proceed {c : ThreadId} (ht : Transition p (.proceed c) e) :
    begun [e.after (.proceed c)] = [] := by
  cases ht with
  | move _ m => cases m
  | _ => rfl

/-- One worker changes, and perhaps the queued tasks do, but no destroy. -/
theorem left_add_le_of_set {i n m : Nat} {w w' : Worker τ} (hw : p.workers[i]? = some w)
    (hq : q.workers = p.workers.set i w') (hs : q.shutdown = p.shutdown)
    (hd : q.destroys = p.destroys)
    (hle : w'.left + 4 * q.pending + n ≤ w.left + 4 * p.pending + m) :
    q.left + n ≤ p.left + m := by
  have hset := toil_set hw w' hq hs
  rw [left, left, remaining, remaining, hd, hq, List.length_set]
  omega

/-- What happens to all workers costs them nothing, and perhaps the list goes. -/
theorem left_map_le {f : Worker τ → Worker τ} (hf : ∀ w, (f w).left = w.left)
    (hq : q.workers = p.workers.map f) (hs : q.shutdown = p.shutdown)
    (hd : q.destroys = p.destroys) (htasks : q.pending ≤ p.pending) : q.left ≤ p.left := by
  have hsum : (q.workers.map Worker.left).sum = (p.workers.map Worker.left).sum := by
    rw [hq, List.map_map]
    exact congrArg List.sum (List.map_congr_left fun w _ => hf w)
  rw [left, left, toil, toil, remaining, remaining, hd, hsum, hs, hq, List.length_map]
  omega

/-- Every step that is not of a destroy leaves less to do, but for what comes from outside at its
    price. -/
theorem Transition.left_add_le (ht : Transition p a e) (ha : ∀ c, a ≠ .proceed c) :
    e.state.left + (2 * (begun [e.after a]).length + 1) ≤ p.left + a.price p.workers.length := by
  cases ht with
  | refuse => exact Nat.add_le_add_left (Nat.le_add_left 1 5) _
  | @accept task memory capacity =>
    simp only [left, remaining, toil, pending, List.length_append, List.length_singleton]
    change _ + (0 + 1) ≤ _ + 6
    omega
  | rouse _ _ _ hw hl =>
    -- Four for the task, one for the worker that has to look again, and the step.
    refine left_add_le_of_set hw rfl rfl rfl ?_
    simp only [Worker.left, hl, pending, List.length_append, List.length_singleton]
    change _ + (0 + 1) ≤ _ + 6
    omega
  | take hw hawake htasks =>
    -- The four of the task are spent: one on the worker, one on the step, two on what it does.
    refine left_add_le_of_set hw rfl rfl rfl ?_
    rw [Worker.left_of_isAwake hawake]
    simp only [pending, htasks, List.length_cons]
    change 7 + _ + 3 ≤ _ + 0
    omega
  | @rest i w hw hawake _ =>
    refine left_add_le_of_set hw rfl rfl rfl ?_
    have hrest (shutdown : Bool) :
        ({ w with loop := if shutdown then .leaving else .asleep } : Worker τ).left ≤ 5 := by
      cases shutdown
      · exact le_rfl
      · exact Nat.le_succ 4
    have hle := hrest p.shutdown
    rw [Worker.left_of_isAwake hawake]
    change _ + 4 * p.pending + 1 ≤ _ + 4 * p.pending + 0
    omega
  | @move i w w' _ o ns hw m =>
    refine left_add_le_of_set hw rfl rfl rfl ?_
    have hlt := m.left_lt p.workers.length
    have hnone : begun [(⟨a, o, ns⟩ : Occurrence (Action τ) (Outcome τ))] = [] := by
      cases m <;> rfl
    simp only [Effect.after, hnone, pending]
    dsimp only [List.length_nil]
    omega
  | @spend i w w' hw m =>
    refine left_add_le_of_set hw rfl rfl rfl ?_
    have hlt : w'.left + 1 ≤ w.left := m.left_lt 0
    change _ + 4 * 0 + 1 ≤ _ + 4 * _ + 0
    omega
  | @finish i w task panicked hw hl =>
    refine left_add_le_of_set hw rfl rfl rfl ?_
    have hover (panicked : Bool) :
        ({ w with loop := if panicked then .lost else .looking } : Worker τ).left ≤ 6 := by
      cases panicked
      · exact le_rfl
      · exact Nat.le_add_right 4 2
    have hle := hover panicked
    rw [show w.left = 7 by rw [Worker.left, hl]]
    change _ + 4 * p.pending + 1 ≤ _ + 4 * p.pending + 0
    omega
  | @call c =>
    have hcall := Calls.total_begin (Destroying.remaining p.workers.length) p.destroys c (.asking 0)
    change Calls.total _ (p.destroys ++ [(c, .asking 0)]) + p.toil + 1 ≤
      Calls.total _ p.destroys + p.toil + (3 * p.workers.length + 8)
    simp only [hcall, Destroying.remaining]
    omega
  | abandon =>
    refine Nat.add_le_add_right ?_ 1
    exact left_map_le Worker.left_abandon rfl rfl rfl le_rfl
  | abandonLast =>
    refine Nat.add_le_add_right ?_ 1
    exact left_map_le Worker.left_abandon rfl rfl rfl (Nat.zero_le _)
  | _ => exact absurd rfl (ha _)

/-- Every step leaves less to do, but for what comes from outside at its price. -/
theorem IsRun.left_add_le {label : String} {answers : List (Except Refusal ThreadId)}
    {es : History τ} (h : IsRun label answers es p) (ht : Transition p a e) :
    e.state.left + (2 * (begun [e.after a]).length + 1) ≤ p.left + a.price p.workers.length := by
  by_cases ha : ∃ c, a = .proceed c
  · obtain ⟨c, rfl⟩ := ha
    have hlt := ht.remaining_lt h.keys
    have hle := ht.toil_le h.roused.shut
    rw [begun_eq_nil_of_proceed ht, left, left, Action.price, List.length_nil]
    omega
  · exact ht.left_add_le fun c hc => ha ⟨c, hc⟩

end WorkerPool

end Threading

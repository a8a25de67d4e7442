import Threading.Proofs.CommandLine.PoolCourse
import Threading.Proofs.Growth
import Threading.Proofs.WorkerPool.Bound

/-!
# When the tasks are over

Every step of a run of tasks leaves less to do (`PoolRun.left`), but for a worker that wakes for no
reason, which adds one at most (`Course.left_add_le`). The main thread pays for what it asks of the
pool: each task that is yet to be submitted costs six, and each of the two destroys three for every
worker and eight. Two of the six are kept at the desk of the worker that takes the task.

A run is *quiescent* if no step is possible, but perhaps such a wake-up. Then every worker sleeps or
is gone (`Idle.worker`), and the main thread can submit, destroy and print; so it is done, or it
waits for a worker that sleeps. But while it waits, the pool is shut down, and nobody sleeps in a
pool that is shut down (`Idle.finished`).
-/

namespace Threading.CommandLine

/-! ## What is left to do -/

/-- What the main thread has yet to ask of a pool of so many workers, at its price. -/
def PoolPlace.left (workers tasks : Nat) : PoolPlace → Nat
  | submitting task => 6 * (tasks - task) + 2 * (3 * workers + 8)
  | destroying | printing _ => 3 * workers + 8
  | closing _ | finished | failed _ => 0

theorem Desk.left_le (desk : Desk) : desk.left ≤ 2 := by
  rcases desk with ⟨_ | task, _ | _ | _⟩ <;> simp [Desk.left]

/-- Only a task that is taken brings something to a desk. -/
theorem Tally.Moves.left_le {t t' : Tally} (h : t.Moves t') :
    (t'.desks.map Desk.left).sum + 2 * t.taken.length ≤
      (t.desks.map Desk.left).sum + 2 * t'.taken.length := by
  cases h with
  | same => exact Nat.le_refl _
  | @take i task place hi =>
    have hset := sum_map_set_add (f := Desk.left) hi (some task, place)
    have hle := Desk.left_le (some task, place)
    simp only [List.length_append, List.length_singleton]
    omega
  | @tell i task hi =>
    have hset := sum_map_set_add (f := Desk.left) hi (some task, .counting)
    simp only [Desk.left] at hset
    dsimp only
    omega
  | @count i task hi =>
    have hset := sum_map_set_add (f := Desk.left) hi (some task, .returning)
    simp only [Desk.left] at hset
    dsimp only
    omega
  | finish hi =>
    have hset := sum_map_set_add (f := Desk.left) hi (none, .telling)
    exact Nat.add_le_add_right (Nat.le_of_eq hset) _

namespace PoolRun

open WorkerPool (History begun)

/-- What is left to do: what the main thread asks of the pool, what the pool has to do, and what is
    to be told and counted. -/
def left (r : PoolRun) : Nat :=
  r.place.left r.pool.workers.length r.tasks + r.pool.left + (r.desks.map Desk.left).sum

variable {refusals : List (Option Refusal)} {tasks : Nat} {es : History Nat} {r r' s : PoolRun}

/-- The pool takes a step, and the main thread pays for it if it asked for it; nobody pays `n`. -/
theorem Course.left_le_of_pool (h : Course refusals tasks es r) {a : WorkerPool.Action Nat}
    {e : Effect (WorkerPool Nat) (WorkerPool.Outcome Nat)} (he : r.pool.step a = some e)
    (hpool : s.pool = e.state) (hmoves : (r.tally es).Moves (s.tally (es ++ [e.after a]))) {n : Nat}
    (hplace : s.place.left r.pool.workers.length s.tasks + a.price r.pool.workers.length ≤
      r.place.left r.pool.workers.length r.tasks + n) :
    s.left + 1 ≤ r.left + n := by
  have ht := WorkerPool.transition_of_step h.run.sound he
  have hleft := h.run.left_add_le ht
  have hdesks := hmoves.left_le
  simp only [tally, WorkerPool.begun_append, List.length_map, List.length_append] at hdesks
  rw [left, left, hpool, ht.length_workers]
  omega

/-- A task moves on at its desk, and the pool stays as it is. -/
theorem left_lt_of_desk {i task : Nat} {place place' : TaskPlace}
    (hhand : r.pool.hands[i]? = some (some task)) (hat : r.within[i]? = some place)
    (hplace : s.place = r.place) (hpool : s.pool = r.pool) (htasks : s.tasks = r.tasks)
    (hwithin : s.within = r.within.set i place')
    (hlt : Desk.left (some task, place') < Desk.left (some task, place)) : s.left < r.left := by
  have hset := sum_map_set_add (f := Desk.left) (getElem?_desks hhand hat) (some task, place')
  have hdesks : s.desks = r.desks.set i (some task, place') :=
    desks_set (hpool ▸ (set_self hhand).symm) hwithin
  rw [left, left, hplace, hpool, htasks, hdesks]
  omega

/-- The main thread pays for what it asks of the pool. -/
theorem Turns.pays {place place' : PoolPlace} {a : WorkerPool.Action Nat}
    {o : WorkerPool.Outcome Nat} {printed : Option String} (h : Turns r place a o place' printed)
    (workers : Nat) :
    place'.left workers r.tasks + a.price workers ≤ place.left workers r.tasks := by
  cases h with
  | wait => exact Nat.le_refl _
  | _ =>
    simp only [PoolPlace.left, WorkerPool.Action.price]
    omega

/-- Every step leaves less to do, but a worker that wakes for no reason may have to look again. -/
theorem Course.left_add_le (h : Course refusals tasks es r) {a : Action} (ht : Transition r a r') :
    r'.left + (!a.isStir).toNat ≤ r.left + a.isStir.toNat := by
  cases ht with
  | @main chosen place place' a e o printed hplace hturn he ho =>
    have hpays : place'.left r.pool.workers.length r.tasks + a.price r.pool.workers.length ≤
        r.place.left r.pool.workers.length r.tasks + 0 := hplace ▸ hturn.pays _
    exact h.left_le_of_pool (s := { r.setPool e with place := place', printed }) he rfl
      (h.moves he hturn.not_taskEnded) hpays
  | advance he =>
    exact h.left_le_of_pool (n := 0) he rfl (h.moves he fun _ _ heq => by cases heq) (Nat.le_refl _)
  | tell hhand hplace =>
    exact left_lt_of_desk hhand hplace rfl rfl rfl rfl (Nat.lt_succ_self 1)
  | count hhand hplace =>
    exact left_lt_of_desk hhand hplace rfl rfl rfl rfl (Nat.lt_succ_self 0)
  | finish hplace he =>
    have hpool := WorkerPool.transition_of_step h.run.sound he
    exact h.left_le_of_pool (n := 0) he rfl (moves_of_taskEnded hpool h.run.teardown hplace)
      (Nat.le_refl _)
  | @stir i e he =>
    have hle := h.left_le_of_pool (s := r.setPool e) (n := 2) he rfl
      (h.moves he fun _ _ heq => by cases heq) (Nat.le_refl _)
    exact Nat.le_of_succ_le_succ hle

/-! ## When nobody can move -/

/-- Nobody can move, but perhaps a worker wakes for no reason. -/
def Quiescent (r : PoolRun) : Prop :=
  ∀ a : Action, a.isGranted = true → a.isStir = false → r.step a = none

/-- No agent can move. -/
def Idle (r : PoolRun) : Prop := ∀ agent < r.agents, r.move agent = none

theorem Quiescent.idle (h : r.Quiescent) : r.Idle := by
  intro agent _
  cases agent with
  | zero => exact h (.main true r.pool.firstAsleep) rfl rfl
  | succ i => exact h (.worker i) rfl rfl

/-- The main thread is no thread of a worker. -/
theorem Course.thread?_ne (h : Course refusals tasks es r) {w : Worker Nat}
    (hw : w ∈ r.pool.workers) : w.thread? ≠ some 0 :=
  fun ht => not_mem_granted (h.run.mem_granted_iff.2 ⟨w, hw, ht⟩)

/-- Only the main thread destroys the pool, so no task waits for a destroy before it is over. -/
theorem Course.exists_taskEnded (h : Course refusals tasks es r) {i task : Nat} {w : Worker Nat}
    (hw : r.pool.workers[i]? = some w) (hl : w.loop = .running task) :
    ∃ e, r.pool.step (.taskEnded i false) = some e := by
  have hfree : (w.thread?.any fun t => (r.pool.destroying t).isSome) = false := by
    cases ht : w.thread? with
    | none => rfl
    | some t =>
      have hne : t ≠ 0 := fun heq => h.thread?_ne (List.mem_of_getElem? hw) (heq ▸ ht)
      rw [Option.any_some, h.alone t hne, Option.isSome_none]
  refine Option.ne_none_iff_exists'.1 fun hnone => ?_
  simp [WorkerPool.step, WorkerPool.taskEnded, hw, hl, hfree] at hnone

/-- A task can move on at every desk. -/
theorem Course.exists_workerStep (h : Course refusals tasks es r) {i task : Nat} {w : Worker Nat}
    (hw : r.pool.workers[i]? = some w) (hl : w.loop = .running task) : r.workerStep i ≠ none := by
  have hi : i < r.within.length := h.within ▸ (List.getElem?_eq_some_iff.1 hw).1
  simp only [workerStep, hw, hl, List.getElem?_eq_getElem hi, Option.bind_eq_bind, Option.bind_some]
  cases r.within[i] with
  | telling | counting => exact Option.some_ne_none _
  | returning =>
    obtain ⟨e, he⟩ := h.exists_taskEnded hw hl
    rw [he]
    exact Option.some_ne_none _

/-- A worker that cannot move sleeps or is gone. -/
theorem Idle.worker (h : r.Idle) (hc : Course refusals tasks es r) {i : Nat} {w : Worker Nat}
    (hw : r.pool.workers[i]? = some w) : w.isAsleep = true ∨ w.isGone = true := by
  have hi := (List.getElem?_eq_some_iff.1 hw).1
  have hmove : r.workerStep i = none := h (i + 1) (Nat.succ_lt_succ hi)
  cases hrunning : w.isRunning with
  | true =>
    obtain ⟨task, htask⟩ := Worker.isRunning_iff.1 hrunning
    exact absurd hmove (hc.exists_workerStep hw (Worker.task?_eq_some_iff.1 htask))
  | false =>
    have hadvance : r.pool.advance i = none := by
      simp only [workerStep, hw, Option.bind_eq_bind, Option.bind_some] at hmove
      split at hmove
      · next task hl => simp [Worker.isRunning, hl] at hrunning
      · refine Option.eq_none_iff_forall_ne_some.2 fun e he => ?_
        cases Option.bind_eq_none_iff.1 hmove e he
    have hstuck := WorkerPool.advance_eq_none hw (hc.run.sound w (List.mem_of_getElem? hw)) hadvance
    rw [hrunning] at hstuck
    simpa using hstuck

/-- The main thread can call destroy if it is not about it. -/
theorem Course.exists_destroy (h : Course refusals tasks es r) (hd : r.pool.destroying 0 = none) :
    ∃ e, r.pool.step (.destroy 0) = some e := by
  have hadmits : r.pool.admitsDestroy 0 = true := by
    rw [WorkerPool.admitsDestroy, hd, Option.isNone_none, Bool.true_and, List.all_eq_true]
    intro w hw
    rw [bne_iff_ne.2 (h.thread?_ne hw), Bool.true_or]
  exact ⟨_, by rw [WorkerPool.step, h.kept, hadmits]; rfl⟩

/-- When no worker can move, the destroy of the main thread can. -/
theorem Idle.exists_proceed (h : r.Idle) (hc : Course refusals tasks es r) {d : Destroying}
    (hd : r.pool.destroying 0 = some d) : ∃ e, r.pool.step (.proceed 0) = some e := by
  refine Option.ne_none_iff_exists'.1 fun hnone => ?_
  rcases hc.run.proceed_eq_none hd hnone with ⟨rfl, x, hx⟩ | ⟨k, w, rfl, hw, hgone⟩
  · -- Nobody else could hold the teardown lock.
    obtain ⟨d, hdx, hholds⟩ := (hc.run.teardown.holder x).1 hx
    by_cases hzero : x = 0
    · rw [hzero, hd] at hdx
      cases hdx
      cases hholds
    · rw [hc.alone x hzero] at hdx
      cases hdx
  · have hshut := hc.run.teardown.shut 0 _ hd rfl
    have hawake := hc.run.roused.shut hshut w (List.mem_of_getElem? hw)
    rcases h.worker hc hw with hasleep | hover
    · exact absurd (hawake.symm.trans hasleep) Bool.false_ne_true
    · exact absurd (hgone.symm.trans hover) Bool.false_ne_true

/-- When nobody can move, the main thread is done. -/
theorem Idle.finished (h : r.Idle) (hc : Course refusals tasks es r) : r.place = .finished := by
  have hmain : r.mainStep true r.pool.firstAsleep = none := h 0 (Nat.succ_pos _)
  have hstands := hc.stands
  cases hplace : r.place with
  | submitting task =>
    rw [hplace] at hstands
    cases hstands with
    | submitting _ _ hopen _ hd =>
      by_cases hlt : task < r.tasks
      · obtain ⟨e, he⟩ := WorkerPool.exists_submit_first hc.kept task true
        simp [mainStep, hplace, hlt, he, accepted_of_step hopen he] at hmain
      · obtain ⟨e, he⟩ := hc.exists_destroy hd
        simp [mainStep, hplace, hlt, beginDestroy, he] at hmain
  | destroying =>
    rw [hplace] at hstands
    cases hstands with
    | destroying _ _ hd =>
      obtain ⟨e, he⟩ := h.exists_proceed hc hd
      simp only [mainStep, hplace, he, Option.bind_eq_bind, Option.bind_some] at hmain
      split at hmain <;> cases hmain
  | printing dropped =>
    rw [hplace] at hstands
    cases hstands with
    | printing _ _ hd =>
      obtain ⟨e, he⟩ := hc.exists_destroy hd
      simp [mainStep, hplace, beginDestroy, he] at hmain
  | closing error =>
    rw [hplace] at hstands
    cases hstands with
    | closing _ _ hd =>
      obtain ⟨e, he⟩ := h.exists_proceed hc hd
      simp only [mainStep, hplace, he, Option.bind_eq_bind, Option.bind_some] at hmain
      split at hmain <;> cases hmain
  | finished => rfl
  | failed error =>
    rw [hplace] at hstands
    cases hstands

end PoolRun

end Threading.CommandLine

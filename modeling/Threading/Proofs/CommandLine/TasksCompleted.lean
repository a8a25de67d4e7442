import Threading.CommandLine.Program
import Threading.Proofs.CommandLine.PoolEnd
import Threading.Proofs.Schedule

/-!
# Every task is accounted for

If memory never ends, then every run of tasks on a worker pool comes to its end, in whatever order
its steps are taken (`Completes`): the number of steps is bounded, but for workers that wake for no
reason, and as long as the main thread is not done somebody can move. By then every task was
completed and told once, or, if the operating system refused all threads, all of them were dropped
and none was told (`every_task_accounted_for`). The run that the program computes is one of them.
-/

namespace Threading.CommandLine

/-- The answers of the operating system to the creation of so many workers. -/
def Surroundings.refusals (s : Surroundings) (workers : Nat) : List (Option Refusal) :=
  (List.range workers).map s.refusal

namespace PoolRun

open WorkerPool (granted)

variable {refusals : List (Option Refusal)} {tasks : Nat} {r r₀ : PoolRun}

/-! ## The beginning -/

theorem exists_create (h : refusals ≠ []) (tasks : Nat) : ∃ r, create refusals tasks = .ok r := by
  have hanswers : (refusals.mapIdx answer).isEmpty = false := by
    rw [List.isEmpty_eq_false_iff, Ne, List.mapIdx_eq_nil_iff]
    exact h
  exact ⟨_, by rw [create, WorkerPool.create, hanswers]; rfl⟩

/-- A run begins with a pool that was just made, and tells how many workers it has. -/
theorem create_eq_ok (h : create refusals tasks = .ok r) :
    ∃ e, WorkerPool.create WorkerPool.defaultLabel (refusals.mapIdx answer) = .ok e ∧
      r = PoolRun.note (PoolRun.report
          { pool := e.state, tasks, within := refusals.map fun _ => .telling } e.notices)
        s!"Pool ready with {e.state.spawnedWorkers} of {e.state.workerCount} workers" := by
  rw [create] at h
  cases hmade : WorkerPool.create (τ := Nat) WorkerPool.defaultLabel (refusals.mapIdx answer) with
  | error error =>
    rw [hmade] at h
    cases h
  | ok e =>
    rw [hmade] at h
    cases h
    exact ⟨e, rfl, rfl⟩

/-- Whoever begins has told no task. -/
theorem count_create (h : create refusals tasks = .ok r) (task : Nat) :
    r.log.count (processing task) = 0 := by
  obtain ⟨e, -, rfl⟩ := create_eq_ok h
  have hready (spawned workers : Nat) :
      infoRecord s!"Pool ready with {spawned} of {workers} workers" ≠ processing task :=
    infoRecord_ne_processing (by simp [toString]) task
  rw [note, report, List.count_cons_of_ne (hready _ _), count_processing_notices]
  rfl

/-- The workers of a run that begins are fresh, one for each answer. -/
theorem pool_create (h : create refusals tasks = .ok r) :
    ∃ workers, r.pool = { workers } ∧ (∀ w ∈ workers, w.Fresh) ∧
      workers.length = refusals.length := by
  obtain ⟨e, hmade, rfl⟩ := create_eq_ok h
  obtain ⟨workers, hstate, hfresh, hthreads⟩ := WorkerPool.create_eq_ok hmade
  exact ⟨workers, hstate, hfresh, by simpa using congrArg List.length hthreads⟩

/-- No worker has a task yet. -/
theorem desks_create (h : create refusals tasks = .ok r) :
    ∀ desk ∈ r.desks, desk = (none, .telling) := by
  rintro ⟨hand, place⟩ hmem
  obtain ⟨workers, hpool, hfresh, -⟩ := pool_create h
  obtain ⟨e, -, rfl⟩ := create_eq_ok h
  obtain ⟨hhand, hplace⟩ := List.of_mem_zip hmem
  rw [hpool] at hhand
  obtain ⟨w, hw, rfl⟩ := List.mem_map.1 hhand
  obtain ⟨-, -, rfl⟩ := List.mem_map.1 hplace
  rw [Worker.task?, (hfresh w hw).outside]

/-- Nothing became of any task yet. -/
theorem tally_create (h : create refusals tasks = .ok r) :
    r.tally [] = { desks := r.desks, taken := [], told := fun _ => 0, completed := 0 } := by
  have htold : (fun task => r.log.count (processing task)) = fun _ => 0 := funext (count_create h)
  obtain ⟨e, -, rfl⟩ := create_eq_ok h
  exact Tally.ext rfl rfl htold rfl

theorem course_create (h : create refusals tasks = .ok r) : Course refusals tasks [] r := by
  have hbalanced : (r.tally []).Balanced := tally_create h ▸ .untouched (desks_create h)
  obtain ⟨workers, hpool, -, hlength⟩ := pool_create h
  obtain ⟨e, hmade, rfl⟩ := create_eq_ok h
  exact {
    run := ⟨nodup_granted, e, hmade, .nil⟩
    size := rfl
    kept := by rw [hpool]
    calm := rfl
    alone := fun c _ => by
      rw [hpool]
      rfl
    within := by
      rw [hpool, hlength]
      exact List.length_map _
    balanced := hbalanced
    stands := .submitting (Nat.zero_le _) rfl (by rw [hpool]) rfl (by rw [hpool]; rfl) }

theorem left_create (h : create refusals tasks = .ok r) :
    r.left ≤ 6 * tasks + 16 * refusals.length + 16 := by
  have hdesks : (r.desks.map Desk.left).sum = 0 := by
    refine List.sum_eq_zero_iff_forall_eq_nat.2 fun n hn => ?_
    obtain ⟨desk, hmem, rfl⟩ := List.mem_map.1 hn
    rw [desks_create h desk hmem]
    rfl
  obtain ⟨workers, hpool, hfresh, hlength⟩ := pool_create h
  have hleft := WorkerPool.left_of_fresh hfresh
  obtain ⟨e, -, rfl⟩ := create_eq_ok h
  rw [left, hdesks, hpool]
  change 6 * (tasks - 0) + 2 * (3 * workers.length + 8) + _ + 0 ≤ _
  omega

/-! ## The end -/

/-- When the main thread is done, it printed what became of the tasks, and all that were completed
    were told once. -/
structure Accounted (refusals : List (Option Refusal)) (tasks : Nat) (r : PoolRun) : Prop where
  printed : r.printed = some (outcomeLine refusals tasks)
  completed : r.completed = completions refusals tasks
  told : ∀ task, r.log.count (processing task) = if task < completions refusals tasks then 1 else 0

theorem Course.accounted {es : WorkerPool.History Nat} (h : Course refusals tasks es r)
    (hplace : r.place = .finished) : r.Accounted refusals tasks := by
  have hstands := h.stands
  rw [hplace] at hstands
  cases hstands with
  | finished hdone hprinted _ =>
    obtain ⟨htold, hcompleted⟩ := h.told hdone
    exact ⟨hprinted, hcompleted, fun task => (htold task).trans List.count_range⟩

/-- What is known of a run that got to `r` by the steps `as`. -/
structure Completes (refusals : List (Option Refusal)) (tasks : Nat) (as : List Action)
    (r : PoolRun) : Prop where
  /-- The run comes to an end, unless workers keep waking for no reason. -/
  bounded : as.countP (fun a => !a.isStir) ≤
    6 * tasks + 16 * refusals.length + 16 + as.countP Action.isStir
  not_failed : ∀ error, r.place ≠ .failed error
  /-- As long as the main thread is not done, somebody can move. -/
  finished : r.Quiescent → r.place = .finished
  accounted : r.place = .finished → r.Accounted refusals tasks

theorem Course.not_failed {es : WorkerPool.History Nat} (h : Course refusals tasks es r)
    (error : Error) : r.place ≠ .failed error := by
  intro hplace
  have hstands := h.stands
  rw [hplace] at hstands
  cases hstands

/-- A step for which there is memory keeps the laws, and leaves less to do unless somebody wakes
    for no reason. -/
theorem exists_course_of_step {a : Action} {r' : PoolRun} (h : ∃ es, Course refusals tasks es r)
    (ha : a.isGranted = true) (he : r.step a = some r') :
    (∃ es, Course refusals tasks es r') ∧
      r'.left + (!a.isStir).toNat ≤ r.left + a.isStir.toNat := by
  obtain ⟨es, hc⟩ := h
  have ht := hc.transition_of_step ha he
  exact ⟨hc.step ht, hc.left_add_le ht⟩

theorem completes_of_path {as : List Action} (has : ∀ a ∈ as, a.isGranted = true)
    (h₀ : create refusals tasks = .ok r₀) (h : Schedule.Path step r₀ as r) :
    Completes refusals tasks as r := by
  have hbegin : ∃ es, Course refusals tasks es r₀ := ⟨[], course_create h₀⟩
  obtain ⟨es, hc⟩ := h.invariant has (fun _ u => ∃ es, Course refusals tasks es u) hbegin
    fun _ _ _ _ hu ha he => (exists_course_of_step hu ha he).1
  refine ⟨?_, hc.not_failed, fun hq => hq.idle.finished hc, hc.accounted⟩
  have hbound := h.countP_le has (fun u => ∃ es, Course refusals tasks es u) hbegin left
    Action.isStir fun _ _ _ hu ha he => exists_course_of_step hu ha he
  have hleft := left_create h₀
  omega

/-- The steps of a run can be tried out from its beginning. -/
theorem exists_path_of_create (h : create refusals tasks = .ok r₀) (as : List Action)
    (place : PoolPlace)
    (hrun : ((create refusals tasks).toOption.bind fun r => (as.foldlM step r).map PoolRun.place) =
      some place) :
    ∃ r, Schedule.Path step r₀ as r ∧ r.place = place := by
  rw [h] at hrun
  exact Schedule.exists_path step r₀ as PoolRun.place place hrun

/-! ## The run that the program computes -/

/-- What an agent does next is a step for which there is memory. -/
theorem exists_step_of_move {agent : Nat} {r' : PoolRun} (h : r.move agent = some r') :
    ∃ a : Action, a.isGranted = true ∧ a.isStir = false ∧ r.step a = some r' := by
  cases agent with
  | zero => exact ⟨.main true r.pool.firstAsleep, rfl, rfl, h⟩
  | succ i => exact ⟨.worker i, rfl, rfl, h⟩

/-- The computed run gets to its end. -/
theorem finish_create (h : create refusals tasks = .ok r) :
    r.finish.place = .finished ∧ r.finish.Accounted refusals tasks := by
  have hmove (u : PoolRun) (agent : Nat) (v : PoolRun) (hu : ∃ es, Course refusals tasks es u)
      (hv : u.move agent = some v) : (∃ es, Course refusals tasks es v) ∧ v.left < u.left := by
    obtain ⟨a, ha, hstir, he⟩ := exists_step_of_move hv
    have hstep := exists_course_of_step hu ha he
    rwa [hstir] at hstep
  have hc := course_create h
  have hrounds : r.left ≤ 20 * (r.tasks + r.pool.workerCount + 1) := by
    obtain ⟨workers, hpool, -, hlength⟩ := pool_create h
    have hleft := left_create h
    rw [hc.size, WorkerPool.workerCount, hpool, hlength]
    omega
  have hfuel : 0 < 20 * (r.tasks + r.pool.workerCount + 1) := by omega
  obtain ⟨⟨es, hend⟩, hidle⟩ := Schedule.settled_settle hmove agents hfuel ⟨[], hc⟩ hrounds
  have hplace : r.finish.place = .finished := Idle.finished hidle hend
  exact ⟨hplace, hend.accounted hplace⟩

end PoolRun

/-- What becomes of so many tasks on a pool that got so many threads. -/
structure Split (spawned tasks completed dropped : Nat) : Prop where
  total : completed + dropped = tasks
  all : 0 < spawned → completed = tasks ∧ dropped = 0
  none : spawned = 0 → completed = 0 ∧ dropped = tasks

theorem PoolRun.split {refusals : List (Option Refusal)} {tasks : Nat} {r : PoolRun}
    (h : create refusals tasks = .ok r) :
    Split r.pool.spawnedWorkers tasks (completions refusals tasks) (drops refusals tasks) := by
  have hspawned := (course_create h).run.spawnedWorkers_eq
  have hsome : 0 < r.pool.spawnedWorkers ↔ none ∈ refusals := by
    rw [hspawned, List.length_pos_iff, Ne, granted_eq_nil_iff, not_not]
  refine ⟨completions_add_drops refusals tasks, fun hlt => ?_, fun hzero => ?_⟩
  · rw [completions, drops, if_pos (hsome.1 hlt), if_pos (hsome.1 hlt)]
    exact ⟨rfl, rfl⟩
  · have hnone : none ∉ refusals := fun hmem => Nat.ne_of_gt (hsome.2 hmem) hzero
    rw [completions, drops, if_neg hnone, if_neg hnone]
    exact ⟨rfl, rfl⟩

/-- The program ends well: it prints what became of the tasks, and the records tell once of each
    task that was completed. -/
structure CompletedOutput (refusals : List (Option Refusal)) (tasks : Nat) (output : Output) :
    Prop where
  code : output.code = 0
  stdout : output.stdout = outcomeLine refusals tasks ++ "\n"
  told : ∀ task, output.log.count (processing task) =
    if task < completions refusals tasks then 1 else 0

theorem completedOutput {s : Surroundings} {workers tasks : Nat} (workTime : Nat) {r : PoolRun}
    (h : PoolRun.create (s.refusals workers) tasks = .ok r) :
    CompletedOutput (s.refusals workers) tasks (runPool s workers tasks workTime) := by
  obtain ⟨hplace, haccounted⟩ := PoolRun.finish_create h
  rw [Surroundings.refusals] at h
  simp only [runPool, h, hplace, haccounted.printed]
  refine ⟨rfl, rfl, fun task => ?_⟩
  rw [List.count_reverse, PoolRun.note, List.count_cons_of_ne, haccounted.told]
  exact infoRecord_ne_processing (by simp [toString]) task

/-- If memory never ends, then every run of tasks on a pool of workers, whichever of them get a
    thread, completes every task once and comes to its end, whatever the order of its steps; or, if
    no worker gets a thread, drops every task. So does the run that the program computes. -/
theorem every_task_accounted_for (s : Surroundings) (workers tasks workTime : Nat)
    (h : 1 ≤ workers) :
    ∃ r₀, PoolRun.create (s.refusals workers) tasks = .ok r₀ ∧
      Split r₀.pool.spawnedWorkers tasks (completions (s.refusals workers) tasks)
        (drops (s.refusals workers) tasks) ∧
      (∀ (as : List PoolRun.Action) (r : PoolRun), (∀ a ∈ as, a.isGranted = true) →
        Schedule.Path PoolRun.step r₀ as r → PoolRun.Completes (s.refusals workers) tasks as r) ∧
      CompletedOutput (s.refusals workers) tasks (runPool s workers tasks workTime) := by
  have hsome : s.refusals workers ≠ [] := by
    rw [Surroundings.refusals, Ne, List.map_eq_nil_iff, List.range_eq_nil]
    exact Nat.ne_of_gt h
  obtain ⟨r₀, h₀⟩ := PoolRun.exists_create hsome tasks
  exact ⟨r₀, h₀, PoolRun.split h₀, fun as r has hpath => PoolRun.completes_of_path has h₀ hpath,
    completedOutput workTime h₀⟩

/-- The operating system refuses the threads of the first workers. -/
def Surroundings.refusing (count : Nat) : Surroundings where
  refusal i := if i < count then some (.system 11) else none

/-- One of two workers gets a thread: it sleeps, wakes for no reason, sleeps on, and completes both
    tasks. And if none gets one, both are dropped. -/
theorem every_task_accounted_for_with_threads_refused :
    (∃ (r₀ r : PoolRun) (as : List PoolRun.Action),
      PoolRun.create ((Surroundings.refusing 1).refusals 2) 2 = .ok r₀ ∧
      (∀ a ∈ as, a.isGranted = true) ∧ Schedule.Path PoolRun.step r₀ as r ∧
      as.countP PoolRun.Action.isStir = 1 ∧
      PoolRun.Completes ((Surroundings.refusing 1).refusals 2) 2 as r ∧ r.place = .finished ∧
      r.printed = some "completed 2 of 2 tasks on 2 workers (0 dropped)") ∧
    (runPool (.refusing 2) 2 2 0).stdout = "completed 0 of 2 tasks on 2 workers (2 dropped)\n" := by
  obtain ⟨r₀, hcreate, -, hall, -⟩ := every_task_accounted_for (.refusing 1) 2 2 0 (by decide)
  obtain ⟨-, -, -, -, hrefused⟩ := every_task_accounted_for (.refusing 2) 2 2 0 (by decide)
  refine ⟨?_, hrefused.stdout.trans (by decide)⟩
  -- The worker sleeps twice and is woken, has both tasks, and goes when the main thread waits.
  let as : List PoolRun.Action :=
    List.replicate 4 (.worker 1) ++ [.stir 1, .worker 1, .main true (some 1), .main true none] ++
      List.replicate 8 (.worker 1) ++ List.replicate 8 (.main true none) ++
      List.replicate 5 (.worker 1) ++ List.replicate 15 (.main true none)
  obtain ⟨r, hpath, hplace⟩ := PoolRun.exists_path_of_create hcreate as .finished (by decide)
  have has : ∀ a ∈ as, a.isGranted = true := by decide
  have hcompletes := hall as r has hpath
  have hprinted := (hcompletes.accounted hplace).printed
  exact ⟨r₀, r, as, hcreate, has, hpath, by decide, hcompletes, hplace,
    hprinted.trans (congrArg some (by decide))⟩

end Threading.CommandLine

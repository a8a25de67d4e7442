import Mathlib.Data.List.ReduceOption
import Threading.Proofs.WorkerPool.Teardown

/-!
# Every task once, and in order

What became of the tasks of a pool is read off its history:

* `submitted`, `accepted` and `rejected`: the tasks that were handed in, those
  that were queued, and those that went back;
* `begun` and `finished`: the tasks that workers took, and those that are over,
  each with its worker;
* `freed`: the tasks that went without having run.

A step moves a task from one place to the next, so no task is lost, and none is
in two places (`Accounted`, `IsRun.accounted`): the accepted tasks are those begun,
those freed and those queued, in this order, and the tasks that a worker began
are those it finished and the one that it runs.
-/

namespace Threading.WorkerPool

variable {τ : Type}

/-- What was done with tasks. -/
inductive Deed (τ : Type)
  | nothing
  | queued (task : τ)
  /-- The worker took the task from the list, to run it. -/
  | began (worker : Nat) (task : τ)
  /-- The task returned or panicked. -/
  | ended (worker : Nat) (task : τ)
  /-- The list was taken away, with these tasks on it. -/
  | freed (tasks : List τ)

/-- What an occurrence did with tasks. -/
def deed (o : Occurrence (Action τ) (Outcome τ)) : Deed τ :=
  match o.action, o.outcome with
  | .submit task _ _, .accepted => .queued task
  | .advance i, .invoked task => .began i task
  | .taskEnded i _, .finished task => .ended i task
  | _, .freed tasks => .freed tasks
  | _, _ => .nothing

/-- The tasks that were handed in. -/
def submitted (es : History τ) : List τ :=
  es.filterMap fun o => match o.action with
    | .submit task _ _ => some task
    | _ => none

/-- The tasks whose submit returned an error. -/
def rejected (es : History τ) : List τ :=
  es.filterMap fun o => match o.outcome with
    | .rejected _ task => some task
    | _ => none

/-- The tasks that were queued, in the order of the list. -/
def accepted (es : History τ) : List τ :=
  es.filterMap fun o => match deed o with
    | .queued task => some task
    | _ => none

/-- The tasks that were taken from the list, in this order, each with the worker
    that runs it. -/
def begun (es : History τ) : List (Nat × τ) :=
  es.filterMap fun o => match deed o with
    | .began i task => some (i, task)
    | _ => none

/-- The tasks that returned or panicked, each with its worker. -/
def finished (es : History τ) : List (Nat × τ) :=
  es.filterMap fun o => match deed o with
    | .ended i task => some (i, task)
    | _ => none

/-- The tasks that went without having run. -/
def freed (es : History τ) : List τ :=
  es.flatMap fun o => match deed o with
    | .freed tasks => tasks
    | _ => []

/-- The list of tasks was taken away. -/
def drained (es : History τ) : Bool :=
  es.any fun o => match deed o with
    | .freed _ => true
    | _ => false

/-- The results of the destroys that returned, each with the thread that called it. -/
def results (es : History τ) : List (ThreadId × Nat) :=
  es.filterMap fun o => match o.action, o.outcome with
    | .proceed c, .returned count => some (c, count)
    | _, _ => none

/-- The tasks among these that are with the worker `i`. -/
def ofWorker (i : Nat) (tasks : List (Nat × τ)) : List τ :=
  (tasks.filter fun x => x.1 == i).map Prod.snd

/-- The task that each worker runs, if any. -/
def hands (p : WorkerPool τ) : List (Option τ) := p.workers.map Worker.task?

/-- The tasks that are running. -/
def executing (p : WorkerPool τ) : List τ := p.hands.reduceOption

/-! ## One step -/

/-- How a pool changes with what is done with tasks. -/
inductive Handles (p q : WorkerPool τ) : Deed τ → Prop
  | nothing : q.tasks = p.tasks → q.hands = p.hands → Handles p q .nothing
  | queued {task : τ} : p.shutdown = false → q.tasks = p.tasks ++ [task] → q.hands = p.hands →
    Handles p q (.queued task)
  | began {i : Nat} {task : τ} : p.tasks = task :: q.tasks → p.hands[i]? = some none →
    q.hands = p.hands.set i (some task) → Handles p q (.began i task)
  | ended {i : Nat} {task : τ} : q.tasks = p.tasks → p.hands[i]? = some (some task) →
    q.hands = p.hands.set i none → Handles p q (.ended i task)
  | freed : p.shutdown = true → q.tasks = [] → q.hands = p.hands → Handles p q (.freed p.tasks)

section Step

variable {p : WorkerPool τ} {a : Action τ} {e : Effect (WorkerPool τ) (Outcome τ)}

theorem hands_of_getElem? {i : Nat} {w : Worker τ} (hw : p.workers[i]? = some w) :
    p.hands[i]? = some w.task? := by
  rw [hands, List.getElem?_map, hw, Option.map_some]

theorem map_set_task? {i : Nat} {w w' : Worker τ} (hw : p.workers[i]? = some w)
    (h : w'.task? = w.task?) : (p.workers.set i w').map Worker.task? = p.hands := by
  rw [List.map_set, h]
  exact set_self (hands_of_getElem? hw)

theorem map_map_task? {f : Worker τ → Worker τ} (h : ∀ w, (f w).task? = w.task?) :
    (p.workers.map f).map Worker.task? = p.hands := by
  rw [List.map_map]
  exact List.map_congr_left fun w _ => h w

theorem deed_of_moves {i : Nat} {w w' : Worker τ} {o : Outcome τ} {ns : List Notice}
    (m : w.Moves i w' a o ns) : deed ⟨a, o, ns⟩ = .nothing := by
  cases m <;> rfl

/-- A step does one thing with tasks. -/
theorem Transition.handles (ht : Transition p a e) (h : Teardown p) :
    ∃ d, deed (e.after a) = d ∧ Handles p e.state d := by
  cases ht with
  | accept _ hs => exact ⟨_, rfl, .queued hs rfl rfl⟩
  | rouse _ hs _ hw hl =>
    exact ⟨_, rfl, .queued hs rfl (map_set_task? hw (by simp [Worker.task?, hl]))⟩
  | take hw ha hp =>
    have hhand := hands_of_getElem? hw
    rw [Worker.task?_of_isAwake ha] at hhand
    exact ⟨_, rfl, .began hp hhand (by rw [hands, List.map_set]; rfl)⟩
  | rest hw ha _ =>
    refine ⟨_, rfl, .nothing rfl (map_set_task? hw ?_)⟩
    rw [Worker.task?_of_isAwake ha]
    split <;> rfl
  | move hw m =>
    exact ⟨_, deed_of_moves m, .nothing rfl (map_set_task? hw (m.task?.2.trans m.task?.1.symm))⟩
  | spend hw m ha _ =>
    exact ⟨_, rfl, .freed (h.abandoned ha).1 rfl
      (map_set_task? hw (m.task?.2.trans m.task?.1.symm))⟩
  | finish hw hl _ =>
    have hhand := hands_of_getElem? hw
    rw [Worker.task?_eq_some_iff.2 hl] at hhand
    refine ⟨_, rfl, .ended rfl hhand ?_⟩
    rw [hands, List.map_set]
    split <;> rfl
  | shutInside _ => exact ⟨_, rfl, .nothing rfl (map_map_task? Worker.task?_wake)⟩
  | shutOutside _ => exact ⟨_, rfl, .nothing rfl (map_map_task? Worker.task?_wake)⟩
  | mark _ hw _ _ => exact ⟨_, rfl, .nothing rfl (map_set_task? hw rfl)⟩
  | collect _ hw _ _ _ => exact ⟨_, rfl, .nothing rfl (map_set_task? hw rfl)⟩
  | drain hd => exact ⟨_, rfl, .freed (h.shut _ _ hd rfl) rfl rfl⟩
  | abandon _ _ _ => exact ⟨_, rfl, .nothing rfl (map_map_task? Worker.task?_abandon)⟩
  | abandonLast _ hs _ _ => exact ⟨_, rfl, .freed hs rfl (map_map_task? Worker.task?_abandon)⟩
  | _ => exact ⟨_, rfl, .nothing rfl rfl⟩

end Step

/-! ## Every moment -/

section Snoc

variable (es : History τ) (o : Occurrence (Action τ) (Outcome τ))

theorem accepted_snoc : accepted (es ++ [o]) = accepted es ++ match deed o with
    | .queued task => [task]
    | _ => [] := by
  rw [accepted, filterMap_snoc]
  cases deed o <;> rfl

theorem accepted_append (fs : History τ) : accepted (es ++ fs) = accepted es ++ accepted fs :=
  List.filterMap_append

theorem freed_append (fs : History τ) : freed (es ++ fs) = freed es ++ freed fs :=
  List.flatMap_append

theorem begun_append (fs : History τ) : begun (es ++ fs) = begun es ++ begun fs :=
  List.filterMap_append

theorem results_append (fs : History τ) : results (es ++ fs) = results es ++ results fs :=
  List.filterMap_append

theorem begun_snoc : begun (es ++ [o]) = begun es ++ match deed o with
    | .began i task => [(i, task)]
    | _ => [] := by
  rw [begun, filterMap_snoc]
  cases deed o <;> rfl

theorem finished_snoc : finished (es ++ [o]) = finished es ++ match deed o with
    | .ended i task => [(i, task)]
    | _ => [] := by
  rw [finished, filterMap_snoc]
  cases deed o <;> rfl

theorem freed_snoc : freed (es ++ [o]) = freed es ++ match deed o with
    | .freed tasks => tasks
    | _ => [] := by
  rw [freed, List.flatMap_append]
  cases h : deed o <;> simp [freed, h]

theorem drained_snoc : drained (es ++ [o]) = (drained es || match deed o with
    | .freed _ => true
    | _ => false) := by
  rw [drained, List.any_append]
  cases h : deed o <;> simp [drained, h]

end Snoc

/-- Where the tasks of a pool are after `es` happened. -/
structure Accounted (es : History τ) (p : WorkerPool τ) : Prop where
  /-- A task is queued, or goes back. -/
  answered : (submitted es).Perm (accepted es ++ rejected es)
  /-- The tasks are taken from the list in the order in which they came. -/
  in_order : accepted es = (begun es).map Prod.snd ++ freed es ++ p.tasks
  /-- Once the list was taken away, nothing is queued. -/
  taken : drained es = true → p.shutdown = true ∧ p.tasks = []
  /-- The tasks that a worker took are those it is done with, and the one it runs. -/
  once : ∀ (i : Nat) (hand : Option τ), p.hands[i]? = some hand →
    ofWorker i (begun es) = ofWorker i (finished es) ++ hand.toList
  /-- Only workers take tasks. -/
  handed : ∀ x ∈ begun es, x.1 < p.hands.length
  /-- The tasks that were taken are over, or are running. -/
  running : ((begun es).map Prod.snd).Perm ((finished es).map Prod.snd ++ p.executing)

/-- One hand changes, and the other tasks go on. -/
theorem perm_executing {p q : WorkerPool τ} {i : Nat} {x y : Option τ}
    (hx : p.hands[i]? = some x) (hq : q.hands = p.hands.set i y) :
    (x.toList ++ q.executing).Perm (y.toList ++ p.executing) := by
  rw [executing, executing, hq]
  exact perm_filterMap_set (f := id) hx y

theorem ofWorker_append (i : Nat) (xs ys : List (Nat × τ)) :
    ofWorker i (xs ++ ys) = ofWorker i xs ++ ofWorker i ys := by
  rw [ofWorker, List.filter_append, List.map_append, ofWorker, ofWorker]

theorem ofWorker_singleton (i j : Nat) (task : τ) :
    ofWorker i [(j, task)] = if j = i then [task] else [] := by
  by_cases h : j = i <;> simp [ofWorker, h]

section Step

variable {es : History τ} {o : Occurrence (Action τ) (Outcome τ)} {p q : WorkerPool τ} {d : Deed τ}

theorem Handles.length_hands (hh : Handles p q d) : q.hands.length = p.hands.length := by
  cases hh with
  | nothing _ hq => rw [hq]
  | queued _ _ hq => rw [hq]
  | began _ _ hq => rw [hq, List.length_set]
  | ended _ _ hq => rw [hq, List.length_set]
  | freed _ _ hq => rw [hq]

/-- While there is a task to take, the list is there. -/
theorem Accounted.not_drained (h : Accounted es p) (hp : p.tasks ≠ []) : drained es = false := by
  by_contra hd
  exact hp (h.taken (by simpa using hd)).2

theorem freed_of_not_drained (h : drained es = false) : freed es = [] := by
  rw [freed, List.flatMap_eq_nil_iff]
  intro o ho
  rw [drained, List.any_eq_false] at h
  have ho := h o ho
  split
  · next hd => simp [hd] at ho
  · rfl

theorem Accounted.in_order_step (h : Accounted es p) (hd : deed o = d) (hh : Handles p q d) :
    accepted (es ++ [o]) = (begun (es ++ [o])).map Prod.snd ++ freed (es ++ [o]) ++ q.tasks := by
  rw [accepted_snoc, begun_snoc, freed_snoc, hd, h.in_order]
  cases hh with
  | nothing ht _ => simp [ht]
  | queued _ ht _ => simp [ht]
  | began ht _ _ =>
    -- Nothing was freed yet, so the task follows those begun before.
    have hfreed := freed_of_not_drained (h.not_drained (by rw [ht]; exact List.cons_ne_nil _ _))
    simp [ht, hfreed]
  | ended ht _ _ => simp [ht]
  | freed _ ht _ => simp [ht]

theorem Accounted.taken_step (h : Accounted es p) (hd : deed o = d) (hh : Handles p q d)
    (hs : p.shutdown = true → q.shutdown = true) (ht : drained (es ++ [o]) = true) :
    q.shutdown = true ∧ q.tasks = [] := by
  rw [drained_snoc, hd] at ht
  cases hh with
  | freed hp hq _ => exact ⟨hs hp, hq⟩
  | nothing hq _ =>
    obtain ⟨hp, hnil⟩ := h.taken (by simpa using ht)
    exact ⟨hs hp, hq.trans hnil⟩
  | queued hp _ _ =>
    obtain ⟨hp', -⟩ := h.taken (by simpa using ht)
    simp [hp] at hp'
  | began hq _ _ =>
    obtain ⟨-, hnil⟩ := h.taken (by simpa using ht)
    simp [hq] at hnil
  | ended hq _ _ =>
    obtain ⟨hp, hnil⟩ := h.taken (by simpa using ht)
    exact ⟨hs hp, hq.trans hnil⟩

theorem Accounted.once_step (h : Accounted es p) (hd : deed o = d) (hh : Handles p q d) {i : Nat}
    {hand : Option τ} (hi : q.hands[i]? = some hand) :
    ofWorker i (begun (es ++ [o])) = ofWorker i (finished (es ++ [o])) ++ hand.toList := by
  rw [begun_snoc, finished_snoc, hd]
  -- Only the hand of the worker `j` that takes or ends a task changes.
  cases hh with
  | nothing _ hq => simpa using h.once i hand (hq ▸ hi)
  | queued _ _ hq => simpa using h.once i hand (hq ▸ hi)
  | freed _ _ hq => simpa using h.once i hand (hq ▸ hi)
  | @began j task _ hj hq =>
    rw [hq] at hi
    by_cases hij : j = i
    · subst hij
      rw [getElem?_set_self_of_some hj] at hi
      obtain rfl := Option.some.inj hi
      simp [ofWorker_append, ofWorker_singleton, h.once j none hj]
    · rw [List.getElem?_set_ne hij] at hi
      simp [ofWorker_append, ofWorker_singleton, hij, h.once i hand hi]
  | @ended j task _ hj hq =>
    rw [hq] at hi
    by_cases hij : j = i
    · subst hij
      rw [getElem?_set_self_of_some hj] at hi
      obtain rfl := Option.some.inj hi
      simp [ofWorker_append, ofWorker_singleton, h.once j _ hj]
    · rw [List.getElem?_set_ne hij] at hi
      simp [ofWorker_append, ofWorker_singleton, hij, h.once i hand hi]

theorem Accounted.handed_step (h : Accounted es p) (hd : deed o = d) (hh : Handles p q d) :
    ∀ x ∈ begun (es ++ [o]), x.1 < q.hands.length := by
  intro x hx
  rw [hh.length_hands]
  rw [begun_snoc, hd, List.mem_append] at hx
  rcases hx with hx | hx
  · exact h.handed x hx
  · cases hh with
    | began _ hj _ =>
      obtain rfl := List.mem_singleton.1 hx
      exact (List.getElem?_eq_some_iff.1 hj).1
    | _ => cases hx

theorem Accounted.running_step (h : Accounted es p) (hd : deed o = d) (hh : Handles p q d) :
    ((begun (es ++ [o])).map Prod.snd).Perm
      ((finished (es ++ [o])).map Prod.snd ++ q.executing) := by
  rw [begun_snoc, finished_snoc, hd]
  cases hh with
  | nothing _ hq => simpa [executing, hq] using h.running
  | queued _ _ hq => simpa [executing, hq] using h.running
  | freed _ _ hq => simpa [executing, hq] using h.running
  | @began j task _ hj hq =>
    have hx : q.executing.Perm (task :: p.executing) := perm_executing hj hq
    have hr := h.running.append_right [task]
    simp only [List.map_append, List.map_cons, List.map_nil, List.append_nil]
    refine hr.trans ?_
    rw [List.append_assoc]
    exact (List.perm_append_comm.trans hx.symm).append_left _
  | @ended j task _ hj hq =>
    have hx : (task :: q.executing).Perm p.executing := perm_executing hj hq
    simp only [List.map_append, List.map_cons, List.map_nil, List.append_nil, List.append_assoc]
    exact h.running.trans (hx.symm.append_left _)

/-- A task that is handed in is queued, or goes back. -/
theorem Transition.submitted_eq {a : Action τ} {e : Effect (WorkerPool τ) (Outcome τ)}
    (ht : Transition p a e) :
    submitted [e.after a] = accepted [e.after a] ++ rejected [e.after a] := by
  cases ht with
  | move _ m => cases m <;> rfl
  | _ => rfl

theorem Accounted.answered_step (h : Accounted es p)
    (ho : submitted [o] = accepted [o] ++ rejected [o]) :
    (submitted (es ++ [o])).Perm (accepted (es ++ [o]) ++ rejected (es ++ [o])) := by
  have happ : ∀ {β : Type} (f : Occurrence (Action τ) (Outcome τ) → Option β),
      (es ++ [o]).filterMap f = es.filterMap f ++ [o].filterMap f := fun _ => List.filterMap_append
  simp only [submitted, accepted, rejected, happ] at ho ⊢
  exact perm_append_append h.answered ho

end Step

theorem executing_eq_nil {p : WorkerPool τ} (h : ∀ w ∈ p.workers, w.task? = none) :
    p.executing = [] := by
  rw [executing, hands, List.reduceOption, List.filterMap_map, List.filterMap_eq_nil_iff]
  exact h

theorem executing_eq_nil_of_fresh {workers : List (Worker τ)} (hf : ∀ w ∈ workers, w.Fresh) :
    executing { workers } = [] :=
  executing_eq_nil fun w hw => by rw [Worker.task?, (hf w hw).outside]

theorem accounted_of_fresh {workers : List (Worker τ)} (hf : ∀ w ∈ workers, w.Fresh) :
    Accounted [] { workers } where
  answered := .nil
  in_order := rfl
  taken hd := by cases hd
  once i hand hi := by
    rw [hands, List.getElem?_map, Option.map_eq_some_iff] at hi
    obtain ⟨w, hw, rfl⟩ := hi
    rw [Worker.task?, (hf w (List.mem_of_getElem? hw)).outside]
    rfl
  handed _ hx := absurd hx List.not_mem_nil
  running := by
    rw [executing_eq_nil_of_fresh hf]
    exact .nil

section IsRun

variable {label : String} {answers : List (Except Refusal ThreadId)} {es : History τ}
  {p : WorkerPool τ}

/-- The tasks of a pool are accounted for at every moment. -/
theorem IsRun.accounted (h : IsRun label answers es p) : Accounted es p := by
  refine h.induction Accounted ?_ fun fs q a e hq _ ht ih => ?_
  · intro workers hf _
    exact accounted_of_fresh hf
  · obtain ⟨d, hd, hh⟩ := ht.handles hq.teardown
    exact {
      answered := ih.answered_step ht.submitted_eq
      in_order := ih.in_order_step hd hh
      taken := ih.taken_step hd hh ht.shutdown
      once := fun _ _ => ih.once_step hd hh
      handed := ih.handed_step hd hh
      running := ih.running_step hd hh }

/-! ## How many at a time -/

theorem IsRun.spawnedWorkers_eq (h : IsRun label answers es p) :
    p.spawnedWorkers = (granted answers).length := by
  rw [h.length_granted, spawnedWorkers]
  refine List.countP_congr fun w hw => ?_
  rw [(h.sound w hw).thread?_isSome_iff, bne_iff_ne]

/-- No more tasks run than there are threads. -/
theorem IsRun.length_executing_le (h : IsRun label answers es p) :
    p.executing.length ≤ p.spawnedWorkers := by
  rw [executing, hands, List.reduceOption, List.filterMap_map, List.length_filterMap_eq_countP,
    spawnedWorkers]
  refine List.countP_mono_left fun w hw htask => ?_
  obtain ⟨task, htask⟩ := Option.isSome_iff_exists.1 htask
  have hl : w.loop ≠ .outside := by simp [Worker.task?_eq_some_iff.1 htask]
  have hs := h.sound w hw
  rw [bne_iff_ne]
  exact hs.thread?_isSome_iff.1 (hs.thread?_isSome hl)

/-- A single worker is done with a task before it takes the next one. -/
theorem IsRun.one_at_a_time (h : IsRun label answers es p)
    (hone : (granted answers).length = 1) :
    (begun es).map Prod.snd = (finished es).map Prod.snd ++ p.executing := by
  refine h.induction (fun fs q => (begun fs).map Prod.snd =
    (finished fs).map Prod.snd ++ q.executing) ?_ fun fs q a e hq hq' ht ih => ?_
  · intro workers hf _
    rw [executing_eq_nil_of_fresh hf]
    rfl
  · obtain ⟨d, hd, hh⟩ := ht.handles hq.teardown
    have hle : ∀ {gs : History τ} {r : WorkerPool τ}, IsRun label answers gs r →
        r.executing.length ≤ 1 := fun hr => by
      rw [← hone, ← hr.spawnedWorkers_eq]
      exact hr.length_executing_le
    rw [begun_snoc, finished_snoc, hd]
    cases hh with
    | nothing _ hhands => simpa [executing, hhands] using ih
    | queued _ _ hhands => simpa [executing, hhands] using ih
    | freed _ _ hhands => simpa [executing, hhands] using ih
    | @began i task _ hi hhands =>
      have hx : e.state.executing.Perm (task :: q.executing) := perm_executing hi hhands
      -- The thread runs the new task, so it ran none before.
      have hlen := hx.length_eq ▸ hle hq'
      have hnil : q.executing = [] := by simpa using hlen
      rw [hnil, List.perm_singleton] at hx
      simp [ih, hnil, hx]
    | @ended i task _ hi hhands =>
      have hx : (task :: e.state.executing).Perm q.executing := perm_executing hi hhands
      -- The thread ran this task, so it runs none now.
      have hlen := hx.length_eq ▸ hle hq
      have hnil : e.state.executing = [] := by simpa using hlen
      rw [hnil, List.singleton_perm] at hx
      simp [ih, hnil, ← hx]

/-- Every accepted task is begun once, by one worker, in the order in which the
    tasks came, unless it is still queued, or went with the list. No more tasks run
    than there are threads; a single thread runs them one after the other. A task
    whose submit returned an error is never run. -/
theorem IsRun.each_task_once_in_order (h : IsRun label answers es p) :
    Accounted es p ∧ p.executing.length ≤ p.spawnedWorkers ∧
    (p.spawnedWorkers = 1 →
      (begun es).map Prod.snd = (finished es).map Prod.snd ++ p.executing) ∧
    ((submitted es).Nodup → ((begun es).map Prod.snd).Nodup ∧
      ∀ task ∈ rejected es, task ∉ (begun es).map Prod.snd) := by
  have hacc := h.accounted
  refine ⟨hacc, h.length_executing_le, fun hone => h.one_at_a_time ?_, fun hdistinct => ?_⟩
  · rw [← h.spawnedWorkers_eq, hone]
  · have hboth := hacc.answered.nodup_iff.1 hdistinct
    obtain ⟨haccepted, -, hdisjoint⟩ := List.nodup_append.1 hboth
    have hbegun : (begun es).map Prod.snd <+: accepted es :=
      ⟨freed es ++ p.tasks, by rw [hacc.in_order, List.append_assoc]⟩
    refine ⟨haccepted.sublist hbegun.sublist, fun task hr hb => ?_⟩
    exact hdisjoint task (hbegun.subset hb) task hr rfl

/-- Three tasks for two workers, of which one panics while a destroy from outside
    is under way; a fourth task comes too late. -/
theorem each_task_once_in_order_of_two_workers :
    ∃ (es : History Nat) (p : WorkerPool Nat), IsRun "pool" [.ok 1, .ok 2] es p ∧
      (begun es = [(1, 10), (0, 11), (0, 12)] ∧ rejected es = [13] ∧ p.executing = [12]) ∧
      Accounted es p ∧ p.executing.length ≤ p.spawnedWorkers ∧
      (p.spawnedWorkers = 1 →
        (begun es).map Prod.snd = (finished es).map Prod.snd ++ p.executing) ∧
      ((submitted es).Nodup → ((begun es).map Prod.snd).Nodup ∧
        ∀ task ∈ rejected es, task ∉ (begun es).map Prod.snd) := by
  obtain ⟨es, p, h, hf⟩ := exists_isRun "pool" [.ok 1, .ok 2]
    [.advance 0, .advance 0, .advance 0, .advance 0, .advance 1, .advance 1, .advance 1,
      .submit 10 true (some 0), .advance 1, .submit 11 true none, .advance 0, .submit 12 true none,
      .destroy 9, .proceed 9, .proceed 9, .proceed 9, .proceed 9, .submit 13 true none,
      .taskEnded 1 true, .taskEnded 0 false, .advance 0]
    (fun es p => (begun es, rejected es, p.executing))
    ([(1, 10), (0, 11), (0, 12)], [13], [12]) (by decide) (by decide)
  simp only [Prod.mk.injEq] at hf
  exact ⟨es, p, h, hf, h.each_task_once_in_order⟩

end IsRun

end Threading.WorkerPool

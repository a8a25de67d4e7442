import Threading.Proofs.JobPool.Lifetime

/-!
# What becomes of the jobs

What became of the jobs of a pool is read off its history:

* `submitted`, `accepted` and `rejected`: the jobs that were handed in, those that
  got a thread, and those that went back;
* `begun` and `finished`: the jobs that began, and those that returned or panicked,
  each with its thread.

An accepted job is with its thread until it begins, and then it runs, until it is
over (`Whereabouts`). A step moves one job to the next of these places and leaves the
others where they are (`Handles`), so the job accepted as the n-th is that of the n-th
thread, and begins once (`Accounted`, `IsRun.accounted`).
-/

namespace Threading

namespace JobThread

/-- Where the job of a thread is. -/
inductive Whereabouts (τ : Type)
  /-- The thread has it, and it did not begin. -/
  | carried (job : τ)
  | working (job : τ)
  /-- It returned, or panicked. -/
  | settled
  deriving DecidableEq

variable {τ : Type}

/-- The job that a thread outside its closure is going to run there. -/
def bound? (j : JobThread τ) : Option τ :=
  match j.handle.spawned.map Course.progress with
  | some .created => j.handle.job
  | some (.taken job) => some job
  | some (.raised job) => some job
  | _ => none

/-- Where the job of the thread is. -/
def whereabouts (j : JobThread τ) : Whereabouts τ :=
  match j.place with
  | .arriving job => .carried job
  | .waiting job => .carried job
  | .working job => .working job
  | .returning _ => .settled
  | .outside => j.bound?.elim .settled .carried

theorem Moves.whereabouts_eq {j j' : JobThread τ} {o : JobPool.Outcome τ} (m : j.Moves j' o) :
    j'.whereabouts = j.whereabouts := by
  cases m <;> simp_all [whereabouts, bound?]

theorem Moves.not_a_job {j j' : JobThread τ} {o : JobPool.Outcome τ} (m : j.Moves j' o) :
    o = .moved ∨ o = .exited := by
  cases m <;> simp

end JobThread

namespace JobPool

open JobThread (Whereabouts)

variable {τ : Type}

/-- What was done with jobs. -/
inductive Deed (τ : Type)
  | nothing
  /-- A submit took the lock with this job. -/
  | opened (job : τ)
  /-- The job came too late. -/
  | refused (job : τ)
  /-- The job of the submit that held the lock goes back. -/
  | declined (job : τ)
  /-- The job of the submit that held the lock has a thread. -/
  | accepted
  | began (thread : Nat) (job : τ)
  /-- The job returned or panicked. -/
  | ended (thread : Nat) (job : τ)

/-- What an occurrence did with jobs. -/
def deed (o : Occurrence (Action τ) (Outcome τ)) : Deed τ :=
  match o.action, o.outcome with
  | .submit _ job, .moved => .opened job
  | .submit _ _, .rejected _ job => .refused job
  | _, .rejected _ job => .declined job
  | _, .accepted => .accepted
  | .advance i _, .invoked job => .began i job
  | .jobEnded i _, .finished job => .ended i job
  | _, _ => .nothing

/-- The jobs that were handed in. -/
def submitted (es : History τ) : List τ :=
  es.filterMap fun o => match o.action with
    | .submit _ job => some job
    | _ => none

/-- The jobs whose submit returned an error. -/
def rejected (es : History τ) : List τ :=
  es.filterMap fun o => match o.outcome with
    | .rejected _ job => some job
    | _ => none

/-- What the submits did: the job of the submit that holds the lock, and the jobs that
    got a thread. -/
structure Desk (τ : Type) where
  pending : Option τ := none
  accepted : List τ := []

/-- What the submits did after one more occurrence. -/
def Desk.next (desk : Desk τ) (o : Occurrence (Action τ) (Outcome τ)) : Desk τ :=
  match deed o with
  | .opened job => { desk with pending := some job }
  | .declined _ => { desk with pending := none }
  | .accepted => { pending := none, accepted := desk.accepted ++ desk.pending.toList }
  | _ => desk

/-- What the submits did. -/
def desk (es : History τ) : Desk τ := es.foldl Desk.next {}

/-- The jobs that got a thread, in this order. -/
def accepted (es : History τ) : List τ := (desk es).accepted

/-- The jobs that began, in this order, each with its thread. -/
def begun (es : History τ) : List (Nat × τ) :=
  es.filterMap fun o => match deed o with
    | .began i job => some (i, job)
    | _ => none

/-- The jobs that returned or panicked, each with its thread. -/
def finished (es : History τ) : List (Nat × τ) :=
  es.filterMap fun o => match deed o with
    | .ended i job => some (i, job)
    | _ => none

/-- The jobs among these that are with the thread `i`. -/
def ofThread (i : Nat) (jobs : List (Nat × τ)) : List τ :=
  (jobs.filter fun x => x.1 == i).map Prod.snd

/-- Where the job of each thread is. -/
def jobs (p : JobPool τ) : List (Whereabouts τ) := p.threads.map JobThread.whereabouts

/-- The job of the submit that holds the lock. -/
def pending (p : JobPool τ) : Option τ := p.submitting.map Submit.job

/-! ## One step -/

/-- How a pool changes with what is done with jobs. -/
inductive Handles (p q : JobPool τ) : Deed τ → Prop
  | nothing : q.jobs = p.jobs → q.pending = p.pending → Handles p q .nothing
  | opened {job : τ} : q.jobs = p.jobs → p.pending = none → q.pending = some job →
    Handles p q (.opened job)
  | refused {job : τ} : q.jobs = p.jobs → q.pending = p.pending → Handles p q (.refused job)
  | declined {job : τ} : q.jobs = p.jobs → p.pending = some job → q.pending = none →
    Handles p q (.declined job)
  | accepted {job : τ} : q.jobs = p.jobs ++ [.carried job] → p.pending = some job →
    q.pending = none → Handles p q .accepted
  | began {i : Nat} {job : τ} : p.jobs[i]? = some (.carried job) →
    q.jobs = p.jobs.set i (.working job) → q.pending = p.pending → Handles p q (.began i job)
  | ended {i : Nat} {job : τ} : p.jobs[i]? = some (.working job) →
    q.jobs = p.jobs.set i .settled → q.pending = p.pending → Handles p q (.ended i job)

section Step

variable {p : JobPool τ} {a : Action τ} {e : Effect (JobPool τ) (Outcome τ)} {i : Nat}
  {j v : JobThread τ}

theorem jobs_of_getElem? (hj : p.threads[i]? = some j) : p.jobs[i]? = some j.whereabouts := by
  rw [jobs, List.getElem?_map, hj, Option.map_some]

/-- The job of a thread that changes may stay where it is. -/
theorem map_set_whereabouts (hj : p.threads[i]? = some j) (h : v.whereabouts = j.whereabouts) :
    (p.threads.set i v).map JobThread.whereabouts = p.jobs := by
  rw [List.map_set, h]
  exact set_self (jobs_of_getElem? hj)

theorem whereabouts_of_asks {t : ThreadId} {b : Semaphore.Action} {job : τ}
    (h : asks t j.place = some (b, job)) : j.whereabouts = .carried job := by
  rcases place_of_asks h with hp | hp <;> rw [JobThread.whereabouts, hp]

theorem pending_eq_some {s : Submit τ} (h : p.submitting = some s) : p.pending = some s.job := by
  rw [pending, h, Option.map_some]

/-- A step does one thing with jobs. -/
theorem Transition.handles (ht : Transition p a e) :
    ∃ d, deed (e.after a) = d ∧ Handles p e.state d := by
  cases ht with
  | refuse => exact ⟨_, rfl, .refused rfl rfl⟩
  | submit ha =>
    have hnone : p.pending = none := by rw [pending, (isCalling_of_admits ha).1, Option.map_none]
    exact ⟨_, rfl, .opened rfl hnone rfl⟩
  | keep hsub | forget hsub =>
    exact ⟨_, rfl, .nothing rfl (pending_eq_some hsub).symm⟩
  | pruneMark hsub _ hj | pruneCollect hsub _ hj =>
    exact ⟨_, rfl, .nothing (map_set_whereabouts hj rfl) (pending_eq_some hsub).symm⟩
  | noRoom hsub => exact ⟨_, rfl, .declined rfl (pending_eq_some hsub) rfl⟩
  | makeRoom hsub => exact ⟨_, rfl, .nothing rfl (pending_eq_some hsub).symm⟩
  | accept hsub =>
    exact ⟨_, rfl, .accepted List.map_append (pending_eq_some hsub) rfl⟩
  | decline hsub => exact ⟨_, rfl, .declined rfl (pending_eq_some hsub) rfl⟩
  | move hj m =>
    refine ⟨.nothing, ?_, .nothing (map_set_whereabouts hj m.whereabouts_eq) rfl⟩
    rcases m.not_a_job with rfl | rfl <;> rfl
  | take hj _ hb =>
    exact ⟨_, rfl, .began ((jobs_of_getElem? hj).trans (by rw [whereabouts_of_asks hb]))
      List.map_set rfl⟩
  | sleep hj _ hb =>
    exact ⟨_, rfl, .nothing (map_set_whereabouts hj (whereabouts_of_asks hb).symm) rfl⟩
  | giveBack hj hp =>
    refine ⟨_, rfl, .nothing (map_set_whereabouts hj ?_) rfl⟩
    simp [JobThread.whereabouts, JobThread.bound?, hp]
  | finish hj hp =>
    refine ⟨_, rfl, .ended ((jobs_of_getElem? hj).trans ?_) List.map_set rfl⟩
    rw [JobThread.whereabouts, hp]
  | mark _ hj | collect _ hj => exact ⟨_, rfl, .nothing (map_set_whereabouts hj rfl) rfl⟩
  | _ => exact ⟨_, rfl, .nothing rfl rfl⟩

/-- What a step does with the job of a submit shows in its occurrence. -/
theorem Transition.answers (ht : Transition p a e) :
    submitted [e.after a] = (match deed (e.after a) with
      | .opened job | .refused job => [job]
      | _ => []) ∧
    rejected [e.after a] = (match deed (e.after a) with
      | .refused job | .declined job => [job]
      | _ => []) := by
  cases ht with
  | move _ m => rcases m.not_a_job with rfl | rfl <;> exact ⟨rfl, rfl⟩
  | _ => exact ⟨rfl, rfl⟩

end Step

/-! ## Every moment -/

section Snoc

variable (es : History τ) (o : Occurrence (Action τ) (Outcome τ))

theorem desk_snoc : desk (es ++ [o]) = (desk es).next o := by
  rw [desk, List.foldl_append, List.foldl_cons, List.foldl_nil, desk]

theorem begun_snoc : begun (es ++ [o]) = begun es ++ match deed o with
    | .began i job => [(i, job)]
    | _ => [] := by
  rw [begun, filterMap_snoc]
  cases deed o <;> rfl

theorem finished_snoc : finished (es ++ [o]) = finished es ++ match deed o with
    | .ended i job => [(i, job)]
    | _ => [] := by
  rw [finished, filterMap_snoc]
  cases deed o <;> rfl

theorem submitted_append (fs : History τ) : submitted (es ++ fs) = submitted es ++ submitted fs :=
  List.filterMap_append

theorem rejected_append (fs : History τ) : rejected (es ++ fs) = rejected es ++ rejected fs :=
  List.filterMap_append

end Snoc

/-- What happened to the job of a thread so far, if its job is there: what began on the thread,
    and what is over. -/
def Fate (job : τ) : Whereabouts τ → List τ → List τ → Prop
  | .carried x, begun, finished => x = job ∧ begun = [] ∧ finished = []
  | .working x, begun, finished => x = job ∧ begun = [job] ∧ finished = []
  | .settled, begun, finished => begun = [job] ∧ finished = [job]

/-- A job begins once at most. -/
theorem Fate.begun_eq {job : τ} {w : Whereabouts τ} {begun finished : List τ}
    (h : Fate job w begun finished) : begun = [] ∨ begun = [job] := by
  cases w with
  | carried => exact .inl h.2.1
  | working => exact .inr h.2.1
  | settled => exact .inr h.1

/-- Where the jobs of a pool are after `es` happened. -/
structure Accounted (es : History τ) (p : JobPool τ) : Prop where
  /-- The job of the submit that holds the lock. -/
  pending : p.pending = (desk es).pending
  /-- A job gets a thread, or goes back, or its submit holds the lock. -/
  answered : (submitted es).Perm (accepted es ++ rejected es ++ p.pending.toList)
  /-- There is a thread for every accepted job, and for nothing else. -/
  length : p.jobs.length = (accepted es).length
  /-- An accepted job is still carried by its thread, or began once, there and nowhere else. -/
  fates : ∀ (i : Nat) (job : τ) (w : Whereabouts τ), (accepted es)[i]? = some job →
    p.jobs[i]? = some w → Fate job w (ofThread i (begun es)) (ofThread i (finished es))
  /-- Only threads run jobs. -/
  known : ∀ x ∈ begun es ++ finished es, x.1 < p.jobs.length

theorem ofThread_append (i : Nat) (xs ys : List (Nat × τ)) :
    ofThread i (xs ++ ys) = ofThread i xs ++ ofThread i ys := by
  rw [ofThread, List.filter_append, List.map_append, ofThread, ofThread]

theorem ofThread_singleton (i k : Nat) (job : τ) :
    ofThread i [(k, job)] = if k = i then [job] else [] := by
  by_cases h : k = i <;> simp [ofThread, h]

theorem mem_ofThread {i : Nat} {job : τ} {xs : List (Nat × τ)} :
    job ∈ ofThread i xs ↔ (i, job) ∈ xs := by
  simp [ofThread]

/-- A thread that is not there runs no job. -/
theorem ofThread_eq_nil {i : Nat} {xs : List (Nat × τ)} (h : ∀ x ∈ xs, x.1 < i) :
    ofThread i xs = [] := by
  rw [List.eq_nil_iff_forall_not_mem]
  exact fun job hjob => Nat.lt_irrefl i (h _ (mem_ofThread.1 hjob))

/-- A thread begins the job it was made for, once, or nothing. -/
theorem Accounted.begun_of_thread {es : History τ} {p : JobPool τ} (h : Accounted es p) (i : Nat) :
    ofThread i (begun es) = [] ∨
      ∃ job, (accepted es)[i]? = some job ∧ ofThread i (begun es) = [job] := by
  by_cases hi : i < p.jobs.length
  · have hjob := List.getElem?_eq_getElem (h.length ▸ hi)
    exact (h.fates i _ _ hjob (List.getElem?_eq_getElem hi)).begun_eq.imp_right
      fun hb => ⟨_, hjob, hb⟩
  · obtain ⟨hb, -⟩ := List.forall_mem_append.1 h.known
    exact .inl (ofThread_eq_nil fun x hx => Nat.lt_of_lt_of_le (hb x hx) (Nat.not_lt.1 hi))

section Step

variable {es : History τ} {o : Occurrence (Action τ) (Outcome τ)} {p q : JobPool τ} {d : Deed τ}

theorem Accounted.pending_step (h : Accounted es p) (hd : deed o = d) (hh : Handles p q d) :
    q.pending = (desk (es ++ [o])).pending := by
  rw [desk_snoc, Desk.next, hd]
  cases hh with
  | nothing _ hq | refused _ hq | began _ _ hq | ended _ _ hq => exact hq.trans h.pending
  | opened _ _ hq | declined _ _ hq | accepted _ _ hq => exact hq

/-- The job of the submit that gets a thread is the last one accepted. -/
theorem Accounted.accepted_snoc (h : Accounted es p) :
    accepted (es ++ [o]) = accepted es ++ match deed o with
      | .accepted => p.pending.toList
      | _ => [] := by
  rw [accepted, desk_snoc, Desk.next, h.pending, accepted]
  cases deed o <;> simp

theorem Accounted.answered_step (h : Accounted es p) {a : Action τ}
    {e : Effect (JobPool τ) (Outcome τ)} (ht : Transition p a e) (hd : deed (e.after a) = d)
    (hh : Handles p e.state d) :
    (submitted (es ++ [e.after a])).Perm
      (accepted (es ++ [e.after a]) ++ rejected (es ++ [e.after a]) ++ e.state.pending.toList) := by
  obtain ⟨hs, hr⟩ := ht.answers
  rw [submitted_append, rejected_append, h.accepted_snoc, hs, hr, hd]
  have hperm := h.answered
  cases hh with
  | nothing _ hq | began _ _ hq | ended _ _ hq => simpa [hq] using hperm
  | opened _ hnone hq => simpa [hq, hnone] using hperm.append_right _
  | declined _ hsome hq => simpa [hq, hsome] using hperm
  | @refused job _ hq =>
    -- The job goes back at once, before that of the submit that holds the lock.
    have hswap : (p.pending.toList ++ [job]).Perm ([job] ++ p.pending.toList) :=
      List.perm_append_comm
    have hback := hswap.append_left (accepted es ++ rejected es)
    simpa [hq] using (hperm.append_right [job]).trans (by simpa using hback)
  | @accepted job _ hsome hq =>
    have hswap : (rejected es ++ [job]).Perm ([job] ++ rejected es) := List.perm_append_comm
    have hlast := hswap.append_left (accepted es)
    simpa [hq, hsome] using hperm.trans (by simpa [hsome] using hlast)

theorem Accounted.length_step (h : Accounted es p) (hd : deed o = d) (hh : Handles p q d) :
    q.jobs.length = (accepted (es ++ [o])).length := by
  rw [h.accepted_snoc, hd, List.length_append, ← h.length]
  cases hh with
  | nothing hq | refused hq | opened hq | declined hq => rw [hq]; rfl
  | accepted hq hsome => rw [hq, hsome, List.length_append]; rfl
  | began _ hq | ended _ hq => rw [hq, List.length_set]; rfl

/-- The pool keeps its threads. -/
theorem Handles.length_le (hh : Handles p q d) : p.jobs.length ≤ q.jobs.length := by
  cases hh with
  | nothing hq | refused hq | opened hq | declined hq => exact Nat.le_of_eq (by rw [hq])
  | accepted hq => simp [hq]
  | began _ hq | ended _ hq => exact Nat.le_of_eq (by rw [hq, List.length_set])

/-- Only threads of the pool begin and end jobs. -/
theorem Accounted.known_step (h : Accounted es p) (hd : deed o = d) (hh : Handles p q d) :
    ∀ x ∈ begun (es ++ [o]) ++ finished (es ++ [o]), x.1 < q.jobs.length := by
  obtain ⟨hb, hf⟩ := List.forall_mem_append.1 h.known
  have old (x : Nat × τ) (hx : x.1 < p.jobs.length) : x.1 < q.jobs.length :=
    Nat.lt_of_lt_of_le hx hh.length_le
  rw [begun_snoc, finished_snoc, hd]
  refine List.forall_mem_append.2 ⟨List.forall_mem_append.2 ⟨fun x hx => old x (hb x hx), ?_⟩,
    List.forall_mem_append.2 ⟨fun x hx => old x (hf x hx), ?_⟩⟩
  · cases hh with
    | began hk => exact List.forall_mem_singleton.2 (old _ (List.getElem?_eq_some_iff.1 hk).1)
    | _ => exact fun _ hx => absurd hx List.not_mem_nil
  · cases hh with
    | ended hk => exact List.forall_mem_singleton.2 (old _ (List.getElem?_eq_some_iff.1 hk).1)
    | _ => exact fun _ hx => absurd hx List.not_mem_nil

/-- The fates of the accepted jobs after a step, which moves at most the job of one thread, or
    adds a thread. -/
theorem Accounted.fates_step (h : Accounted es p) (hd : deed o = d) (hh : Handles p q d) {i : Nat}
    {job : τ} {w : Whereabouts τ} (hi : (accepted (es ++ [o]))[i]? = some job)
    (hw : q.jobs[i]? = some w) :
    Fate job w (ofThread i (begun (es ++ [o]))) (ofThread i (finished (es ++ [o]))) := by
  rw [h.accepted_snoc, hd] at hi
  rw [begun_snoc, finished_snoc, hd]
  cases hh with
  | nothing hq | refused hq | opened hq | declined hq =>
    rw [hq] at hw
    simpa using h.fates i job w (by simpa using hi) hw
  | @accepted new hq hsome =>
    rw [hsome, Option.toList_some] at hi
    rw [hq] at hw
    by_cases hlt : i < p.jobs.length
    · rw [List.getElem?_append_left hlt] at hw
      rw [List.getElem?_append_left (h.length ▸ hlt)] at hi
      simpa using h.fates i job w hi hw
    · -- The new thread ran nothing yet.
      have hlen := (List.getElem?_eq_some_iff.1 hi).1
      rw [List.length_append, ← h.length, List.length_singleton] at hlen
      obtain rfl : i = p.jobs.length := by omega
      rw [List.getElem?_concat_length] at hw
      rw [h.length, List.getElem?_concat_length] at hi
      obtain rfl := Option.some.inj hw
      obtain ⟨hb, hf⟩ := List.forall_mem_append.1 h.known
      refine ⟨Option.some.inj hi, ?_, ?_⟩
      · simpa using ofThread_eq_nil hb
      · simpa using ofThread_eq_nil hf
  | @began k x hk hq =>
    rw [List.append_nil] at hi
    rw [hq] at hw
    by_cases hik : k = i
    · subst hik
      obtain rfl := Option.some.inj ((getElem?_set_self_of_some hk _).symm.trans hw)
      obtain ⟨rfl, hb, hf⟩ := h.fates k job _ hi hk
      refine ⟨rfl, ?_, ?_⟩ <;> simp [ofThread_append, ofThread_singleton, hb, hf]
    · rw [List.getElem?_set_ne hik] at hw
      simpa [ofThread_append, ofThread_singleton, hik] using h.fates i job w hi hw
  | @ended k x hk hq =>
    rw [List.append_nil] at hi
    rw [hq] at hw
    by_cases hik : k = i
    · subst hik
      obtain rfl := Option.some.inj ((getElem?_set_self_of_some hk _).symm.trans hw)
      obtain ⟨rfl, hb, hf⟩ := h.fates k job _ hi hk
      refine ⟨?_, ?_⟩ <;> simp [ofThread_append, ofThread_singleton, hb, hf]
    · rw [List.getElem?_set_ne hik] at hw
      simpa [ofThread_append, ofThread_singleton, hik] using h.fates i job w hi hw

end Step

/-- No job of a pool is lost, and none is in two places. -/
theorem IsRun.accounted {permits : UInt32} {es : History τ} {p : JobPool τ}
    (h : IsRun permits es p) : Accounted es p := by
  refine h.induction Accounted (fun _ => ?_) fun es p a e _ ht ih => ?_
  · exact {
      pending := rfl
      answered := .nil
      length := rfl
      fates := fun i job w hi => by cases hi
      known := fun x hx => absurd hx List.not_mem_nil }
  · obtain ⟨d, hd, hh⟩ := ht.handles
    exact {
      pending := ih.pending_step hd hh
      answered := ih.answered_step ht hd hh
      length := ih.length_step hd hh
      fates := fun _ _ _ hi hw => ih.fates_step hd hh hi hw
      known := ih.known_step hd hh }

end JobPool

end Threading

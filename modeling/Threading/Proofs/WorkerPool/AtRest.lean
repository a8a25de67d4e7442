import Threading.Proofs.Calls
import Threading.Proofs.WorkerPool.Outcome
import Threading.Proofs.WorkerPool.Progress

/-!
# Pools at rest

Any number of destroys may be under way at once, but only one of them takes the
tasks that are left. Once a destroy has returned on a thread outside the pool,
the pool is *at rest* (`AtRest`): it is shut down, its workers are gone, nothing is
queued, and nobody is about to return a number of tasks but `0`. A pool at rest
stays so (`Transition.atRest`).

* `IsRun.counted`: before that, every destroy returns `0`; the first one that
  returns on the outside returns the number of tasks that went without having
  run, and whatever returns later is `0` again.
* `IsRun.exists_return`: in a pool at rest, every destroy comes to its end, by the
  steps of the destroys alone, since each step leaves them less to do
  (`remaining`).

One kind of task goes uncounted: if the last reference to the pool goes in one of
its own tasks, then the tasks still queued when the last worker lets go of the
list go with it, and no destroy is left to return their number
(`freed_uncounted_after_abandon`).
-/

namespace Threading

/-- The most steps that a destroy of a pool with `count` workers has left. -/
def Destroying.remaining (count : Nat) : Destroying → Nat
  | .asking k => (count - k) + 2 * count + 7
  | .shutting _ => 2 * count + 6
  | .waiting => 2 * count + 5
  | .joining k => 2 * (count - k) + 4
  | .collecting k => 2 * (count - k) + 3
  | .taking => 3
  | .dropping _ => 2

namespace WorkerPool

variable {τ : Type}

/-- Nothing is left to happen in the pool, but for destroys that find nothing to do. -/
structure AtRest (p : WorkerPool τ) : Prop where
  shutdown : p.shutdown = true
  tasks : p.tasks = []
  gone : ∀ w ∈ p.workers, w.isGone = true
  returning : ∀ c count, p.destroying c = some (.dropping count) → count = 0

section Step

variable {p : WorkerPool τ} {a : Action τ} {e : Effect (WorkerPool τ) (Outcome τ)}

/-- Once the pool is shut down, nothing is queued again. -/
theorem Transition.tasks_eq_nil (ht : Transition p a e) (hs : p.shutdown = true)
    (hp : p.tasks = []) : e.state.tasks = [] := by
  cases ht with
  | accept _ hopen => simp [hs] at hopen
  | rouse _ hopen => simp [hs] at hopen
  | take _ _ htasks => simp [hp] at htasks
  | _ => first | exact hp | rfl

/-- A pool at rest stays at rest. -/
theorem Transition.atRest (ht : Transition p a e) (hs : ∀ w ∈ p.workers, w.Sound)
    (h : AtRest p) : AtRest e.state where
  shutdown := ht.shutdown h.shutdown
  tasks := ht.tasks_eq_nil h.shutdown h.tasks
  gone w' hw' := by
    obtain ⟨i, w, hw, hc⟩ := ht.mem_changed hw'
    have hmem := List.mem_of_getElem? hw
    exact hc.isGone (hs w hmem) (h.gone w hmem)
  returning c count hd := by
    obtain ⟨o, ho, hg⟩ := ht.goes_to hd
    cases hg with
    | same => exact h.returning c count ho
    | takes => rw [pending, h.tasks, List.length_nil]

/-- In a pool at rest no task is accepted, begun or freed. -/
theorem Transition.idle (ht : Transition p a e) (h : AtRest p) :
    accepted [e.after a] = [] ∧ begun [e.after a] = [] ∧ freed [e.after a] = [] := by
  cases ht with
  | accept _ hopen => simp [h.shutdown] at hopen
  | rouse _ hopen => simp [h.shutdown] at hopen
  | take _ _ htasks => simp [h.tasks] at htasks
  | move _ m => cases m <;> exact ⟨rfl, rfl, rfl⟩
  | spend => exact ⟨rfl, rfl, by simp [freed, deed, Effect.after, h.tasks]⟩
  | drain => exact ⟨rfl, rfl, by simp [freed, deed, Effect.after, h.tasks]⟩
  | abandonLast => exact ⟨rfl, rfl, by simp [freed, deed, Effect.after, h.tasks]⟩
  | _ => exact ⟨rfl, rfl, rfl⟩

theorem Transition.keys (ht : Transition p a e) (h : (p.destroys.map Prod.fst).Nodup) :
    (e.state.destroys.map Prod.fst).Nodup := by
  cases ht with
  | call _ hd _ => exact Calls.nodup_begin h hd
  | shutInside => exact Calls.nodup_finish h
  | finishDestroy => exact Calls.nodup_finish h
  | _ => first | exact h | simpa only [setDestroying, Calls.callers_move] using h

end Step

section IsRun

variable {label : String} {answers : List (Except Refusal ThreadId)} {es : History τ}
  {p : WorkerPool τ} {a : Action τ} {e : Effect (WorkerPool τ) (Outcome τ)}

/-- A destroy returns `0` on a thread of the pool, and on any other thread what it dropped. -/
theorem IsRun.of_results (h : IsRun label answers es p) (ht : Transition p a e)
    {x : ThreadId × Nat} (hx : x ∈ results [e.after a]) :
    (x.1 ∈ granted answers ∧ x.2 = 0) ∨
      (x.1 ∉ granted answers ∧ a = .proceed x.1 ∧ p.destroying x.1 = some (.dropping x.2)) := by
  cases ht with
  | move _ m => cases m <;> cases hx
  | @shutInside c hd =>
    obtain rfl := List.mem_singleton.1 hx
    obtain ⟨i, w, hw, hwc⟩ := h.teardown.inside c hd
    exact .inl ⟨h.mem_granted_iff.2 ⟨w, List.mem_of_getElem? hw, hwc⟩, rfl⟩
  | @finishDestroy c count hd =>
    obtain rfl := List.mem_singleton.1 hx
    exact .inr ⟨h.not_mem_granted ((h.teardown.holder c).2 ⟨_, hd, rfl⟩), rfl, hd⟩
  | _ => cases hx

/-- No thread has two destroys under way. -/
theorem IsRun.keys (h : IsRun label answers es p) : (p.destroys.map Prod.fst).Nodup :=
  h.induction (fun _ q => (q.destroys.map Prod.fst).Nodup) (fun _ _ _ => List.nodup_nil)
    fun _ _ _ _ _ _ ht ih => ht.keys ih

/-- A destroy that is about to return took the list away. -/
theorem IsRun.drained_of_dropping (h : IsRun label answers es p) {c : ThreadId} {count : Nat}
    (hd : p.destroying c = some (.dropping count)) : drained es = true := by
  revert hd
  refine h.induction (fun fs q => q.destroying c = some (.dropping count) → drained fs = true)
    (fun _ _ _ hd => (by cases hd)) fun fs q a e _ _ ht ih hd => ?_
  obtain ⟨o, ho, hg⟩ := ht.goes_to hd
  rw [drained_snoc, Bool.or_eq_true]
  cases hg with
  | same => exact .inl (ih ho)
  | takes ha =>
    subst ha
    rw [ht.of_taking ho]
    exact .inr rfl

theorem Transition.state_of_dropping {c : ThreadId} {count : Nat}
    (ht : Transition p (.proceed c) e) (hd : p.destroying c = some (.dropping count)) :
    e.state = { p with teardown := none }.endDestroying c := by
  cases ht with
  | move _ m => cases m
  | finishDestroy => rfl
  | _ => simp_all

theorem Transition.freed_of_dropping {c : ThreadId} {count : Nat}
    (ht : Transition p (.proceed c) e) (hd : p.destroying c = some (.dropping count)) :
    freed [e.after (.proceed c)] = [] := by
  cases ht with
  | move _ m => cases m
  | drain htaking => simp [hd] at htaking
  | _ => rfl

/-- When a destroy that took the list away returns, the pool is at rest. -/
theorem IsRun.atRest_of_returning (h : IsRun label answers es p) {c : ThreadId} {count : Nat}
    (ht : Transition p (.proceed c) e) (hd : p.destroying c = some (.dropping count)) :
    AtRest e.state := by
  have hT := h.teardown
  rw [ht.state_of_dropping hd]
  refine ⟨hT.shut c _ hd rfl, (h.accounted.taken (h.drained_of_dropping hd)).2,
    fun w hw => ?_, fun x n hx => ?_⟩
  · obtain ⟨i, hi⟩ := List.getElem?_of_mem hw
    exact hT.swept i w c _ hi hd rfl
  · -- The destroy that returns held the lock, so no other one took the list.
    rw [destroying_endDestroying] at hx
    split at hx
    · cases hx
    · next hne => exact absurd (hT.eq_of_holdsLock hx hd rfl rfl) hne

/-- What the destroys returned, once one of them has returned on a thread outside the
    pool: the number of tasks that were freed, and all of it at once. -/
structure Counted (es : History τ) (p : WorkerPool τ) : Prop where
  atRest : AtRest p
  once : (results es).countP (fun x => x.2 != 0) ≤ 1
  sum : ((results es).map Prod.snd).sum = (freed es).length

/-- As long as no destroy has returned on a thread outside the pool, all returned `0`. -/
theorem IsRun.results_inside (h : IsRun label answers es p) :
    ∀ x ∈ results es, x.1 ∈ granted answers → x.2 = 0 := by
  refine h.induction (fun fs _ => ∀ x ∈ results fs, x.1 ∈ granted answers → x.2 = 0)
    (fun _ _ _ => nofun) fun fs q a e hq _ ht ih x hx hin => ?_
  rw [results_append, List.mem_append] at hx
  rcases hx with hx | hx
  · exact ih x hx hin
  · rcases hq.of_results ht hx with ⟨-, hzero⟩ | ⟨hout, -, -⟩
    · exact hzero
    · exact absurd hin hout

theorem countP_eq_zero_of_results {xs : List (ThreadId × Nat)} (h : ∀ x ∈ xs, x.2 = 0) :
    xs.countP (fun x => x.2 != 0) = 0 :=
  List.countP_eq_zero.2 fun x hx => by simp [h x hx]

theorem sum_eq_zero_of_results {xs : List (ThreadId × Nat)} (h : ∀ x ∈ xs, x.2 = 0) :
    (xs.map Prod.snd).sum = 0 :=
  List.sum_eq_zero_iff_forall_eq_nat.2 fun _ hn => by
    obtain ⟨x, hx, rfl⟩ := List.mem_map.1 hn
    exact h x hx

/-- The results are as they were but for zeros, and nothing was freed. -/
theorem Counted.snoc (h : Counted es p) (hrest : AtRest e.state)
    (hfreed : freed [e.after a] = []) (hzero : ∀ x ∈ results [e.after a], x.2 = 0) :
    Counted (es ++ [e.after a]) e.state := by
  refine ⟨hrest, ?_, ?_⟩
  · rw [results_append, List.countP_append, countP_eq_zero_of_results hzero]
    exact h.once
  · rw [results_append, freed_append, hfreed, List.append_nil, List.map_append, List.sum_append,
      h.sum, sum_eq_zero_of_results hzero, Nat.add_zero]

/-- In a pool at rest, what returns is `0`. -/
theorem IsRun.results_of_atRest (h : IsRun label answers es p) (hrest : AtRest p)
    (ht : Transition p a e) : ∀ x ∈ results [e.after a], x.2 = 0 := by
  intro x hx
  rcases h.of_results ht hx with ⟨-, hzero⟩ | ⟨-, -, hd⟩
  · exact hzero
  · exact hrest.returning _ _ hd

/-- The first destroy that returns on a thread outside the pool returns the number of tasks
    that were freed, and whatever returns later is `0`. -/
theorem IsRun.counted (h : IsRun label answers es p)
    (hout : ∃ x ∈ results es, x.1 ∉ granted answers) : Counted es p := by
  revert hout
  refine h.induction (fun fs q => (∃ x ∈ results fs, x.1 ∉ granted answers) → Counted fs q)
    (fun _ _ _ ⟨_, hx, _⟩ => absurd hx List.not_mem_nil) fun fs q a e hq _ ht ih hout => ?_
  by_cases hfs : ∃ x ∈ results fs, x.1 ∉ granted answers
  · have hc := ih hfs
    exact hc.snoc (ht.atRest hq.sound hc.atRest) (ht.idle hc.atRest).2.2
      (hq.results_of_atRest hc.atRest ht)
  · -- The step is the first return on the outside.
    have hin : ∀ x ∈ results fs, x.1 ∈ granted answers := fun x hx => by
      by_contra hn
      exact hfs ⟨x, hx, hn⟩
    obtain ⟨x, hx, hxout⟩ := hout
    rw [results_append, List.mem_append] at hx
    have hx := hx.resolve_left fun hx => hfs ⟨x, hx, hxout⟩
    obtain ⟨hin', -⟩ | ⟨-, rfl, hd⟩ := hq.of_results ht hx
    · exact absurd hin' hxout
    · have hzero : ∀ x ∈ results fs, x.2 = 0 := fun x hx => hq.results_inside x hx (hin x hx)
      have hdropping := hq.dropping (hq.teardown.not_abandoned hd) hin
      have hcount := (hdropping.counted _ _ hd).2
      have hfreed : freed [e.after (.proceed x.1)] = [] := ht.freed_of_dropping hd
      refine ⟨hq.atRest_of_returning ht hd, ?_, ?_⟩
      · rw [results_append, List.countP_append, countP_eq_zero_of_results hzero,
          ht.of_dropping hd, Nat.zero_add]
        exact List.countP_le_length
      · rw [results_append, freed_append, hfreed, List.append_nil, List.map_append, List.sum_append,
          sum_eq_zero_of_results hzero, ht.of_dropping hd, ← hcount, Nat.zero_add]
        rfl

/-! ## Every destroy comes to its end -/

/-- What all destroys under way have left to do. -/
def remaining (p : WorkerPool τ) : Nat :=
  Calls.total (Destroying.remaining p.workers.length) p.destroys

theorem remaining_lt_of_move {q : WorkerPool τ} {c : ThreadId} {d d' : Destroying}
    (hn : (p.destroys.map Prod.fst).Nodup) (hd : p.destroying c = some d)
    (hq : q.destroys = Calls.move p.destroys c d') (hw : q.workers.length = p.workers.length)
    (hlt : d'.remaining p.workers.length < d.remaining p.workers.length) :
    q.remaining < p.remaining := by
  have htotal := Calls.total_move (Destroying.remaining p.workers.length) (d := d') hn hd
  rw [remaining, remaining, hq, hw]
  omega

theorem remaining_lt_of_finish {q : WorkerPool τ} {c : ThreadId} {d : Destroying}
    (hn : (p.destroys.map Prod.fst).Nodup) (hd : p.destroying c = some d)
    (hq : q.destroys = Calls.finish p.destroys c) (hw : q.workers.length = p.workers.length)
    (hlt : 0 < d.remaining p.workers.length) : q.remaining < p.remaining := by
  have htotal := Calls.total_finish (Destroying.remaining p.workers.length) hn hd
  rw [remaining, remaining, hq, hw]
  omega

/-- Each step of a destroy leaves the destroys less to do. -/
theorem Transition.remaining_lt {c : ThreadId} (ht : Transition p (.proceed c) e)
    (hn : (p.destroys.map Prod.fst).Nodup) : e.state.remaining < p.remaining := by
  have hlt {k : Nat} {w : Worker τ} (hw : p.workers[k]? = some w) : k < p.workers.length :=
    (List.getElem?_eq_some_iff.1 hw).1
  cases ht with
  | move _ m => cases m
  | ask hd hw =>
    refine remaining_lt_of_move hn hd rfl rfl ?_
    have := hlt hw
    split <;> simp only [Destroying.remaining] <;> omega
  | asked hd _ => exact remaining_lt_of_move hn hd rfl rfl (by simp only [Destroying.remaining]; omega)
  | shutInside hd =>
    exact remaining_lt_of_finish hn hd rfl (by simp) (by simp [Destroying.remaining])
  | shutOutside hd =>
    exact remaining_lt_of_move hn hd rfl (by simp) (by simp [Destroying.remaining])
  | lock hd _ => exact remaining_lt_of_move hn hd rfl rfl (by simp [Destroying.remaining])
  | pass hd hw _ =>
    have := hlt hw
    exact remaining_lt_of_move hn hd rfl rfl (by simp only [Destroying.remaining]; omega)
  | mark hd _ _ _ =>
    exact remaining_lt_of_move hn hd rfl (by simp) (by simp [Destroying.remaining])
  | collect hd hw _ _ _ =>
    have := hlt hw
    exact remaining_lt_of_move hn hd rfl (by simp) (by simp only [Destroying.remaining]; omega)
  | swept hd _ => exact remaining_lt_of_move hn hd rfl rfl (by simp [Destroying.remaining])
  | drain hd => exact remaining_lt_of_move hn hd rfl rfl (by simp [Destroying.remaining])
  | finishDestroy hd =>
    exact remaining_lt_of_finish hn hd rfl rfl (by simp [Destroying.remaining])

/-- In a pool at rest, some destroy can go on while any is under way. -/
theorem IsRun.exists_proceed (h : IsRun label answers es p) (hrest : AtRest p) {c : ThreadId}
    {d : Destroying} (hd : p.destroying c = some d) :
    ∃ x e, p.step (.proceed x) = some e := by
  have hcollect {k : Nat} {w : Worker τ} (hw : p.workers[k]? = some w) : w.isGone = true :=
    hrest.gone w (List.mem_of_getElem? hw)
  cases hc : p.proceed c with
  | some e => exact ⟨c, e, hc⟩
  | none =>
    rcases h.proceed_eq_none hd hc with ⟨-, x, hx⟩ | ⟨k, w, -, hw, hgone⟩
    · -- Somebody else holds the lock, and nothing holds him up.
      obtain ⟨f, hf, hlock⟩ := (h.teardown.holder x).1 hx
      cases hp : p.proceed x with
      | some e => exact ⟨x, e, hp⟩
      | none =>
        rcases h.proceed_eq_none hf hp with ⟨rfl, -⟩ | ⟨k, w, -, hw, hgone⟩
        · cases hlock
        · simp [hcollect hw] at hgone
    · simp [hcollect hw] at hgone

/-- A destroy that is under way no more has returned. -/
theorem Transition.exists_result {c : ThreadId} {d : Destroying} (ht : Transition p a e)
    (hd : p.destroying c = some d) (hover : e.state.destroying c = none) :
    ∃ count, (c, count) ∈ results [e.after a] := by
  obtain ⟨o, ho, hg⟩ := ht.goes_from hd
  rw [hover] at ho
  subst ho
  cases hg with
  | leaves ha =>
    subst ha
    cases ht with
    | move _ m => cases m
    | shutInside => exact ⟨0, List.mem_singleton_self _⟩
    | _ => simp_all
  | @ends count ha =>
    subst ha
    exact ⟨count, by simp [ht.of_dropping hd]⟩

/-- In a pool at rest, every destroy returns `0` in the end, by steps of destroys alone. -/
theorem IsRun.exists_return (h : IsRun label answers es p) (hrest : AtRest p) {c : ThreadId}
    {d : Destroying} (hd : p.destroying c = some d) :
    ∃ gs q, Run step p gs q ∧ (∀ o ∈ gs, ∃ x, o.action = .proceed x) ∧ (c, 0) ∈ results gs := by
  -- Each step leaves less to do, so one of them is the return of `c`.
  induction hr : p.remaining using Nat.strongRecOn generalizing p es d with
  | _ n ih =>
    obtain ⟨x, e, he⟩ := h.exists_proceed hrest hd
    have ht := transition_of_step h.sound he
    have hzero := h.results_of_atRest hrest ht
    cases hover : e.state.destroying c with
    | none =>
      obtain ⟨count, hcount⟩ := ht.exists_result hd hover
      obtain rfl : count = 0 := hzero _ hcount
      refine ⟨[e.after (.proceed x)], e.state, .snoc .nil he, fun o ho => ⟨x, ?_⟩, hcount⟩
      rw [List.mem_singleton.1 ho]
      rfl
    | some d' =>
      obtain ⟨gs, q, hrun, hgs, hreturn⟩ := ih e.state.remaining (hr ▸ ht.remaining_lt h.keys)
        (h.snoc he) (ht.atRest h.sound hrest) hover rfl
      refine ⟨[e.after (.proceed x)] ++ gs, q, .cons he hrun, fun o ho => ?_, ?_⟩
      · rcases List.mem_append.1 ho with ho | ho
        · exact ⟨x, by rw [List.mem_singleton.1 ho]; rfl⟩
        · exact hgs o ho
      · rw [results_append]
        exact List.mem_append_right _ hreturn

/-! ## Nothing changes any more -/

theorem AtRest.liveWorkers (h : AtRest p) (hs : ∀ w ∈ p.workers, w.Sound) : p.liveWorkers = 0 :=
  List.countP_eq_zero.2 fun w hw => by simp [(hs w hw).alive_of_isGone (h.gone w hw)]

/-- While `fs` happened to the pool `p`, which is `q` now, nothing came of it, and nothing
    that can be asked of the pool changed. -/
structure Unchanged (p : WorkerPool τ) (fs : History τ) (q : WorkerPool τ) : Prop where
  workerCount : q.workerCount = p.workerCount
  spawnedWorkers : q.spawnedWorkers = p.spawnedWorkers
  liveWorkers : q.liveWorkers = p.liveWorkers
  pending : q.pending = p.pending
  shutdown : q.shutdown = p.shutdown
  accepted : accepted fs = []
  begun : begun fs = []
  /-- Whoever has a reference to the pool may submit a task, which goes back to be dropped. -/
  refuses : q.abandoned = false → ∀ task memory chosen, q.step (.submit task memory chosen) =
    some { state := q, outcome := .rejected .shutDown task }
  returned : ∀ x ∈ results fs, x.2 = 0
  /-- A destroy that did not return yet can, and needs nobody but the other destroys. -/
  returns : ∀ c d, q.destroying c = some d → ∃ gs r, Run step q gs r ∧
    (∀ o ∈ gs, ∃ x, o.action = .proceed x) ∧ (c, 0) ∈ results gs

/-- A pool at rest is a fixed point. -/
theorem IsRun.unchanged (h : IsRun label answers es p) (hrest : AtRest p) {fs : History τ}
    {q : WorkerPool τ} (hrun : Run step p fs q) : Unchanged p fs q := by
  have hq := h.append hrun
  obtain ⟨hqrest, hacc, hbegun, hzero⟩ : AtRest q ∧ accepted fs = [] ∧ begun fs = [] ∧
      ∀ x ∈ results fs, x.2 = 0 := by
    refine hrun.invariant (fun fs q => AtRest q ∧ accepted fs = [] ∧ begun fs = [] ∧
      ∀ x ∈ results fs, x.2 = 0) ⟨hrest, rfl, rfl, nofun⟩ ?_
    intro gs v a e hv ⟨hvrest, hacc, hbegun, hzero⟩ he
    have hvrun := h.append hv
    have ht := transition_of_step hvrun.sound he
    obtain ⟨hacc', hbegun', -⟩ := ht.idle hvrest
    refine ⟨ht.atRest hvrun.sound hvrest, ?_, ?_, fun x hx => ?_⟩
    · rw [accepted_append, hacc, hacc', List.append_nil]
    · rw [begun_append, hbegun, hbegun', List.append_nil]
    · rw [results_append, List.mem_append] at hx
      rcases hx with hx | hx
      · exact hzero x hx
      · exact hvrun.results_of_atRest hvrest ht x hx
  exact {
    workerCount := by
      simpa [workerCount] using congrArg List.length (hq.threads.trans h.threads.symm)
    spawnedWorkers := by rw [hq.spawnedWorkers_eq, h.spawnedWorkers_eq]
    liveWorkers := by rw [hqrest.liveWorkers hq.sound, hrest.liveWorkers h.sound]
    pending := by rw [pending, pending, hqrest.tasks, hrest.tasks]
    shutdown := by rw [hqrest.shutdown, hrest.shutdown]
    accepted := hacc
    begun := hbegun
    refuses := fun ha task memory chosen => by simp [step, ha, hqrest.shutdown]
    returned := hzero
    returns := fun _ _ hd => hq.exists_return hqrest hd }

/-- A destroy called on a thread outside the pool returns when all workers are gone and nothing
    is queued. At most one destroy returns anything but `0`, and what the destroys return is
    the number of accepted tasks that went without having run, unless the last reference to
    the pool went before a destroy returned on the outside. From then on nothing changes. -/
theorem IsRun.teardown_counted_once (h : IsRun label answers es p) :
    (∀ c e count, p.step (.proceed c) = some e → e.outcome = .returned count →
      c ∉ granted answers → (∀ w ∈ e.state.workers, w.isGone = true) ∧ e.state.pending = 0 ∧
        e.state.liveWorkers = 0) ∧
    (results es).countP (fun x => x.2 != 0) ≤ 1 ∧
    accepted es = (begun es).map Prod.snd ++ freed es ++ p.tasks ∧
    ((∀ c count, p.destroying c ≠ some (.dropping count)) →
      (p.abandoned = true → ∃ x ∈ results es, x.1 ∉ granted answers) →
      ((results es).map Prod.snd).sum = (freed es).length) ∧
    ((∃ x ∈ results es, x.1 ∉ granted answers) →
      ∀ fs q, Run step p fs q → Unchanged p fs q) := by
  refine ⟨fun c e count he hcount hc => ?_, ?_, h.accounted.in_order, fun hdropping hab => ?_,
    fun hout fs q hrun => h.unchanged (h.counted hout).atRest hrun⟩
  · have hd := h.destroying_of_returned he hcount hc
    have hrest := h.atRest_of_returning (transition_of_step h.sound he) hd
    exact ⟨hrest.gone, by rw [pending, hrest.tasks, List.length_nil],
      hrest.liveWorkers (h.snoc he).sound⟩
  · by_cases hout : ∃ x ∈ results es, x.1 ∉ granted answers
    · exact (h.counted hout).once
    · push Not at hout
      rw [countP_eq_zero_of_results fun x hx => h.results_inside x hx (hout x hx)]
      exact Nat.zero_le 1
  · by_cases hout : ∃ x ∈ results es, x.1 ∉ granted answers
    · exact (h.counted hout).sum
    · -- Only a destroy that is about to return can have taken the list away.
      have ha : p.abandoned = false := by simpa using fun ha => hout (hab ha)
      push Not at hout
      have hnot : drained es = false := by
        by_contra hdrained
        obtain ⟨c, count, hd⟩ := (h.dropping ha hout).by_destroy (by simpa using hdrained)
        exact hdropping c count hd
      rw [sum_eq_zero_of_results fun x hx => h.results_inside x hx (hout x hx),
        freed_of_not_drained hnot, List.length_nil]

/-- The task `10` destroys its own pool, drops the last reference to it, which destroys it once
    more, and panics. The task `11`, which was accepted, goes with the list, and is in no result. -/
theorem freed_uncounted_after_abandon :
    ∃ (es : History Nat) (p : WorkerPool Nat), IsRun "pool" [.ok 1] es p ∧ p.destroys = [] ∧
      (∀ w ∈ p.workers, w.isGone = true) ∧ accepted es = [10, 11] ∧ freed es = [11] ∧
      results es = [(1, 0), (1, 0)] ∧
      ((results es).map Prod.snd).sum ≠ (freed es).length := by
  obtain ⟨es, p, h, hf⟩ := exists_isRun "pool" [.ok 1]
    [.advance 0, .advance 0, .advance 0, .submit 10 true none, .advance 0, .submit 11 true none,
      .destroy 1, .proceed 1, .proceed 1, .destroy 1, .proceed 1, .proceed 1, .abandon,
      .taskEnded 0 true, .advance 0, .advance 0, .advance 0, .advance 0]
    (fun es p => (p.destroys.isEmpty && p.workers.all Worker.isGone, accepted es, freed es,
      results es))
    (true, [10, 11], [11], [(1, 0), (1, 0)]) (by decide) (by decide)
  simp only [Prod.mk.injEq, Bool.and_eq_true, List.isEmpty_iff, List.all_eq_true] at hf
  obtain ⟨⟨hd, hgone⟩, hacc, hfreed, hresults⟩ := hf
  refine ⟨es, p, h, hd, hgone, hacc, hfreed, hresults, ?_⟩
  rw [hresults, hfreed]
  decide

/-- Two destroys are called on the outside while the only worker is lost to a panic. The
    second one waits for the first one, which returns `1`, for the task `11`. -/
theorem teardown_counted_once_of_two_destroys :
    ∃ (es : History Nat) (p : WorkerPool Nat), IsRun "pool" [.ok 1] es p ∧
      (results es = [(9, 1)] ∧ freed es = [11] ∧ p.destroying 8 = some .waiting) ∧
      (∀ c e count, p.step (.proceed c) = some e → e.outcome = .returned count →
        c ∉ granted [.ok 1] → (∀ w ∈ e.state.workers, w.isGone = true) ∧ e.state.pending = 0 ∧
          e.state.liveWorkers = 0) ∧
      (results es).countP (fun x => x.2 != 0) ≤ 1 ∧
      accepted es = (begun es).map Prod.snd ++ freed es ++ p.tasks ∧
      ((∀ c count, p.destroying c ≠ some (.dropping count)) →
        (p.abandoned = true → ∃ x ∈ results es, x.1 ∉ granted [.ok 1]) →
        ((results es).map Prod.snd).sum = (freed es).length) ∧
      ((∃ x ∈ results es, x.1 ∉ granted [.ok 1]) →
        ∀ fs q, Run step p fs q → Unchanged p fs q) := by
  obtain ⟨es, p, h, hf⟩ := exists_isRun "pool" [.ok 1]
    [.advance 0, .advance 0, .advance 0, .submit 10 true none, .advance 0, .submit 11 true none,
      .destroy 9, .destroy 8, .proceed 9, .proceed 9, .proceed 9, .proceed 8, .proceed 8, .proceed 8,
      .proceed 9, .proceed 9, .taskEnded 0 true, .advance 0, .advance 0, .advance 0, .advance 0,
      .proceed 9, .proceed 9, .proceed 9, .proceed 9]
    (fun es p => (results es, freed es, p.destroying 8))
    ([(9, 1)], [11], some .waiting) (by decide) (by decide)
  simp only [Prod.mk.injEq] at hf
  exact ⟨es, p, h, hf, h.teardown_counted_once⟩

end IsRun

end WorkerPool

end Threading

import Mathlib.Data.List.Count
import Mathlib.Data.List.Infix
import Threading.Proofs.WorkerPool.Order

/-!
# What becomes of the tasks

A task that panics takes its worker with it. So a pool with `count` threads gets
as far as the shortest prefix of its tasks that holds `count` panics (`served`), on
every schedule (`IsRun.served_when_destroyed`). This takes four laws:

* the panics begun are as many as the workers that are lost, or about to be
  (`IsRun.countP_panics`);
* so no worker is left to take a task after `count` panics (`IsRun.panics_before`);
* a worker leaves for another reason only when nothing is queued any more
  (`IsRun.accepted_eq_of_left`);
* the first destroy that returns on a thread outside the pool freed the tasks,
  and nobody did before (`IsRun.dropping`).
-/

namespace Threading.WorkerPool

variable {τ : Type}

/-- The shortest prefix of `tasks` with `count` tasks that panic, or all of them. -/
def served (panics : τ → Bool) (count : Nat) (tasks : List τ) : List τ :=
  (tasks.inits.find? fun run => count ≤ run.countP panics).getD tasks

/-- Every task that is over panicked if it is one that panics. -/
def follows (panics : τ → Bool) (es : History τ) : Bool :=
  es.all fun o => match o.action, o.outcome with
    | .taskEnded _ panicked, .finished task => panicked == panics task
    | _, _ => true

/-- A prefix that ends with the `count`-th panic, or with the last task. -/
theorem served_eq {panics : τ → Bool} {count : Nat} {run tasks : List τ} (hrun : run <+: tasks)
    (hbefore : ∀ k < run.length, (run.take k).countP panics < count)
    (hend : count ≤ run.countP panics ∨ run = tasks) : served panics count tasks = run := by
  have htake : ∀ k ≤ run.length, tasks.take k = run.take k := by
    intro k hk
    obtain ⟨rest, rfl⟩ := hrun
    exact List.take_append_of_le_length hk
  rw [served]
  by_cases hcount : count ≤ run.countP panics
  -- `run` is the entry number `run.length` of `tasks.inits`, and the first to do.
  · have hfind : (tasks.inits.find? fun run => count ≤ run.countP panics) = some run := by
      rw [List.find?_eq_some_iff_getElem]
      have hlen : run.length < tasks.inits.length := by
        rw [List.length_inits]
        exact Nat.lt_succ_of_le hrun.length_le
      refine ⟨by simpa using hcount, run.length, hlen, ?_, fun j hj => ?_⟩
      · rw [List.getElem_inits, htake _ le_rfl, List.take_length]
      · rw [List.getElem_inits, htake _ hj.le]
        simpa using hbefore j hj
    rw [hfind, Option.getD_some]
  -- Too few tasks panic, so no prefix does.
  · obtain rfl := hend.resolve_left hcount
    have hfind : (run.inits.find? fun r => count ≤ r.countP panics) = none := by
      rw [List.find?_eq_none]
      intro r hr
      have hle := ((List.mem_inits r run).1 hr).sublist.countP_le (p := panics)
      simpa using by omega
    rw [hfind, Option.getD_none]

/-! ## Workers that panics take -/

/-- The worker is lost to a panic, or runs a task that panics. -/
def isDoomed (panics : τ → Bool) (w : Worker τ) : Bool :=
  w.ending? == some true || w.task?.any panics

theorem isDoomed_congr {panics : τ → Bool} {w w' : Worker τ} (he : w'.ending? = w.ending?)
    (ht : w'.task? = w.task?) : isDoomed panics w' = isDoomed panics w := by
  rw [isDoomed, isDoomed, he, ht]

theorem isDoomed_of_isAwake {panics : τ → Bool} {w : Worker τ} (h : w.isAwake = true) :
    isDoomed panics w = false := by
  rw [isDoomed, Worker.ending?_of_isAwake h, Worker.task?_of_isAwake h]
  rfl

theorem countP_lt_countP {α : Type} {f g : α → Bool} {l : List α}
    (hfg : ∀ x ∈ l, f x = true → g x = true) {a : α} (ha : a ∈ l) (hf : f a = false)
    (hg : g a = true) : l.countP f < l.countP g := by
  have hfilter : (l.filter g).countP f = l.countP f := by
    rw [List.countP_filter]
    refine List.countP_congr fun x hx => ?_
    simpa using hfg x hx
  rw [← hfilter, List.countP_eq_length_filter (p := g), List.countP_lt_length_iff]
  exact ⟨a, List.mem_filter.2 ⟨ha, hg⟩, hf⟩

section Step

variable {panics : τ → Bool} {p : WorkerPool τ} {a : Action τ}
  {e : Effect (WorkerPool τ) (Outcome τ)}

/-- A step that begins a task that panics dooms the worker that takes it, and no
    other step changes how many workers are doomed. -/
theorem Transition.countP_isDoomed (ht : Transition p a e)
    (hf : follows panics [e.after a] = true) :
    e.state.workers.countP (isDoomed panics) =
      p.workers.countP (isDoomed panics) + ((begun [e.after a]).map Prod.snd).countP panics := by
  have keeps : ∀ {i : Nat} {w w' : Worker τ}, p.workers[i]? = some w →
      isDoomed panics w' = isDoomed panics w →
      (p.workers.set i w').countP (isDoomed panics) = p.workers.countP (isDoomed panics) := by
    intro i w w' hw hd
    have hset := countP_set_add (f := isDoomed panics) hw w'
    rw [hd] at hset
    exact Nat.add_right_cancel hset
  cases ht with
  | rouse _ _ _ hw hl =>
    exact keeps hw (isDoomed_congr (by simp [Worker.ending?, hl]) (by simp [Worker.task?, hl]))
  | @take i w task _ hw ha _ =>
    -- The worker was not doomed, and is from now on if the task panics.
    have hset := countP_set_add (f := isDoomed panics) hw { w with loop := .running task }
    rw [isDoomed_of_isAwake ha] at hset
    simp only [begun, deed, Effect.after]
    cases hpanics : panics task <;>
      simpa [isDoomed, Worker.ending?, Worker.task?, hpanics] using hset
  | rest hw ha _ =>
    refine keeps hw ?_
    rw [isDoomed_of_isAwake ha]
    split <;> simp [isDoomed, Worker.ending?, Worker.task?]
  | @move i w w' _ o ns hw m =>
    have hnone : begun [(⟨a, o, ns⟩ : Occurrence (Action τ) (Outcome τ))] = [] := by
      cases m <;> rfl
    simp only [Effect.after, hnone]
    exact keeps hw (isDoomed_congr m.ending? (m.task?.2.trans m.task?.1.symm))
  | spend hw m _ _ => exact keeps hw (isDoomed_congr m.ending? (m.task?.2.trans m.task?.1.symm))
  | @finish i w task panicked hw hl _ =>
    -- The worker was doomed before if the task panics.
    have hpanicked : panicked = panics task := by simpa [follows, Effect.after] using hf
    refine keeps hw ?_
    subst hpanicked
    cases hpanics : panics task <;> simp [isDoomed, Worker.ending?, Worker.task?, hl, hpanics]
  | shutInside _ =>
    exact countP_map_of_eq (fun w => isDoomed_congr w.ending?_wake w.task?_wake) _
  | shutOutside _ =>
    exact countP_map_of_eq (fun w => isDoomed_congr w.ending?_wake w.task?_wake) _
  | mark _ hw _ _ => exact keeps hw rfl
  | collect _ hw _ _ _ => exact keeps hw rfl
  | abandon _ _ _ =>
    exact countP_map_of_eq (fun w => isDoomed_congr w.ending?_abandon w.task?_abandon) _
  | abandonLast _ _ _ _ =>
    exact countP_map_of_eq (fun w => isDoomed_congr w.ending?_abandon w.task?_abandon) _
  | _ => rfl

/-- Only a worker that looks at the list begins a task. -/
theorem Transition.of_begun (ht : Transition p a e) {x : Nat × τ} {xs : List (Nat × τ)}
    (hx : begun [e.after a] = x :: xs) :
    xs = [] ∧ ∃ w ∈ p.workers, w.isAwake = true := by
  cases ht with
  | take hw ha _ =>
    cases hx
    exact ⟨rfl, _, List.mem_of_getElem? hw, ha⟩
  | move _ m => cases m <;> cases hx
  | _ => cases hx

end Step

section IsRun

variable {label : String} {answers : List (Except Refusal ThreadId)} {es : History τ}
  {p : WorkerPool τ} {panics : τ → Bool}

theorem follows_append (fs : History τ) :
    follows panics (es ++ fs) = (follows panics es && follows panics fs) := List.all_append

/-- The panics begun are as many as the workers that are lost, or about to be. -/
theorem IsRun.countP_panics (h : IsRun label answers es p) (hf : follows panics es = true) :
    ((begun es).map Prod.snd).countP panics = p.workers.countP (isDoomed panics) := by
  revert hf
  refine h.induction (fun fs q => follows panics fs = true →
    ((begun fs).map Prod.snd).countP panics = q.workers.countP (isDoomed panics)) ?_
    fun fs q a e _ _ ht ih hf => ?_
  · intro workers hfresh _ _
    refine (List.countP_eq_zero.2 fun w hw => ?_).symm
    rw [isDoomed, (hfresh w hw).ending?, Worker.task?, (hfresh w hw).outside]
    exact Bool.false_ne_true
  · rw [follows_append, Bool.and_eq_true] at hf
    rw [begun_append, List.map_append, List.countP_append, ih hf.1, ht.countP_isDoomed hf.2]

theorem thread?_isSome_of_isDoomed {w : Worker τ} (h : w.Sound)
    (hd : isDoomed panics w = true) : w.thread?.isSome = true := by
  rw [isDoomed, Bool.or_eq_true, beq_iff_eq, Option.any_eq_true] at hd
  rcases hd with he | ⟨task, htask, -⟩
  · exact h.thread?_isSome_of_ending? he
  · exact h.thread?_isSome (by simp [Worker.task?_eq_some_iff.1 htask])

/-- No worker is left to take a task after as many panics as there are threads. -/
theorem IsRun.panics_before (h : IsRun label answers es p) (hf : follows panics es = true) :
    ∀ k < ((begun es).map Prod.snd).length,
      (((begun es).map Prod.snd).take k).countP panics < (granted answers).length := by
  revert hf
  refine h.induction (fun fs q => follows panics fs = true →
    ∀ k < ((begun fs).map Prod.snd).length,
      (((begun fs).map Prod.snd).take k).countP panics < (granted answers).length) ?_
    fun fs q a e hq _ ht ih hf k hk => ?_
  · intro workers _ _ _ k hk
    exact absurd hk (Nat.not_lt_zero k)
  · rw [follows_append, Bool.and_eq_true] at hf
    rw [begun_append, List.map_append] at hk ⊢
    by_cases hkfs : k < ((begun fs).map Prod.snd).length
    · rw [List.take_append_of_le_length hkfs.le]
      exact ih hf.1 k hkfs
    · -- The task that the step begins: its worker was not lost before.
      cases hb : begun [e.after a] with
      | nil => simp [hb] at hk hkfs; omega
      | cons x xs =>
        obtain ⟨rfl, w, hw, ha⟩ := ht.of_begun hb
        have hk : k = ((begun fs).map Prod.snd).length := by
          simp [hb] at hk hkfs ⊢
          omega
        rw [hk, List.take_left, hq.countP_panics hf.1, hq.length_granted]
        have hs := hq.sound
        exact countP_lt_countP (fun v hv => thread?_isSome_of_isDoomed (hs v hv)) hw
          (isDoomed_of_isAwake ha) ((hs w hw).thread?_isSome (Worker.not_outside_of_isAwake ha))

/-- Once the list was taken away, no worker takes tasks any more. -/
theorem IsRun.isOpen_of_drained (h : IsRun label answers es p) (hd : drained es = true) :
    ∀ w ∈ p.workers, w.isOpen = false := by
  revert hd
  refine h.induction (fun fs q => drained fs = true → ∀ w ∈ q.workers, w.isOpen = false) ?_
    fun fs q a e hq hq' ht ih hd w' hw' => ?_
  · intro workers _ _ hd
    cases hd
  · obtain ⟨i, w, hw, hc⟩ := ht.mem_changed hw'
    have hs := hq.sound_at hw
    have hs' := hq'.sound w' hw'
    rw [drained_snoc, Bool.or_eq_true] at hd
    rcases hd with hd | hd
    · exact hc.isOpen (ih hd w (List.mem_of_getElem? hw))
    · cases ht with
      | move _ m => simp [Effect.after, deed_of_moves m] at hd
      | spend _ _ _ hheld => exact hs'.isOpen_of_holdsList (hheld w' hw')
      | abandonLast _ _ _ hheld => exact hs'.isOpen_of_holdsList (hheld w' hw')
      | drain htaking =>
        -- The destroy takes the list when it is done with all workers.
        exact hc.isOpen (hs.isOpen_of_isGone (hq.teardown.swept i w _ _ hw htaking rfl))
      | _ => cases hd

/-- A worker finds its own way out only if the pool is shut down and nothing is queued. -/
theorem Changes.left {a : Action τ} {i : Nat} {w w' : Worker τ} (hc : Changes p a i w w')
    (he : w'.ending? = some false) :
    w.ending? = some false ∨ w.isAwake = true ∧ p.shutdown = true ∧ p.tasks = [] := by
  cases hc with
  | moves m => exact .inl (m.ending? ▸ he)
  | takes => simp [Worker.ending?] at he
  | rests _ ha hp =>
    cases hs : p.shutdown with
    | true => exact .inr ⟨ha, rfl, hp⟩
    | false => simp [Worker.ending?, hs] at he
  | @ends _ panicked => cases panicked <;> simp [Worker.ending?] at he
  | wakes => simp [Worker.ending?] at he
  | abandoned => exact .inl (w.ending?_abandon ▸ he)
  | _ => exact .inl he

/-- Once a worker found its own way out, every accepted task has begun. -/
theorem IsRun.accepted_eq_of_left (h : IsRun label answers es p) {w : Worker τ}
    (hw : w ∈ p.workers) (he : w.ending? = some false) :
    p.shutdown = true ∧ accepted es = (begun es).map Prod.snd := by
  revert w
  refine h.induction (fun fs q => ∀ {w : Worker τ}, w ∈ q.workers → w.ending? = some false →
    q.shutdown = true ∧ accepted fs = (begun fs).map Prod.snd) ?_
    fun fs q a e hq _ ht ih w' hw' he' => ?_
  · intro workers hfresh _ w hw he
    rw [(hfresh w hw).ending?] at he
    cases he
  · have hacc := hq.accounted
    obtain ⟨i, w, hw, hc⟩ := ht.mem_changed hw'
    have hw := List.mem_of_getElem? hw
    have hall : q.shutdown = true ∧ accepted fs = (begun fs).map Prod.snd := by
      rcases hc.left he' with he | ⟨ha, hs, hp⟩
      · exact ih hw he
      · -- A worker that looks at the list shows that it was not taken away.
        have hnot : drained fs = false := by
          by_contra hd
          have hopen := hq.isOpen_of_drained (by simpa using hd) w hw
          simp [(hq.sound w hw).isOpen_of_isAwake ha] at hopen
        refine ⟨hs, ?_⟩
        rw [hacc.in_order, freed_of_not_drained hnot, hp, List.append_nil, List.append_nil]
    obtain ⟨hs, heq⟩ := hall
    -- Nothing is queued, and nothing comes, so the step neither adds nor begins a task.
    have hnil : q.tasks = [] := by
      have horder := hacc.in_order
      rw [heq, List.append_assoc, List.self_eq_append_right] at horder
      exact (List.append_eq_nil_iff.1 horder).2
    obtain ⟨d, hd, hh⟩ := ht.handles hq.teardown
    refine ⟨ht.shutdown hs, ?_⟩
    rw [accepted_snoc, begun_snoc, hd]
    cases hh with
    | queued hopen _ _ => simp [hs] at hopen
    | began htask _ _ => simp [hnil] at htask
    | _ => simpa using heq

/-! ## The first return -/

section Step

variable {a : Action τ} {e : Effect (WorkerPool τ) (Outcome τ)}

theorem Transition.of_taking {c : ThreadId} (ht : Transition p (.proceed c) e)
    (hd : p.destroying c = some .taking) : deed (e.after (.proceed c)) = .freed p.tasks := by
  cases ht with
  | move _ m => cases m
  | drain => rfl
  | _ => simp_all

theorem Transition.of_dropping {c : ThreadId} {count : Nat} (ht : Transition p (.proceed c) e)
    (hd : p.destroying c = some (.dropping count)) :
    results [e.after (.proceed c)] = [(c, count)] := by
  cases ht with
  | move _ m => cases m
  | finishDestroy hd' =>
    obtain rfl : count = _ := by simpa [hd] using hd'
    rfl
  | _ => simp_all

/-- Tasks are freed by the destroy that holds the teardown lock, unless the pool
    is abandoned. -/
theorem Transition.of_freed (ht : Transition p a e) {tasks : List τ}
    (hd : deed (e.after a) = .freed tasks) (ha : e.state.abandoned = false) :
    ∃ c, p.destroying c = some .taking ∧ e.state.destroying c = some (.dropping tasks.length) := by
  cases ht with
  | move _ m =>
    rw [Effect.after, deed_of_moves m] at hd
    cases hd
  | spend _ _ hab _ => simp [hab] at ha
  | abandonLast => cases ha
  | @drain c htaking =>
    cases hd
    exact ⟨c, htaking, by simp [htaking, pending]⟩
  | _ => cases hd

/-- The tasks were freed by a destroy under way, which will return their number. -/
structure Dropping (es : History τ) (p : WorkerPool τ) : Prop where
  by_destroy : drained es = true → ∃ c count, p.destroying c = some (.dropping count)
  counted : ∀ c count, p.destroying c = some (.dropping count) →
    drained es = true ∧ count = (freed es).length

/-- A destroy frees the tasks: it is the first one. -/
theorem Dropping.snoc_freed (h : Dropping es p) (ht : Transition p a e) (hp : Teardown p)
    (hq : Teardown e.state) (ha : e.state.abandoned = false) {tasks : List τ}
    (hd : deed (e.after a) = .freed tasks) : Dropping (es ++ [e.after a]) e.state := by
  obtain ⟨c, htaking, hdropping⟩ := ht.of_freed hd ha
  have hnot : drained es = false := by
    by_contra hdrained
    -- The destroy that freed tasks before would hold the lock as well.
    obtain ⟨x, count, hx⟩ := h.by_destroy (by simpa using hdrained)
    obtain rfl := hp.eq_of_holdsLock htaking hx rfl rfl
    simp [htaking] at hx
  refine ⟨fun _ => ⟨c, _, hdropping⟩, fun x count hx => ?_⟩
  obtain rfl := hq.eq_of_holdsLock hdropping hx rfl rfl
  rw [hdropping] at hx
  cases hx
  rw [drained_snoc, freed_snoc, hd, freed_of_not_drained hnot]
  exact ⟨Bool.or_true _, rfl⟩

/-- A step frees nothing, and no destroy that freed tasks returns. -/
theorem Dropping.snoc (h : Dropping es p) (ht : Transition p a e)
    (hd : ∀ tasks, deed (e.after a) ≠ .freed tasks)
    (hr : ∀ c count, p.destroying c = some (.dropping count) → a ≠ .proceed c) :
    Dropping (es ++ [e.after a]) e.state := by
  have hsame : drained (es ++ [e.after a]) = drained es ∧ freed (es ++ [e.after a]) = freed es := by
    rw [drained_snoc, freed_snoc]
    cases hdeed : deed (e.after a) with
    | freed tasks => exact absurd hdeed (hd tasks)
    | _ => simp
  refine ⟨fun hdrained => ?_, fun c count hc => ?_⟩
  · obtain ⟨c, count, hc⟩ := h.by_destroy (hsame.1 ▸ hdrained)
    obtain ⟨o, ho, hg⟩ := ht.goes_from hc
    exact ⟨c, count, ho.trans (hg.eq_some (hr c count hc))⟩
  · rw [hsame.1, hsame.2]
    obtain ⟨o, ho, hg⟩ := ht.goes_to hc
    cases hg with
    | same => exact h.counted c count ho
    | takes hac =>
      subst hac
      exact absurd (ht.of_taking ho) (hd p.tasks)

end Step

/-- While no destroy has returned on a thread outside the pool, the tasks are
    freed by a destroy under way. -/
theorem IsRun.dropping (h : IsRun label answers es p) (ha : p.abandoned = false)
    (hr : ∀ x ∈ results es, x.1 ∈ granted answers) : Dropping es p := by
  revert ha hr
  refine h.induction (fun fs q => q.abandoned = false →
    (∀ x ∈ results fs, x.1 ∈ granted answers) → Dropping fs q) ?_
    fun fs q a e hq hq' ht ih ha hr => ?_
  · intro workers _ _ _ _
    exact ⟨(by cases ·), fun _ _ hd => (by cases hd)⟩
  · rw [results_append] at hr
    have hdropping := ih (ht.not_abandoned ha) fun x hx => hr x (List.mem_append_left _ hx)
    by_cases hd : ∃ tasks, deed (e.after a) = .freed tasks
    · obtain ⟨tasks, hd⟩ := hd
      exact hdropping.snoc_freed ht hq.teardown hq'.teardown ha hd
    · refine hdropping.snoc ht (fun tasks htasks => hd ⟨tasks, htasks⟩) ?_
      rintro c count hc rfl
      -- The holder of the lock is no worker, so this is a return on the outside.
      have hin := hr (c, count) (List.mem_append_right _ (by simp [ht.of_dropping hc]))
      exact hq.not_mem_granted ((hq.teardown.holder c).2 ⟨_, hc, rfl⟩) hin

/-- A destroy that is about to return on a thread outside the pool took the list,
    and found all workers gone. -/
theorem IsRun.destroying_of_returned (h : IsRun label answers es p) {c : ThreadId}
    {e : Effect (WorkerPool τ) (Outcome τ)} {count : Nat} (he : p.step (.proceed c) = some e)
    (hcount : e.outcome = .returned count) (hc : c ∉ granted answers) :
    p.destroying c = some (.dropping count) := by
  cases transition_of_step h.sound he with
  | move _ m => cases m
  | shutInside hd =>
    obtain ⟨i, w, hw, hwc⟩ := h.teardown.inside c hd
    exact absurd (h.mem_granted_iff.2 ⟨w, List.mem_of_getElem? hw, hwc⟩) hc
  | finishDestroy hd =>
    cases hcount
    exact hd
  | _ => cases hcount

/-- If all workers are gone, then nothing is queued and every accepted task has
    begun, or there were as many panics as there are threads. -/
theorem IsRun.stopped (h : IsRun label answers es p) (hf : follows panics es = true)
    (hgone : ∀ w ∈ p.workers, w.isGone = true) :
    (granted answers).length ≤ ((begun es).map Prod.snd).countP panics ∨
      (begun es).map Prod.snd = accepted es := by
  by_cases hleft : ∃ w ∈ p.workers, w.ending? = some false
  · obtain ⟨w, hw, he⟩ := hleft
    exact .inr (h.accepted_eq_of_left hw he).2.symm
  · left
    rw [h.countP_panics hf, h.length_granted]
    refine List.countP_mono_left fun w hw ht => ?_
    have hopen := (h.sound w hw).isOpen_of_isGone (hgone w hw)
    rw [Worker.thread?, Option.isSome_map] at ht
    rw [Worker.isOpen, ht, Bool.true_and] at hopen
    cases he : w.ending? with
    | none => simp [he] at hopen
    | some panicked =>
      cases panicked with
      | true => simp [isDoomed, he]
      | false => exact absurd ⟨w, hw, he⟩ hleft

/-- Whatever the schedule, when the first destroy returns on a thread outside the
    pool, the tasks that began are those up to the panic that takes the last
    worker, all of them are over, the other tasks were freed, and the destroy
    returns their number. -/
theorem IsRun.served_when_destroyed (h : IsRun label answers es p)
    (hf : follows panics es = true) {c : ThreadId} {e : Effect (WorkerPool τ) (Outcome τ)}
    {count : Nat} (he : p.step (.proceed c) = some e) (hcount : e.outcome = .returned count)
    (hc : c ∉ granted answers) (hfirst : ∀ x ∈ results es, x.1 ∈ granted answers) :
    let run := served panics (granted answers).length (accepted es)
    (begun es).map Prod.snd = run ∧ ((finished es).map Prod.snd).Perm run ∧ p.executing = [] ∧
      freed es = (accepted es).drop run.length ∧ count = (accepted es).length - run.length := by
  have hd := h.destroying_of_returned he hcount hc
  have hacc := h.accounted
  have hgone : ∀ w ∈ p.workers, w.isGone = true := fun w hw => by
    obtain ⟨i, hi⟩ := List.getElem?_of_mem hw
    exact h.teardown.swept i w c _ hi hd rfl
  have hdropping := h.dropping (h.teardown.not_abandoned hd) hfirst
  obtain ⟨hdrained, hlen⟩ := hdropping.counted c count hd
  have horder : accepted es = (begun es).map Prod.snd ++ freed es := by
    rw [hacc.in_order, (hacc.taken hdrained).2, List.append_nil]
  have hidle : p.executing = [] :=
    executing_eq_nil fun w hw => (h.sound w hw).task?_of_isGone (hgone w hw)
  have hrun : served panics (granted answers).length (accepted es) = (begun es).map Prod.snd :=
    served_eq ⟨_, horder.symm⟩ (h.panics_before hf) (h.stopped hf hgone)
  have hover := hacc.running
  rw [hidle, List.append_nil] at hover
  intro run
  rw [show run = (begun es).map Prod.snd from hrun]
  refine ⟨rfl, hover.symm, hidle, ?_, ?_⟩
  · rw [horder, List.drop_left]
  · rw [horder, List.length_append, Nat.add_sub_cancel_left, hlen]

/-- Five tasks, of which the second and the third panic, for three workers, of which
    one got no thread: the last two tasks are left when the destroy of the thread
    `9` returns. -/
theorem served_when_destroyed_after_two_panics :
    ∃ (es : History Nat) (p : WorkerPool Nat) (e : Effect (WorkerPool Nat) (Outcome Nat)),
      IsRun "pool" [.ok 1, .error (.system 11), .ok 3] es p ∧ p.step (.proceed 9) = some e ∧
      e.outcome = .returned 2 ∧ accepted es = [1, 2, 3, 4, 5] ∧
      let run := served (fun task => task == 2 || task == 3) 2 (accepted es)
      (begun es).map Prod.snd = run ∧ ((finished es).map Prod.snd).Perm run ∧ p.executing = [] ∧
        freed es = (accepted es).drop run.length ∧ 2 = (accepted es).length - run.length := by
  obtain ⟨es, p, h, hf⟩ := exists_isRun "pool" [.ok 1, .error (.system 11), .ok 3]
    [.submit 1 true none, .submit 2 true none, .submit 3 true none,
      .submit 4 true none, .submit 5 true none, .advance 0, .advance 0, .advance 0, .advance 0,
      .advance 2, .advance 2, .advance 2, .advance 2, .taskEnded 0 false, .taskEnded 2 true,
      .advance 0, .advance 2, .advance 2, .advance 2, .advance 2, .destroy 9, .proceed 9,
      .proceed 9, .proceed 9, .proceed 9, .proceed 9, .proceed 9, .taskEnded 0 true, .advance 0,
      .advance 0, .advance 0, .advance 0, .proceed 9, .proceed 9, .proceed 9, .proceed 9,
      .proceed 9, .proceed 9, .proceed 9]
    (fun (es : History Nat) p => (accepted es, results es,
      follows (fun task => task == 2 || task == 3) es,
      (p.step (.proceed 9)).map fun e => (results [e.after (.proceed 9)]).map Prod.snd))
    ([1, 2, 3, 4, 5], [], true, some [2]) (by decide) (by decide)
  simp only [Prod.mk.injEq, Option.map_eq_some_iff] at hf
  obtain ⟨haccepted, hresults, hfollows, e, he, hreturn⟩ := hf
  have hcount : e.outcome = .returned 2 := by
    cases ho : e.outcome <;> simp [results, Effect.after, ho] at hreturn
    rw [hreturn]
  exact ⟨es, p, e, h, he, hcount, haccepted,
    h.served_when_destroyed hfollows he hcount (by decide) (by simp [hresults])⟩

end IsRun

end Threading.WorkerPool

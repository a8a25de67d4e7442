import Threading.Proofs.CommandLine.Desks
import Threading.Proofs.WorkerPool.AtRest

/-!
# The course of a run of tasks

The main thread is the only one that destroys the pool, and it is no thread of the pool, and no task
panics. So where it is tells what happened to the pool before (`Stands`): as many tasks were accepted
as it submitted; nothing returned while it destroys the pool; and from then on the pool is at rest.
With the laws of the pool and the balance of the desks, that is the `Course` of a run after the
history of its pool, and every step keeps it (`Course.step`).

If memory never ends, then every possible step of a run is a `Transition`
(`Course.transition_of_step`): the main thread submits, destroys, waits or prints (`Turns`); a worker
moves in its loop, or in its task.
-/

namespace Threading.CommandLine

/-- No list asks in vain for memory. -/
def PoolRun.Action.isGranted : PoolRun.Action → Bool
  | .main memory _ => memory
  | .worker _ | .stir _ => true

/-- A worker wakes for no reason. -/
def PoolRun.Action.isStir : PoolRun.Action → Bool
  | .stir _ => true
  | .main .. | .worker _ => false

/-- How many of so many tasks are completed: all of them, unless no worker has a thread. -/
def completions (refusals : List (Option Refusal)) (tasks : Nat) : Nat :=
  if none ∈ refusals then tasks else 0

/-- How many of so many tasks are dropped. -/
def drops (refusals : List (Option Refusal)) (tasks : Nat) : Nat :=
  if none ∈ refusals then 0 else tasks

/-- What is printed about so many tasks. -/
def outcomeLine (refusals : List (Option Refusal)) (tasks : Nat) : String :=
  s!"completed {completions refusals tasks} of {tasks} tasks on {refusals.length} workers ({drops refusals tasks} dropped)"

namespace PoolRun

open WorkerPool (History IsRun accepted begun freed results granted)

variable {refusals : List (Option Refusal)} {tasks : Nat}

/-! ## The threads of the workers -/

/-- The operating system grants a thread to a worker whose thread it does not refuse. -/
theorem toOption_answer (i : Nat) (refusal : Option Refusal) (t : ThreadId) :
    (answer i refusal).toOption = some t ↔ refusal = none ∧ i + 1 = t := by
  cases refusal <;> simp [answer, Except.toOption]

theorem mem_granted_iff {t : ThreadId} :
    t ∈ granted (refusals.mapIdx answer) ↔ ∃ i, refusals[i]? = some none ∧ i + 1 = t := by
  simp only [granted, List.mem_filterMap, List.mem_mapIdx]
  constructor
  · rintro ⟨a, ⟨i, hi, rfl⟩, ha⟩
    obtain ⟨hnone, rfl⟩ := (toOption_answer i _ t).1 ha
    exact ⟨i, List.getElem?_eq_some_iff.2 ⟨hi, hnone⟩, rfl⟩
  · rintro ⟨i, hget, rfl⟩
    obtain ⟨hi, hnone⟩ := List.getElem?_eq_some_iff.1 hget
    exact ⟨_, ⟨i, hi, rfl⟩, (toOption_answer i _ _).2 ⟨hnone, rfl⟩⟩

theorem nodup_granted : (granted (refusals.mapIdx answer)).Nodup := by
  rw [granted, List.Nodup, List.pairwise_filterMap, List.pairwise_iff_getElem]
  intro i j hi hj hij s hs t ht
  rw [List.getElem_mapIdx, toOption_answer] at hs ht
  rw [← hs.2, ← ht.2]
  exact Nat.ne_of_lt (Nat.succ_lt_succ hij)

/-- The main thread is no thread of the pool. -/
theorem not_mem_granted : 0 ∉ granted (refusals.mapIdx answer) := by
  intro h
  obtain ⟨i, -, hi⟩ := mem_granted_iff.1 h
  exact Nat.succ_ne_zero i hi

theorem granted_eq_nil_iff : granted (refusals.mapIdx answer) = [] ↔ none ∉ refusals := by
  rw [List.eq_nil_iff_forall_not_mem]
  constructor
  · intro h hmem
    obtain ⟨i, hi⟩ := List.getElem?_of_mem hmem
    exact h (i + 1) (mem_granted_iff.2 ⟨i, hi, rfl⟩)
  · rintro h t ht
    obtain ⟨i, hi, -⟩ := mem_granted_iff.1 ht
    exact h (List.mem_of_getElem? hi)

/-! ## Where the main thread is -/

/-- All tasks were submitted, and the pool is at rest. -/
structure Done (tasks : Nat) (es : History Nat) (p : WorkerPool Nat) : Prop where
  atRest : p.AtRest
  accepted : accepted es = List.range tasks

/-- The pool `p` after `es`, and what was printed, when the main thread is there. -/
inductive Stands (refusals : List (Option Refusal)) (tasks : Nat) (es : History Nat)
    (p : WorkerPool Nat) (printed : Option String) : PoolPlace → Prop
  | submitting {task : Nat} : task ≤ tasks → accepted es = List.range task → p.shutdown = false →
    results es = [] → p.destroying 0 = none → Stands refusals tasks es p printed (.submitting task)
  | destroying {d : Destroying} : accepted es = List.range tasks → results es = [] →
    p.destroying 0 = some d → Stands refusals tasks es p printed .destroying
  | printing {dropped : Nat} : Done tasks es p → dropped = (freed es).length →
    p.destroying 0 = none → Stands refusals tasks es p printed (.printing dropped)
  | closing {d : Destroying} : Done tasks es p → printed = some (outcomeLine refusals tasks) →
    p.destroying 0 = some d → Stands refusals tasks es p printed (.closing none)
  | finished : Done tasks es p → printed = some (outcomeLine refusals tasks) →
    p.destroying 0 = none → Stands refusals tasks es p printed .finished

/-- The run `r` of so many tasks, with these answers of the operating system, after its pool did
    `es`. -/
structure Course (refusals : List (Option Refusal)) (tasks : Nat) (es : History Nat) (r : PoolRun) :
    Prop where
  run : IsRun WorkerPool.defaultLabel (refusals.mapIdx answer) es r.pool
  size : r.tasks = tasks
  kept : r.pool.abandoned = false
  /-- No task panics, -/
  calm : WorkerPool.follows (fun _ => false) es = true
  /-- and only the main thread destroys the pool. -/
  alone : ∀ c, c ≠ 0 → r.pool.destroying c = none
  within : r.within.length = r.pool.workers.length
  balanced : (r.tally es).Balanced
  stands : Stands refusals tasks es r.pool r.printed r.place

/-! ## Steps -/

/-- What the main thread does to the pool, and where it goes then. -/
inductive Turns (r : PoolRun) : PoolPlace → WorkerPool.Action Nat → WorkerPool.Outcome Nat →
    PoolPlace → Option String → Prop
  | submit {task : Nat} {chosen : Option Nat} : task < r.tasks →
    Turns r (.submitting task) (.submit task true chosen) .accepted (.submitting (task + 1))
      r.printed
  /-- All tasks were submitted. -/
  | close {task : Nat} {o : WorkerPool.Outcome Nat} : r.tasks ≤ task →
    Turns r (.submitting task) (.destroy 0) o .destroying r.printed
  /-- The destroy goes on. -/
  | wait {place : PoolPlace} {o : WorkerPool.Outcome Nat} :
    place = .destroying ∨ place = .closing none → (∀ count, o ≠ .returned count) →
    Turns r place (.proceed 0) o place r.printed
  | count {dropped : Nat} :
    Turns r .destroying (.proceed 0) (.returned dropped) (.printing dropped) r.printed
  /-- The run prints, and the pool goes. -/
  | print {dropped : Nat} {o : WorkerPool.Outcome Nat} :
    Turns r (.printing dropped) (.destroy 0) o (.closing none) (some (r.summary dropped))
  | finish {dropped : Nat} :
    Turns r (.closing none) (.proceed 0) (.returned dropped) .finished r.printed

/-- The action `a` is possible in `r`, and leads to this run. -/
inductive Transition (r : PoolRun) : Action → PoolRun → Prop
  /-- The main thread moves. -/
  | main {chosen : Option Nat} {place place' : PoolPlace} {a : WorkerPool.Action Nat}
      {e : Effect (WorkerPool Nat) (WorkerPool.Outcome Nat)} {o : WorkerPool.Outcome Nat}
      {printed : Option String} :
    r.place = place → Turns r place a o place' printed → r.pool.step a = some e → e.outcome = o →
    Transition r (.main true chosen) { r.setPool e with place := place', printed }
  /-- A worker moves outside its tasks. -/
  | advance {i : Nat} {e : Effect (WorkerPool Nat) (WorkerPool.Outcome Nat)} :
    r.pool.step (.advance i) = some e → Transition r (.worker i) (r.setPool e)
  /-- A task says which one it is. -/
  | tell {i task : Nat} : r.pool.hands[i]? = some (some task) → r.within[i]? = some .telling →
    Transition r (.worker i) ((r.note s!"Processing task {task}").setWithin i .counting)
  /-- A task counts itself. -/
  | count {i task : Nat} : r.pool.hands[i]? = some (some task) → r.within[i]? = some .counting →
    Transition r (.worker i) ({ r with completed := r.completed + 1 }.setWithin i .returning)
  /-- A task returns. -/
  | finish {i : Nat} {e : Effect (WorkerPool Nat) (WorkerPool.Outcome Nat)} :
    r.within[i]? = some .returning → r.pool.step (.taskEnded i false) = some e →
    Transition r (.worker i) ((r.setPool e).setWithin i .telling)
  /-- A worker wakes for no reason. -/
  | stir {i : Nat} {e : Effect (WorkerPool Nat) (WorkerPool.Outcome Nat)} :
    r.pool.step (.stir i) = some e → Transition r (.stir i) (r.setPool e)

variable {es : History Nat} {r r' : PoolRun}

/-- The steps of a worker, in its task or outside. -/
theorem transition_of_worker {i : Nat} (he : r.workerStep i = some r') :
    Transition r (.worker i) r' := by
  obtain ⟨w, hw, he⟩ := Option.bind_eq_some_iff.1 he
  have hhand := WorkerPool.hands_of_getElem? hw
  split at he
  · next task hl =>
    obtain ⟨place, hplace, he⟩ := Option.bind_eq_some_iff.1 he
    rw [Worker.task?_eq_some_iff.2 hl] at hhand
    cases place with
    | telling =>
      cases he
      exact .tell hhand hplace
    | counting =>
      cases he
      exact .count hhand hplace
    | returning =>
      obtain ⟨e, hended, he⟩ := Option.bind_eq_some_iff.1 he
      cases he
      exact .finish hplace hended
  · obtain ⟨e, hadvance, he⟩ := Option.bind_eq_some_iff.1 he
    cases he
    exact .advance hadvance

/-- With memory, an open pool accepts every task. -/
theorem accepted_of_step {p : WorkerPool Nat} {task : Nat} {chosen : Option Nat}
    {e : Effect (WorkerPool Nat) (WorkerPool.Outcome Nat)} (hs : p.shutdown = false)
    (he : p.step (.submit task true chosen) = some e) : e.outcome = .accepted := by
  cases WorkerPool.transition_of_submit he with
  | refuse _ hr =>
    rcases hr with ⟨hshut, -⟩ | ⟨-, hroom, -⟩
    · exact absurd (hs.symm.trans hshut) Bool.false_ne_true
    · exact absurd hroom (reserveOne_true_ne_none _ _)
  | accept | rouse => rfl
  | move _ m => cases m

/-- The steps of the main thread. -/
theorem Course.transition_of_main (h : Course refusals tasks es r) {chosen : Option Nat}
    (he : r.mainStep true chosen = some r') : Transition r (.main true chosen) r' := by
  have hstands := h.stands
  cases hplace : r.place with
  | submitting task =>
    simp only [mainStep, hplace] at he
    rw [hplace] at hstands
    split at he
    · next hlt =>
      obtain ⟨e, hsubmit, he⟩ := Option.bind_eq_some_iff.1 he
      cases hstands with
      | submitting _ _ hopen =>
        have ho := accepted_of_step hopen hsubmit
        rw [ho] at he
        cases he
        exact .main hplace (.submit hlt) hsubmit ho
    · next hle =>
      obtain ⟨e, hcall, rfl⟩ := Option.map_eq_some_iff.1 he
      exact .main hplace (.close (Nat.le_of_not_lt hle)) hcall rfl
  | destroying =>
    simp only [mainStep, hplace] at he
    obtain ⟨e, hproceed, he⟩ := Option.bind_eq_some_iff.1 he
    split at he
    · next dropped ho =>
      cases he
      exact .main hplace .count hproceed ho
    · next hnot =>
      cases he
      exact .main rfl (.wait (.inl hplace) hnot) hproceed rfl
  | printing dropped =>
    simp only [mainStep, hplace] at he
    obtain ⟨e, hcall, rfl⟩ := Option.map_eq_some_iff.1 he
    exact .main hplace .print hcall rfl
  | closing error =>
    simp only [mainStep, hplace] at he
    rw [hplace] at hstands
    obtain ⟨e, hproceed, he⟩ := Option.bind_eq_some_iff.1 he
    cases hstands with
    | closing =>
      split at he
      · next dropped _ ho _ =>
        cases he
        exact .main hplace .finish hproceed ho
      · next herror => cases herror
      · next hnot _ =>
        cases he
        refine .main rfl (.wait (.inr hplace) fun count ho => ?_) hproceed rfl
        exact hnot count ho rfl
  | finished => simp [mainStep, hplace] at he
  | failed error => simp [mainStep, hplace] at he

/-- Every possible step is a transition. -/
theorem Course.transition_of_step (h : Course refusals tasks es r) {a : Action}
    (ha : a.isGranted = true) (he : r.step a = some r') : Transition r a r' := by
  cases a with
  | main memory chosen =>
    obtain rfl : memory = true := ha
    exact h.transition_of_main he
  | worker i => exact transition_of_worker he
  | stir i =>
    obtain ⟨e, hstir, rfl⟩ := Option.map_eq_some_iff.1 he
    exact .stir hstir

/-! ## What is known when the pool is at rest -/

theorem Done.begun_eq {p : WorkerPool Nat} (h : Done tasks es p)
    (hrun : IsRun WorkerPool.defaultLabel (refusals.mapIdx answer) es p)
    (hcalm : WorkerPool.follows (fun _ => false) es = true) :
    (begun es).map Prod.snd = List.range (completions refusals tasks) := by
  by_cases hgranted : granted (refusals.mapIdx answer) = []
  · -- Nobody was there to begin a task.
    have hnone : (begun es).map Prod.snd = [] := by
      by_contra hne
      have hlt := hrun.panics_before hcalm 0 (List.length_pos_iff.2 hne)
      rw [hgranted] at hlt
      exact Nat.not_lt_zero _ hlt
    rw [hnone, completions, if_neg (granted_eq_nil_iff.1 hgranted), List.range_zero]
  · have hsome : none ∈ refusals := not_not.1 fun hn => hgranted (granted_eq_nil_iff.2 hn)
    rw [completions, if_pos hsome, ← h.accepted]
    refine (hrun.stopped hcalm h.atRest.gone).resolve_left fun hle => hgranted ?_
    rw [List.countP_false] at hle
    exact List.length_eq_zero_iff.1 (Nat.le_zero.1 hle)

theorem completions_add_drops (refusals : List (Option Refusal)) (tasks : Nat) :
    completions refusals tasks + drops refusals tasks = tasks := by
  rw [completions, drops]
  split
  · exact Nat.add_zero _
  · exact Nat.zero_add _

theorem Done.length_freed {p : WorkerPool Nat} (h : Done tasks es p)
    (hrun : IsRun WorkerPool.defaultLabel (refusals.mapIdx answer) es p)
    (hcalm : WorkerPool.follows (fun _ => false) es = true) :
    (freed es).length = drops refusals tasks := by
  have horder := congrArg List.length hrun.accounted.in_order
  rw [h.accepted, h.begun_eq hrun hcalm, h.atRest.tasks, List.append_nil, List.length_append,
    List.length_range, List.length_range] at horder
  have hall := completions_add_drops refusals tasks
  omega

/-- When the pool is at rest, no worker has a task, so all that began were told and counted. -/
theorem Course.told (h : Course refusals tasks es r) (hdone : Done tasks es r.pool) :
    (∀ task, r.log.count (processing task) = (List.range (completions refusals tasks)).count task) ∧
      r.completed = completions refusals tasks := by
  have hempty (desk : Desk) (hmem : desk ∈ r.desks) : desk.1 = none := by
    have hhand := (List.of_mem_zip hmem).1
    obtain ⟨w, hw, hdesk⟩ := List.mem_map.1 hhand
    rw [← hdesk]
    exact (h.run.sound w hw).task?_of_isGone (hdone.atRest.gone w hw)
  obtain ⟨htold, hcompleted⟩ := h.balanced.of_empty hempty
  have hbegun := hdone.begun_eq h.run h.calm
  have htaken : (r.tally es).taken = List.range (completions refusals tasks) := hbegun
  rw [htaken] at htold hcompleted
  exact ⟨htold, hcompleted.trans List.length_range⟩

/-! ## Every step keeps the laws -/

section Pool

variable {p : WorkerPool Nat} {a : WorkerPool.Action Nat} {printed : Option String}
  {place : PoolPlace} {e : Effect (WorkerPool Nat) (WorkerPool.Outcome Nat)}

/-- The thread of a worker takes the step. -/
def isInner : WorkerPool.Action Nat → Bool
  | .advance _ | .taskEnded .. | .stir _ => true
  | _ => false

/-- The action is one of those that the run takes: no task panics, the main thread alone calls
    destroy, and the pool is not abandoned. -/
def isOurs : WorkerPool.Action Nat → Bool
  | .taskEnded _ panicked => !panicked
  | .destroy c | .proceed c => c == 0
  | .abandon => false
  | _ => true

theorem accepted_same {o : Occurrence (WorkerPool.Action Nat) (WorkerPool.Outcome Nat)}
    (h : accepted [o] = []) : accepted (es ++ [o]) = accepted es := by
  rw [WorkerPool.accepted_append, h, List.append_nil]

theorem results_same {o : Occurrence (WorkerPool.Action Nat) (WorkerPool.Outcome Nat)}
    (h : results [o] = []) : results (es ++ [o]) = results es := by
  rw [WorkerPool.results_append, h, List.append_nil]

theorem freed_same {o : Occurrence (WorkerPool.Action Nat) (WorkerPool.Outcome Nat)}
    (h : freed [o] = []) : freed (es ++ [o]) = freed es := by
  rw [WorkerPool.freed_append, h, List.append_nil]

/-- A worker neither submits nor destroys. -/
theorem of_isInner (es : History Nat) (ht : WorkerPool.Transition p a e) (ha : isInner a = true) :
    accepted (es ++ [e.after a]) = accepted es ∧ results (es ++ [e.after a]) = results es ∧
      e.state.shutdown = p.shutdown ∧ e.state.destroys = p.destroys := by
  cases ht with
  | take | rest | spend | finish => exact ⟨accepted_same rfl, results_same rfl, rfl, rfl⟩
  | move _ m => cases m <;> exact ⟨accepted_same rfl, results_same rfl, rfl, rfl⟩
  | _ => cases ha

/-- No task panics. -/
theorem calm_of_isOurs (ha : isOurs a = true) :
    WorkerPool.follows (fun _ => false) [e.after a] = true := by
  cases a with
  | taskEnded i panicked =>
    obtain rfl : panicked = false := by simpa [isOurs] using ha
    cases ho : e.outcome <;> simp [WorkerPool.follows, Effect.after, ho]
  | _ => rfl

/-- The main thread calls destroy. -/
theorem of_destroy (es : History Nat) (ht : WorkerPool.Transition p (.destroy 0) e) :
    accepted (es ++ [e.after (.destroy 0)]) = accepted es ∧
      results (es ++ [e.after (.destroy 0)]) = results es ∧
      e.state.destroying 0 = some (.asking 0) := by
  cases ht with
  | move _ m => cases m
  | call _ hd =>
    have hcalled := p.destroying_call hd (.asking 0) 0
    exact ⟨accepted_same rfl, results_same rfl, by simpa using hcalled⟩

/-- A destroy submits nothing. -/
theorem accepted_of_proceed (ht : WorkerPool.Transition p (.proceed 0) e) :
    accepted (es ++ [e.after (.proceed 0)]) = accepted es := by
  refine accepted_same ?_
  cases ht with
  | move _ m => cases m
  | _ => rfl

/-- The destroy of the main thread goes on, and does not return. -/
theorem of_proceed (es : History Nat) (ht : WorkerPool.Transition p (.proceed 0) e) {d : Destroying}
    (hd : p.destroying 0 = some d) (ho : ∀ count, e.outcome ≠ .returned count) :
    results (es ++ [e.after (.proceed 0)]) = results es ∧ ∃ d', e.state.destroying 0 = some d' := by
  have hresults : results [e.after (.proceed 0)] = [] := by
    cases hcase : e.outcome <;> simp_all [WorkerPool.results, Effect.after]
  refine ⟨results_same hresults, Option.ne_none_iff_exists'.1 fun hover => ?_⟩
  obtain ⟨count, hcount⟩ := ht.exists_result hd hover
  rw [hresults] at hcount
  cases hcount

/-- Once all tasks were submitted and the pool is at rest, nothing changes that. -/
theorem Done.snoc (h : Done tasks es p) (ht : WorkerPool.Transition p a e)
    (hs : ∀ w ∈ p.workers, w.Sound) :
    Done tasks (es ++ [e.after a]) e.state ∧ freed (es ++ [e.after a]) = freed es := by
  obtain ⟨haccepted, -, hfreed⟩ := ht.idle h.atRest
  exact ⟨⟨ht.atRest hs h.atRest, (accepted_same haccepted).trans h.accepted⟩, freed_same hfreed⟩

/-- A worker moves, and the main thread stays where it is. -/
theorem Stands.inner (h : Stands refusals tasks es p printed place)
    (ht : WorkerPool.Transition p a e) (ha : isInner a = true) (hs : ∀ w ∈ p.workers, w.Sound) :
    Stands refusals tasks (es ++ [e.after a]) e.state printed place := by
  obtain ⟨haccepted, hresults, hshut, hdestroys⟩ := of_isInner es ht ha
  have hdestroying : e.state.destroying 0 = p.destroying 0 := by
    rw [WorkerPool.destroying, hdestroys, WorkerPool.destroying]
  cases h with
  | submitting hle hall hopen hnone hd =>
    exact .submitting hle (haccepted.trans hall) (hshut.trans hopen) (hresults.trans hnone)
      (hdestroying.trans hd)
  | destroying hall hnone hd =>
    exact .destroying (haccepted.trans hall) (hresults.trans hnone) (hdestroying.trans hd)
  | printing hdone hcount hd =>
    obtain ⟨hdone', hfreed⟩ := hdone.snoc ht hs
    exact .printing hdone' (hfreed ▸ hcount) (hdestroying.trans hd)
  | closing hdone hprinted hd =>
    exact .closing (hdone.snoc ht hs).1 hprinted (hdestroying.trans hd)
  | finished hdone hprinted hd =>
    exact .finished (hdone.snoc ht hs).1 hprinted (hdestroying.trans hd)

end Pool

/-- The destroy of the main thread returns. -/
theorem Course.of_returned (h : Course refusals tasks es r)
    {e : Effect (WorkerPool Nat) (WorkerPool.Outcome Nat)} {dropped : Nat}
    (he : r.pool.step (.proceed 0) = some e) (ho : e.outcome = .returned dropped) :
    e.state.AtRest ∧ accepted (es ++ [e.after (.proceed 0)]) = accepted es ∧
      e.state.destroying 0 = none ∧
      (results es = [] → dropped = (freed (es ++ [e.after (.proceed 0)])).length) := by
  have ht := WorkerPool.transition_of_step h.run.sound he
  have hd := h.run.destroying_of_returned he ho not_mem_granted
  refine ⟨h.run.atRest_of_returning ht hd, accepted_of_proceed ht, ?_, fun hnone => ?_⟩
  · rw [ht.state_of_dropping hd, WorkerPool.destroying_endDestroying, if_pos rfl]
  · have hdropping := h.run.dropping h.kept fun x hx => by
      rw [hnone] at hx
      cases hx
    rw [freed_same (ht.freed_of_dropping hd)]
    exact (hdropping.counted 0 dropped hd).2

/-- Where the main thread is tells what happened to the pool, after every turn. -/
theorem Course.turn (h : Course refusals tasks es r) {place place' : PoolPlace}
    {a : WorkerPool.Action Nat} {e : Effect (WorkerPool Nat) (WorkerPool.Outcome Nat)}
    {o : WorkerPool.Outcome Nat} {printed : Option String} (hplace : r.place = place)
    (hturn : Turns r place a o place' printed) (he : r.pool.step a = some e) (ho : e.outcome = o) :
    Stands refusals tasks (es ++ [e.after a]) e.state printed place' := by
  have ht := WorkerPool.transition_of_step h.run.sound he
  have hstands := h.stands
  rw [hplace] at hstands
  cases hturn with
  | @submit task chosen hlt =>
    cases hstands with
    | submitting _ hall hopen hnone hd =>
      refine .submitting (h.size ▸ hlt) ?_ ?_ ?_ ?_
      · have hnew : accepted [e.after (.submit task true chosen)] = [task] := by
          simp [WorkerPool.accepted, WorkerPool.deed, Effect.after, ho]
        rw [WorkerPool.accepted_append, hall, hnew, List.range_succ]
      · cases ht with
        | move _ m => cases m
        | refuse | accept | rouse => exact hopen
      · rw [results_same rfl, hnone]
      · obtain ⟨d, hd', hgoes⟩ := ht.goes_from hd
        cases hgoes with
        | same => exact hd'
        | called hc => cases hc
  | close hle =>
    obtain ⟨haccepted, hresults, hd⟩ := of_destroy es ht
    cases hstands with
    | submitting hle' hall _ hnone _ =>
      -- The main thread got to the number of the tasks, so it submitted all of them.
      obtain rfl := Nat.le_antisymm hle' (h.size ▸ hle)
      exact .destroying (haccepted.trans hall) (hresults.trans hnone) hd
  | wait hwhere hnot =>
    subst ho
    rcases hwhere with rfl | rfl
    · cases hstands with
      | destroying hall hnone hd =>
        obtain ⟨hresults, d', hd'⟩ := of_proceed es ht hd hnot
        exact .destroying ((accepted_of_proceed ht).trans hall) (hresults.trans hnone) hd'
    · cases hstands with
      | closing hdone hprinted hd =>
        obtain ⟨-, d', hd'⟩ := of_proceed es ht hd hnot
        exact .closing (hdone.snoc ht h.run.sound).1 hprinted hd'
  | count =>
    obtain ⟨hrest, haccepted, hover, hcount⟩ := h.of_returned he ho
    cases hstands with
    | destroying hall hnone _ =>
      exact .printing ⟨hrest, haccepted.trans hall⟩ (hcount hnone) hover
  | @print dropped =>
    obtain ⟨-, -, hd⟩ := of_destroy es ht
    cases hstands with
    | printing hdone hcount _ =>
      -- At rest, what was counted and what was freed are known, and these are the numbers printed.
      have hsummary : r.summary dropped = outcomeLine refusals tasks := by
        have hworkers : r.pool.workerCount = refusals.length := by
          simpa [WorkerPool.workerCount] using congrArg List.length h.run.threads
        unfold summary outcomeLine
        rw [(h.told hdone).2, h.size, hworkers, hcount, hdone.length_freed h.run h.calm]
      exact .closing (hdone.snoc ht h.run.sound).1 (congrArg some hsummary) hd
  | finish =>
    obtain ⟨hrest, haccepted, hover, -⟩ := h.of_returned he ho
    cases hstands with
    | closing hdone hprinted _ =>
      exact .finished ⟨hrest, haccepted.trans hdone.accepted⟩ hprinted hover

/-- The pool takes a step of ours, and the tally moves with it. -/
theorem Course.snoc (h : Course refusals tasks es r) {s : PoolRun} {a : WorkerPool.Action Nat}
    {e : Effect (WorkerPool Nat) (WorkerPool.Outcome Nat)} (he : r.pool.step a = some e)
    (ha : isOurs a = true) (hpool : s.pool = e.state) (hsize : s.tasks = r.tasks)
    (hwithin : s.within.length = r.within.length)
    (hmoves : (r.tally es).Moves (s.tally (es ++ [e.after a])))
    (hstands : Stands refusals tasks (es ++ [e.after a]) e.state s.printed s.place) :
    Course refusals tasks (es ++ [e.after a]) s := by
  have ht := WorkerPool.transition_of_step h.run.sound he
  exact {
    run := hpool ▸ h.run.snoc he
    size := hsize.trans h.size
    kept := by
      rw [hpool]
      cases ht with
      | abandon | abandonLast => cases ha
      | _ => exact h.kept
    calm := by
      rw [WorkerPool.follows_append, h.calm, Bool.true_and]
      exact calm_of_isOurs ha
    alone := fun c hc => by
      rw [hpool]
      obtain ⟨d, hd, hgoes⟩ := ht.goes_from (h.alone c hc)
      cases hgoes with
      | same => exact hd
      | called hcalls =>
        subst hcalls
        exact absurd (eq_of_beq ha) hc
    within := by rw [hpool, ht.length_workers, hwithin, h.within]
    balanced := hmoves.balanced h.balanced
    stands := hpool ▸ hstands }

theorem Turns.isOurs {place place' : PoolPlace} {a : WorkerPool.Action Nat}
    {o : WorkerPool.Outcome Nat} {printed : Option String} (h : Turns r place a o place' printed) :
    isOurs a = true := by
  cases h <;> rfl

theorem Turns.not_taskEnded {place place' : PoolPlace} {a : WorkerPool.Action Nat}
    {o : WorkerPool.Outcome Nat} {printed : Option String} (h : Turns r place a o place' printed)
    (i : Nat) (panicked : Bool) : a ≠ .taskEnded i panicked := by
  rintro rfl
  cases h

/-- The tally moves with the pool, unless a task is over. -/
theorem Course.moves (h : Course refusals tasks es r) {a : WorkerPool.Action Nat}
    {e : Effect (WorkerPool Nat) (WorkerPool.Outcome Nat)} (he : r.pool.step a = some e)
    (ha : ∀ i panicked, a ≠ .taskEnded i panicked) :
    (r.tally es).Moves ((r.setPool e).tally (es ++ [e.after a])) :=
  moves_of_step (WorkerPool.transition_of_step h.run.sound he) h.run.teardown h.within ha

/-- A worker takes a step outside its tasks. -/
theorem Course.inner (h : Course refusals tasks es r) {a : WorkerPool.Action Nat}
    {e : Effect (WorkerPool Nat) (WorkerPool.Outcome Nat)} (he : r.pool.step a = some e)
    (ha : isInner a = true) (hours : isOurs a = true)
    (hout : ∀ i panicked, a ≠ .taskEnded i panicked) :
    Course refusals tasks (es ++ [e.after a]) (r.setPool e) := by
  have ht := WorkerPool.transition_of_step h.run.sound he
  exact h.snoc he hours rfl rfl rfl (h.moves he hout) (h.stands.inner ht ha h.run.sound)

/-- Every step keeps the laws. -/
theorem Course.step (h : Course refusals tasks es r) {a : Action} (ht : Transition r a r') :
    ∃ es', Course refusals tasks es' r' := by
  cases ht with
  | main hplace hturn he ho =>
    exact ⟨_, h.snoc he hturn.isOurs rfl rfl rfl (h.moves he hturn.not_taskEnded)
      (h.turn hplace hturn he ho)⟩
  | advance he => exact ⟨_, h.inner he rfl rfl fun _ _ heq => by cases heq⟩
  | stir he => exact ⟨_, h.inner he rfl rfl fun _ _ heq => by cases heq⟩
  | tell hhand hplace =>
    exact ⟨es, { h with
      within := by rw [setWithin, note, List.length_set, h.within]
      balanced := (moves_of_tell hhand hplace).balanced h.balanced }⟩
  | count hhand hplace =>
    exact ⟨es, { h with
      within := by rw [setWithin, List.length_set, h.within]
      balanced := (moves_of_count hhand hplace).balanced h.balanced }⟩
  | finish hplace he =>
    have hpool := WorkerPool.transition_of_step h.run.sound he
    refine ⟨_, h.snoc he rfl rfl rfl ?_ (moves_of_taskEnded hpool h.run.teardown hplace)
      (h.stands.inner hpool rfl h.run.sound)⟩
    exact List.length_set

end PoolRun

end Threading.CommandLine

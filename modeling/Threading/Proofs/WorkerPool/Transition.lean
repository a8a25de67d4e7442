import Threading.Proofs.Calls
import Threading.Proofs.Entries
import Threading.Proofs.WorkerPool.Worker

/-!
# What a step of a pool can do

`Transition` lists the steps of a pool whose workers are sound, with what they
change: a submit that is refused, or accepted; a worker that takes a task, or
finds none, or moves by itself, or lets go of the list as the last to hold it, or
ends a task; a destroy that goes on, phase by phase; the end of the last
reference. Every possible step is one of them (`transition_of_step`), so a law of
all steps is proved by cases on `Transition`.

Three lemmas tell what a step does to the destroys under way: it adds one
(`destroying_call`), moves one (`destroying_setDestroying`) or ends one
(`destroying_endDestroying`).
-/

namespace Threading.WorkerPool

variable {τ : Type}

/-! ## Changes of one worker, and of one destroy -/

@[simp] theorem destroying_mk {tasks : List τ} {capacity : Nat} {shutdown : Bool}
    {workers : List (Worker τ)} {teardown : Option ThreadId}
    {destroys : List (ThreadId × Destroying)} {abandoned : Bool} (c : ThreadId) :
    destroying ⟨tasks, capacity, shutdown, workers, teardown, destroys, abandoned⟩ c =
      destroys.lookup c := rfl

@[simp] theorem lookup_destroys (p : WorkerPool τ) (c : ThreadId) :
    p.destroys.lookup c = p.destroying c := rfl

section Fields

variable (p : WorkerPool τ) (c : ThreadId) (d : Destroying)

@[simp] theorem setDestroying_shutdown : (p.setDestroying c d).shutdown = p.shutdown := rfl

@[simp] theorem setDestroying_workers : (p.setDestroying c d).workers = p.workers := rfl

@[simp] theorem setDestroying_teardown : (p.setDestroying c d).teardown = p.teardown := rfl

@[simp] theorem setDestroying_abandoned : (p.setDestroying c d).abandoned = p.abandoned := rfl

@[simp] theorem endDestroying_shutdown : (p.endDestroying c).shutdown = p.shutdown := rfl

@[simp] theorem endDestroying_workers : (p.endDestroying c).workers = p.workers := rfl

@[simp] theorem endDestroying_teardown : (p.endDestroying c).teardown = p.teardown := rfl

@[simp] theorem endDestroying_abandoned : (p.endDestroying c).abandoned = p.abandoned := rfl

end Fields

@[simp] theorem destroying_setDestroying (p : WorkerPool τ) (c x : ThreadId) (d : Destroying) :
    (p.setDestroying c d).destroying x =
      if x = c then (p.destroying c).map fun _ => d else p.destroying x :=
  Calls.lookup_move

@[simp] theorem destroying_endDestroying (p : WorkerPool τ) (c x : ThreadId) :
    (p.endDestroying c).destroying x = if x = c then none else p.destroying x :=
  Calls.lookup_finish

theorem destroying_call (p : WorkerPool τ) {c : ThreadId} (h : p.destroying c = none)
    (d : Destroying) (x : ThreadId) :
    (p.destroys ++ [(c, d)]).lookup x = if x = c then some d else p.destroying x :=
  Calls.lookup_begin h

/-! ## Steps -/

/-- The action `a` is possible in `p`, and has this effect. -/
inductive Transition (p : WorkerPool τ) : Action τ → Effect (WorkerPool τ) (Outcome τ) → Prop
  /-- A submit is refused. -/
  | refuse {task : τ} {memory : Bool} {chosen : Option Nat} {error : Error} :
    p.abandoned = false →
    (p.shutdown = true ∧ error = .shutDown) ∨ (p.shutdown = false ∧
      reserveOne p.pending p.capacity memory = none ∧ error = .allocation .exhausted) →
    Transition p (.submit task memory chosen) { state := p, outcome := .rejected error task }
  /-- A task is accepted while no worker sleeps. -/
  | accept {task : τ} {memory : Bool} {capacity : Nat} :
    p.abandoned = false → p.shutdown = false →
    reserveOne p.pending p.capacity memory = some capacity → (∀ w ∈ p.workers, w.isAsleep = false) →
    Transition p (.submit task memory none)
      { state := { p with tasks := p.tasks ++ [task], capacity }, outcome := .accepted }
  /-- A task is accepted, and a sleeping worker is woken. -/
  | rouse {task : τ} {memory : Bool} {capacity i : Nat} {w : Worker τ} :
    p.abandoned = false → p.shutdown = false →
    reserveOne p.pending p.capacity memory = some capacity → p.workers[i]? = some w →
    w.loop = .asleep →
    Transition p (.submit task memory (some i))
      { state := { p with
          tasks := p.tasks ++ [task]
          capacity
          workers := p.workers.set i { w with loop := .woken } }
        outcome := .accepted }
  /-- A worker takes the first task. -/
  | take {i : Nat} {w : Worker τ} {task : τ} {tasks : List τ} :
    p.workers[i]? = some w → w.isAwake = true → p.tasks = task :: tasks →
    Transition p (.advance i)
      { state := { p with
          tasks
          workers := p.workers.set i { w with loop := .running task } }
        outcome := .invoked task
        notices := [.taskBegun i] }
  /-- A worker finds no task: it leaves, or goes to sleep. -/
  | rest {i : Nat} {w : Worker τ} :
    p.workers[i]? = some w → w.isAwake = true → p.tasks = [] →
    Transition p (.advance i)
      { state := { p with
          workers := p.workers.set i { w with loop := if p.shutdown then .leaving else .asleep } }
        outcome := .moved }
  /-- A worker moves by itself. -/
  | move {i : Nat} {w w' : Worker τ} {a : Action τ} {o : Outcome τ} {ns : List Notice} :
    p.workers[i]? = some w → w.Moves i w' a o ns →
    Transition p a
      { state := { p with workers := p.workers.set i w' }, outcome := o, notices := ns }
  /-- A worker moves by itself, and nobody holds the list any more. -/
  | spend {i : Nat} {w w' : Worker τ} :
    p.workers[i]? = some w → w.Moves i w' (.advance i) .moved [] →
    p.abandoned = true → (∀ x ∈ p.workers.set i w', x.holdsList = false) →
    Transition p (.advance i)
      { state := { p with tasks := [], workers := p.workers.set i w' }, outcome := .freed p.tasks }
  /-- The task of a worker is over. -/
  | finish {i : Nat} {w : Worker τ} {task : τ} {panicked : Bool} :
    p.workers[i]? = some w → w.loop = .running task →
    (∀ t, w.thread? = some t → p.destroying t = none) →
    Transition p (.taskEnded i panicked)
      { state := { p with
          workers := p.workers.set i { w with loop := if panicked then .lost else .looking } }
        outcome := .finished task }
  /-- A destroy is called. -/
  | call {c : ThreadId} :
    p.abandoned = false → p.destroying c = none →
    (∀ w ∈ p.workers, w.thread? = some c → w.isRunning = true) →
    Transition p (.destroy c)
      { state := { p with destroys := p.destroys ++ [(c, .asking 0)] }, outcome := .moved }
  /-- A destroy asks whether it is called on the thread of a worker. -/
  | ask {c : ThreadId} {k : Nat} {w : Worker τ} :
    p.destroying c = some (.asking k) → p.workers[k]? = some w →
    Transition p (.proceed c)
      { state := p.setDestroying c
          (if w.handle.isCurrent c then .shutting true else .asking (k + 1))
        outcome := .moved }
  /-- A destroy asked all workers. -/
  | asked {c : ThreadId} {k : Nat} :
    p.destroying c = some (.asking k) → p.workers.length ≤ k →
    Transition p (.proceed c) { state := p.setDestroying c (.shutting false), outcome := .moved }
  /-- A destroy called on the thread of a worker shuts the pool down, and is over. -/
  | shutInside {c : ThreadId} :
    p.destroying c = some (.shutting true) →
    Transition p (.proceed c)
      { state := { p with shutdown := true, workers := p.workers.map Worker.wake }.endDestroying c
        outcome := .returned 0
        notices := (if p.shutdown then [] else [.shuttingDown p.pending]) ++ [.leftUnjoined] }
  /-- Another destroy shuts the pool down. -/
  | shutOutside {c : ThreadId} :
    p.destroying c = some (.shutting false) →
    Transition p (.proceed c)
      { state :=
          { p with shutdown := true, workers := p.workers.map Worker.wake }.setDestroying c .waiting
        outcome := .moved
        notices := if p.shutdown then [] else [.shuttingDown p.pending] }
  /-- A destroy takes the teardown lock. -/
  | lock {c : ThreadId} :
    p.destroying c = some .waiting → p.teardown = none →
    Transition p (.proceed c)
      { state := { p with teardown := some c }.setDestroying c (.joining 0), outcome := .moved }
  /-- A worker need not, or cannot, be joined. -/
  | pass {c : ThreadId} {k : Nat} {w : Worker τ} :
    p.destroying c = some (.joining k) → p.workers[k]? = some w →
    w.handle.stage ≠ .running ∨ w.handle.isCurrent c = true →
    Transition p (.proceed c)
      { state := p.setDestroying c (.joining (k + 1))
        outcome := .moved
        notices := if w.handle.stage = .running then [.selfJoinIgnored w.handle.name.text] else [] }
  /-- A worker is marked as joined. -/
  | mark {c : ThreadId} {k : Nat} {w : Worker τ} :
    p.destroying c = some (.joining k) → p.workers[k]? = some w →
    w.handle.stage = .running → w.handle.isCurrent c = false →
    Transition p (.proceed c)
      { state := { p with workers := p.workers.set k (w.marked c) }.setDestroying c (.collecting k)
        outcome := .moved }
  /-- The thread of a worker is gone, and its join is over. -/
  | collect {c : ThreadId} {k : Nat} {w : Worker τ} {result : Except Error Unit} :
    p.destroying c = some (.collecting k) → p.workers[k]? = some w →
    w.handle.joiner = some c → w.isGone = true → w.handle.joinResult = some result →
    Transition p (.proceed c)
      { state :=
          { p with workers := p.workers.set k w.collected }.setDestroying c (.joining (k + 1))
        outcome := .moved
        notices := .threadJoined w.handle.name.text :: joinNotices result }
  /-- All workers were joined. -/
  | swept {c : ThreadId} {k : Nat} :
    p.destroying c = some (.joining k) → p.workers.length ≤ k →
    Transition p (.proceed c) { state := p.setDestroying c .taking, outcome := .moved }
  /-- The tasks that are left are dropped. -/
  | drain {c : ThreadId} :
    p.destroying c = some .taking →
    Transition p (.proceed c)
      { state := { p with tasks := [] }.setDestroying c (.dropping p.pending)
        outcome := .freed p.tasks
        notices := if p.pending = 0 then [] else [.tasksDropped p.pending] }
  /-- A destroy gives the teardown lock back, and is over. -/
  | finishDestroy {c : ThreadId} {count : Nat} :
    p.destroying c = some (.dropping count) →
    Transition p (.proceed c)
      { state := { p with teardown := none }.endDestroying c, outcome := .returned count }
  /-- The last reference goes while somebody holds the list. -/
  | abandon :
    p.abandoned = false → p.shutdown = true → p.destroys = [] →
    Transition p .abandon
      { state := { p with abandoned := true, workers := p.workers.map Worker.abandon }
        outcome := .moved }
  /-- The last reference goes, and the list with it. -/
  | abandonLast :
    p.abandoned = false → p.shutdown = true → p.destroys = [] →
    (∀ x ∈ p.workers.map Worker.abandon, x.holdsList = false) →
    Transition p .abandon
      { state := { p with
          tasks := []
          abandoned := true
          workers := p.workers.map Worker.abandon }
        outcome := .freed p.tasks }

section Inversion

variable {p : WorkerPool τ} {e : Effect (WorkerPool τ) (Outcome τ)}

theorem setLoop_eq {i : Nat} {w : Worker τ} (h : p.workers[i]? = some w) (loop : Loop τ) :
    p.setLoop i loop = { p with workers := p.workers.set i { w with loop } } := by
  rw [setLoop, modify_eq_set h]

theorem setHandle_eq {i : Nat} {w : Worker τ} (h : p.workers[i]? = some w)
    (handle : Handle Unit) :
    p.setHandle i handle = { p with workers := p.workers.set i { w with handle } } := by
  rw [setHandle, modify_eq_set h]

/-- Notifying one wakes a sleeping worker, or finds that none sleeps. -/
theorem notifyOne_eq_some {chosen : Option Nat} {workers : List (Worker τ)}
    (h : p.notifyOne chosen = some workers) :
    (chosen = none ∧ workers = p.workers ∧ ∀ w ∈ p.workers, w.isAsleep = false) ∨
    ∃ i w, chosen = some i ∧ p.workers[i]? = some w ∧ w.loop = .asleep ∧
      workers = p.workers.set i { w with loop := .woken } := by
  cases chosen with
  | none =>
    have hfirst : p.firstAsleep = p.workers.findIdx? Worker.isAsleep := rfl
    simp only [notifyOne, hfirst, Option.isNone_iff_eq_none, List.findIdx?_eq_none_iff] at h
    split at h
    · next hnone =>
      cases h
      exact .inl ⟨rfl, rfl, hnone⟩
    · cases h
  | some i =>
    simp only [notifyOne] at h
    split at h
    · next handle hw =>
      cases h
      exact .inr ⟨i, _, rfl, hw, rfl, by rw [modify_eq_set hw]; rfl⟩
    · cases h

theorem transition_of_submit {task : τ} {memory : Bool} {chosen : Option Nat}
    (he : p.step (.submit task memory chosen) = some e) :
    Transition p (.submit task memory chosen) e := by
  rw [step] at he
  split at he
  · cases he
  · next ha =>
    have ha : p.abandoned = false := by simpa using ha
    split at he
    · next hs =>
      cases he
      exact .refuse ha (.inl ⟨hs, rfl⟩)
    · next hs =>
      have hs : p.shutdown = false := by simpa using hs
      split at he
      · next hroom =>
        cases he
        exact .refuse ha (.inr ⟨hs, hroom, rfl⟩)
      · next hroom =>
        obtain ⟨workers, hn, rfl⟩ := Option.map_eq_some_iff.1 he
        obtain ⟨rfl, rfl, hasleep⟩ | ⟨i, w, rfl, hw, hl, rfl⟩ := notifyOne_eq_some hn
        · exact .accept ha hs hroom hasleep
        · exact .rouse ha hs hroom hw hl

theorem transition_of_taskEnded {i : Nat} {panicked : Bool}
    (he : p.taskEnded i panicked = some e) : Transition p (.taskEnded i panicked) e := by
  rw [taskEnded] at he
  cases hw : p.workers[i]? with
  | none => simp [hw] at he
  | some w =>
    simp only [hw, Option.bind_eq_bind, Option.bind_some] at he
    split at he
    · next task hl =>
      split at he
      · cases he
      · next hidle =>
        cases he
        rw [setLoop_eq hw]
        refine .finish hw hl fun t ht => ?_
        simpa [ht] using hidle
    · cases he

theorem transition_of_call {c : ThreadId} (he : p.step (.destroy c) = some e) :
    Transition p (.destroy c) e := by
  rw [step] at he
  split at he
  · cases he
  · next h =>
    cases he
    simp only [admitsDestroy, Bool.or_eq_true, not_or, Bool.not_eq_true, Bool.not_eq_false',
      Bool.and_eq_true, Option.isNone_iff_eq_none, List.all_eq_true] at h
    refine .call h.1 h.2.1 fun w hw ht => ?_
    simpa [ht] using h.2.2 w hw

theorem transition_of_abandon (he : p.step .abandon = some e) : Transition p .abandon e := by
  rw [step] at he
  split at he
  · cases he
  · next h =>
    simp only [Bool.or_eq_true, not_or, Bool.not_eq_true, Bool.not_eq_false', List.isEmpty_iff] at h
    obtain ⟨⟨ha, hs⟩, hd⟩ := h
    dsimp only at he
    split at he
    · cases he
      exact .abandon ha hs hd
    · next hheld =>
      cases he
      refine .abandonLast ha hs hd fun x hx => ?_
      simp only [listHeld, Bool.or_eq_true, not_or, List.any_eq_true, not_exists] at hheld
      simpa [hx] using hheld.2 x

theorem transition_of_look {i : Nat} {w : Worker τ} (h : p.workers[i]? = some w)
    (hw : w.isAwake = true) : Transition p (.advance i) (p.look i) := by
  rw [look]
  split
  · next task tasks hp =>
    rw [setLoop_eq (p := { p with tasks }) h]
    exact .take h hw hp
  · next hp =>
    rw [setLoop_eq h]
    exact .rest h hw hp

/-- A worker lets go of the list, as the last to hold it or not. -/
theorem release_cases {i : Nat} {w : Worker τ} {panicked : Bool} (hw : p.workers[i]? = some w)
    (hs : w.Sound) (hl : w.loop = .releasing panicked) :
    ∃ e, p.release i w panicked = some e ∧ Transition p (.advance i) e := by
  obtain ⟨t, ht⟩ := hs.inside (by simp [hl])
  -- The handle and the loop change one after the other: together they are one move.
  have hmoves := Worker.Moves.release (i := i) hl ht
  have hset := getElem?_set_self_of_some hw
    { w with handle := { w.handle with spawned := some ⟨t, .ended panicked⟩ } }
  simp only [release, ht, Handle.closureEnded, hs.isCalling ht, Option.bind_eq_bind,
    Option.bind_some, Bool.false_eq_true, if_false, if_true, setHandle_eq hw]
  rw [setLoop_eq hset]
  simp only [List.set_set]
  split
  · exact ⟨_, rfl, .move hw hmoves⟩
  · next hheld =>
    simp only [listHeld, Bool.or_eq_true, Bool.not_eq_true', List.any_eq_true, not_or,
      not_exists] at hheld
    refine ⟨_, rfl, .spend hw hmoves (by simpa using hheld.1) fun x hx => ?_⟩
    simpa [hx] using hheld.2 x

/-- A thread that is not in the loop of its worker goes on, unless it is gone. -/
theorem advance_outside {i : Nat} {w : Worker τ} (hw : p.workers[i]? = some w) (hs : w.Sound)
    (hl : w.loop = .outside) :
    (p.advance i = none ∧ w.isGone = true) ∨ ∃ w' o, w.Moves i w' (.advance i) o [] ∧
      p.advance i = some { state := { p with workers := p.workers.set i w' }, outcome := o } := by
  rw [advance, hw]
  simp only [Option.bind_eq_bind, Option.bind_some, hl]
  cases hc : w.handle.spawned with
  | none => exact .inl ⟨rfl, by simp [Worker.isGone, hc]⟩
  | some course =>
    obtain ⟨t, progress⟩ := course
    have hspared := hs.not_spared _ hc
    simp only [Option.bind_some, Handle.advance, hc, if_true]
    cases progress with
    | created =>
      refine .inr ⟨_, _, .begin hl hc, ?_⟩
      simp only [hs.stored _ hc rfl, Handle.Progress.next, Option.map_some, Option.bind_some,
        setHandle_eq hw]
    | taken job =>
      refine .inr ⟨_, _, .raise hl hc, ?_⟩
      simp only [Handle.Progress.next, Option.map_some, Option.bind_some, setHandle_eq hw]
    | raised job =>
      refine .inr ⟨_, _, .enter hl hc, ?_⟩
      -- Nobody kills the handles of a pool, so the closure is not spared.
      have hspare : ¬w.handle.killed = true := by simp [hs.not_killed]
      simp only [Handle.Progress.next, if_neg hspare, Option.map_some, Option.bind_some,
        setHandle_eq hw]
      rw [setLoop_eq (getElem?_set_self_of_some hw _)]
      simp only [List.set_set]
    | inside => exact absurd hl ((hs.inside_iff _ hc).1 rfl)
    | spared job => exact absurd rfl hspared.1
    | unneeded job => exact absurd rfl hspared.2
    | ended panicked =>
      refine .inr ⟨_, _, .lower hl hc, ?_⟩
      simp only [Handle.Progress.next, Option.map_some, Option.bind_some, setHandle_eq hw]
    | lowered panicked =>
      refine .inr ⟨_, _, .exit hl hc, ?_⟩
      simp only [Handle.Progress.next, Option.map_some, Option.bind_some, setHandle_eq hw]
    | exited panicked =>
      refine .inl ⟨rfl, ?_⟩
      simp [Worker.isGone, hc, Progress.isOver]

/-- A worker takes a step, unless it sleeps, runs a task or is gone. -/
theorem advance_cases {i : Nat} {w : Worker τ} (hw : p.workers[i]? = some w) (hs : w.Sound) :
    (p.advance i = none ∧ (w.isAsleep = true ∨ w.isRunning = true ∨ w.isGone = true)) ∨
      ∃ e, p.advance i = some e ∧ Transition p (.advance i) e := by
  cases hl : w.loop with
  | outside =>
    rcases advance_outside hw hs hl with ⟨hn, hgone⟩ | ⟨w', o, m, he⟩
    · exact .inl ⟨hn, .inr (.inr hgone)⟩
    · exact .inr ⟨_, he, .move hw m⟩
  | asleep => exact .inl ⟨by simp [advance, hw, hl], .inl (by simp [Worker.isAsleep, hl])⟩
  | running task =>
    exact .inl ⟨by simp [advance, hw, hl], .inr (.inl (by simp [Worker.isRunning, hl]))⟩
  | looking =>
    exact .inr ⟨_, by simp [advance, hw, hl], transition_of_look hw (by simp [Worker.isAwake, hl])⟩
  | woken =>
    exact .inr ⟨_, by simp [advance, hw, hl], transition_of_look hw (by simp [Worker.isAwake, hl])⟩
  | leaving =>
    have hmove := Transition.move hw (.leave (i := i) hl)
    rw [← setLoop_eq hw] at hmove
    exact .inr ⟨_, by simp [advance, hw, hl], hmove⟩
  | lost =>
    have hmove := Transition.move hw (.lose (i := i) hl)
    rw [← setLoop_eq hw] at hmove
    exact .inr ⟨_, by simp [advance, hw, hl], hmove⟩
  | releasing panicked =>
    obtain ⟨e, he, ht⟩ := release_cases hw hs hl
    exact .inr ⟨e, by simpa [advance, hw, hl] using he, ht⟩

theorem transition_of_advance {i : Nat} (hs : ∀ w ∈ p.workers, w.Sound)
    (he : p.advance i = some e) : Transition p (.advance i) e := by
  cases hw : p.workers[i]? with
  | none => simp [advance, hw] at he
  | some w =>
    rcases advance_cases hw (hs w (List.mem_of_getElem? hw)) with ⟨hn, -⟩ | ⟨f, hf, ht⟩
    · rw [hn] at he
      cases he
    · obtain rfl : e = f := Option.some.inj (he.symm.trans hf)
      exact ht

theorem transition_of_join {c : ThreadId} {k : Nat} {w : Worker τ}
    (hd : p.destroying c = some (.joining k)) (hw : p.workers[k]? = some w)
    (he : (do
      let f ← w.handle.step (.join c)
      let p := p.setHandle k f.state
      match f.outcome with
      | .returned result =>
        some {
          state := p.setDestroying c (.joining (k + 1))
          outcome := .moved
          notices := f.notices ++ joinNotices result }
      | _ =>
        some {
          state := p.setDestroying c (.collecting k)
          outcome := .moved
          notices := f.notices }) = some e) : Transition p (.proceed c) e := by
  have hsame : p.setHandle k w.handle = p := by rw [setHandle_eq hw, set_self hw]
  simp only [Handle.step, Option.bind_eq_bind] at he
  split at he
  · cases he
  · split at he
    · next hr =>
      cases he
      have := Transition.pass hd hw (.inl hr)
      rw [if_neg hr] at this
      rwa [hsame]
    · next hr =>
      split at he
      · next hc =>
        cases he
        have := Transition.pass hd hw (.inr hc)
        rw [if_pos (by simpa using hr)] at this
        rw [hsame]
        exact this
      · next hc =>
        cases he
        rw [setHandle_eq hw]
        exact .mark hd hw (by simpa using hr) (by simpa using hc)

theorem transition_of_collect {c : ThreadId} {k : Nat} {w : Worker τ}
    (hd : p.destroying c = some (.collecting k)) (hw : p.workers[k]? = some w) (hs : w.Sound)
    (he : ((w.handle.step (.proceed c)).bind fun f =>
      match f.outcome with
      | .returned result =>
        some {
          state := (p.setHandle k f.state).setDestroying c (.joining (k + 1))
          outcome := .moved
          notices := f.notices ++ joinNotices result }
      | _ => none) = some e) : Transition p (.proceed c) e := by
  simp only [Handle.step, hs.proceed] at he
  split at he
  · next hj =>
    cases hr : w.handle.joinResult with
    | none => simp [hr] at he
    | some result =>
      simp only [hr, Option.map_some, Option.bind_some, Option.some.injEq] at he
      subst he
      rw [setHandle_eq hw]
      -- The join has a result only once the thread is gone.
      have hgone := Worker.joinResult_eq_none_iff hs (hj ▸ Option.some_ne_none c)
      exact .collect hd hw hj (by simpa [hr] using hgone) hr
  · cases he

theorem transition_of_proceed {c : ThreadId} (hs : ∀ w ∈ p.workers, w.Sound)
    (he : p.proceed c = some e) : Transition p (.proceed c) e := by
  rw [proceed] at he
  cases hd : p.destroying c with
  | none => simp [hd] at he
  | some d =>
    simp only [hd, Option.bind_eq_bind, Option.bind_some] at he
    cases d with
    | asking k =>
      dsimp only at he
      split at he
      · next hk =>
        cases he
        exact .asked hd (List.getElem?_eq_none_iff.1 hk)
      · next w hk =>
        have hsw : w.Sound := hs w (List.mem_of_getElem? hk)
        split at he
        · cases he
        · have := Transition.ask hd hk
          split at he
          · next hc =>
            cases he
            rwa [if_pos hc] at this
          · next hc =>
            cases he
            rwa [if_neg hc] at this
    | shutting fromWorker =>
      cases fromWorker with
      | true =>
        cases he
        exact .shutInside hd
      | false =>
        cases he
        exact .shutOutside hd
    | waiting =>
      dsimp only at he
      split at he
      · cases he
      · next ht =>
        cases he
        exact .lock hd ht
    | joining k =>
      dsimp only at he
      split at he
      · next hk =>
        cases he
        exact .swept hd (List.getElem?_eq_none_iff.1 hk)
      · next w hk => exact transition_of_join hd hk he
    | collecting k =>
      cases hk : p.workers[k]? with
      | none => simp [hk] at he
      | some w =>
        simp only [hk, Option.bind_some] at he
        exact transition_of_collect hd hk (hs w (List.mem_of_getElem? hk)) he
    | taking =>
      cases he
      exact .drain hd
    | dropping count =>
      cases he
      exact .finishDestroy hd

/-- Every step of a pool of sound workers is a transition. -/
theorem transition_of_step {a : Action τ} (hs : ∀ w ∈ p.workers, w.Sound)
    (he : p.step a = some e) : Transition p a e := by
  cases a with
  | submit task memory chosen => exact transition_of_submit he
  | advance i => exact transition_of_advance hs he
  | taskEnded i panicked => exact transition_of_taskEnded he
  | stir i =>
    rw [step] at he
    split at he
    · next handle hw =>
      cases he
      rw [setLoop_eq hw]
      exact .move hw (.stir rfl)
    · cases he
  | destroy c => exact transition_of_call he
  | proceed c => exact transition_of_proceed hs he
  | abandon => exact transition_of_abandon he

end Inversion

end Threading.WorkerPool

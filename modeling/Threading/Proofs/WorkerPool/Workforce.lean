import Threading.Proofs.WorkerPool.Outcome
import Threading.Proofs.WorkerPool.WakeUp

/-!
# The workforce of a pool

A pool keeps as many workers as were asked for, and as many of them have a thread as the
operating system granted. A worker with a thread is in one of four phases
(`Worker.Sound.one_phase`): its thread did not begin yet, or it *serves*, or it is *lost* to a
task that panicked, or it *left* because the pool was shut down and nothing was queued.

* `IsRun.countP_isLost`: as many workers are lost as tasks panicked;
* `IsRun.left`: once a worker left, the pool is shut down and nothing is queued;
* `IsRun.live_at_rest`: when nobody can go on in a pool that is not shut down, the workers that
  began and are not lost are those whose alive flag is up.

The flag alone does not tell the phase: the thread of a worker raises it some steps after it
began, and lowers it some steps after a panic. So the live workers are the serving ones only when
nobody can go on. All laws together are `workforce_accounting`.
-/

namespace Threading

namespace Worker

variable {τ : Type} {w : Worker τ}

/-- The operating system let the thread of the worker begin. -/
def hasBegun (w : Worker τ) : Bool := w.thread?.isSome && !w.isHeld

/-- The worker is on its way to its loop, or may take tasks, or runs one. -/
def isServing (w : Worker τ) : Bool :=
  match w.loop, w.handle.spawned with
  | .looking, _ => true
  | .asleep, _ => true
  | .woken, _ => true
  | .running _, _ => true
  | .outside, some { progress := .taken _, .. } => true
  | .outside, some { progress := .raised _, .. } => true
  | _, _ => false

/-- A task of the worker panicked. -/
def isLost (w : Worker τ) : Bool := w.ending? == some true

/-- The worker found the pool shut down and nothing queued. -/
def hasLeft (w : Worker τ) : Bool := w.ending? == some false

/-- A worker with a thread is in one phase, and no other worker is in any. -/
theorem Sound.one_phase (h : w.Sound) :
    [w.isHeld, w.isServing, w.isLost, w.hasLeft].count true = (w.handle.stage != .idle).toNat := by
  cases hs : w.handle.spawned with
  | none =>
    obtain ⟨hl, hidle, -⟩ := h.threadless hs
    simp [isHeld, isServing, isLost, hasLeft, ending?, hs, hl, hidle]
  | some course =>
    have hstage : w.handle.stage ≠ .idle := h.thread?_isSome_iff.1 (by rw [thread?, hs]; rfl)
    have hin := h.inside_iff course hs
    have hspared := h.not_spared course hs
    obtain ⟨t, progress⟩ := course
    have hone : [w.isHeld, w.isServing, w.isLost, w.hasLeft].count true = 1 := by
      cases hl : w.loop with
      | outside =>
        -- Outside the loop, the phase is that of the thread.
        cases progress with
        | inside => simp [hl] at hin
        | spared _ => exact absurd rfl hspared.1
        | unneeded _ => exact absurd rfl hspared.2
        | created | taken _ | raised _ =>
          simp [isHeld, isServing, isLost, hasLeft, ending?, hs, hl]
        | ended panicked | lowered panicked | exited panicked =>
          cases panicked <;> simp [isHeld, isServing, isLost, hasLeft, ending?, hs, hl]
      | releasing panicked =>
        obtain rfl : progress = .inside := by simpa [hl] using hin
        cases panicked <;> simp [isHeld, isServing, isLost, hasLeft, ending?, hs, hl]
      | _ =>
        obtain rfl : progress = .inside := by simpa [hl] using hin
        simp [isHeld, isServing, isLost, hasLeft, ending?, hs, hl]
    rw [hone, bne_iff_ne.2 hstage, Bool.toNat_true]

theorem isLost_congr {w' : Worker τ} (h : w'.ending? = w.ending?) : w'.isLost = w.isLost := by
  rw [isLost, h, isLost]

theorem isLost_of_isAwake (h : w.isAwake = true) : w.isLost = false := by
  rw [isLost, ending?_of_isAwake h]
  rfl

theorem Sound.hasBegun_of_loop (h : w.Sound) (hl : w.loop ≠ .outside) :
    w.hasBegun = true ∧ w.handle.alive = true := by
  obtain ⟨t, ht⟩ := h.inside hl
  refine ⟨?_, (h.alive_iff _ ht).2 (.inr (.inl rfl))⟩
  rw [hasBegun, h.thread?_isSome hl, h.isHeld_of_loop hl, Bool.not_false, Bool.and_true]

/-- A worker whose thread did not begin did not raise the alive flag. -/
theorem Sound.not_lost_of_isHeld (h : w.Sound) (hheld : w.isHeld = true) :
    w.handle.alive = false ∧ w.isLost = false := by
  rw [isHeld] at hheld
  split at hheld
  · next t hs =>
    have hin := h.inside_iff _ hs
    have halive := h.alive_iff _ hs
    have hl : w.loop = .outside := by simpa using hin
    exact ⟨by simpa using halive, by simp [isLost, ending?, hl, hs]⟩
  · cases hheld

/-- A worker whose thread is gone was lost, unless it left, or never had one. -/
theorem Sound.hasBegun_of_isGone (h : w.Sound) (hgone : w.isGone = true)
    (hleft : w.hasLeft = false) : w.hasBegun = w.isLost := by
  cases hs : w.handle.spawned with
  | none =>
    obtain ⟨hl, -⟩ := h.threadless hs
    simp [hasBegun, thread?, isLost, ending?, hs, hl]
  | some course =>
    obtain ⟨t, progress⟩ := course
    have hin := h.inside_iff _ hs
    rw [isGone, hs, Option.all_some] at hgone
    cases progress with
    | exited panicked =>
      have hl : w.loop = .outside := by simpa using hin
      have he : w.ending? = some panicked := by simp [ending?, hl, hs]
      cases panicked with
      | true => simp [hasBegun, thread?, isHeld, isLost, hs, he]
      | false => simp [hasLeft, he] at hleft
    | _ => cases hgone

/-- A worker that cannot go on, and did not leave: if it began, then its alive flag is up, since
    it sleeps or runs a task, or it is lost, since its thread is gone. -/
theorem Sound.hasBegun_eq (h : w.Sound) (hleft : w.hasLeft = false)
    (hrest : w.isHeld = true ∨ w.isAsleep = true ∨ w.isRunning = true ∨ w.isGone = true) :
    w.hasBegun.toNat = w.handle.alive.toNat + w.isLost.toNat := by
  have inLoop : w.loop ≠ .outside → w.ending? = none →
      w.hasBegun.toNat = w.handle.alive.toNat + w.isLost.toNat := by
    intro hl he
    obtain ⟨hbegun, halive⟩ := h.hasBegun_of_loop hl
    simp [isLost, hbegun, halive, he]
  rcases hrest with hheld | hasleep | hrunning | hgone
  · obtain ⟨halive, hlost⟩ := h.not_lost_of_isHeld hheld
    simp [hasBegun, hheld, halive, hlost]
  · have hl := isAsleep_iff.1 hasleep
    exact inLoop (by simp [hl]) (by simp [ending?, hl])
  · obtain ⟨task, htask⟩ := isRunning_iff.1 hrunning
    have hl := task?_eq_some_iff.1 htask
    exact inLoop (by simp [hl]) (by simp [ending?, hl])
  · rw [h.alive_of_isGone hgone, h.hasBegun_of_isGone hgone hleft, Bool.toNat_false, Nat.zero_add]

end Worker

namespace WorkerPool

variable {τ : Type}

/-- The operating system refused this thread. -/
def isRefused (answer : Except Refusal ThreadId) : Bool := answer.toOption.isNone

/-- The tasks that panicked, each with its worker. -/
def panicked (es : History τ) : List (Nat × τ) :=
  es.filterMap fun o => match o.action, o.outcome with
    | .taskEnded i true, .finished task => some (i, task)
    | _, _ => none

theorem panicked_append (es fs : History τ) :
    panicked (es ++ fs) = panicked es ++ panicked fs := List.filterMap_append

/-- A step loses the worker whose task panics in it, and no other one. -/
theorem Transition.countP_isLost {p : WorkerPool τ} {a : Action τ}
    {e : Effect (WorkerPool τ) (Outcome τ)} (ht : Transition p a e) :
    e.state.workers.countP Worker.isLost =
      p.workers.countP Worker.isLost + (panicked [e.after a]).length := by
  cases ht with
  | rouse _ _ _ hw hl =>
    exact countP_set_of_eq hw (Worker.isLost_congr (by simp [Worker.ending?, hl]))
  | take hw ha _ => exact countP_set_of_eq hw (Worker.isLost_of_isAwake ha).symm
  | rest hw ha _ =>
    refine countP_set_of_eq hw ?_
    rw [Worker.isLost_of_isAwake ha]
    split <;> rfl
  | @move i w w' _ o ns hw m =>
    have hnone : panicked [(⟨a, o, ns⟩ : Occurrence (Action τ) (Outcome τ))] = [] := by
      cases m <;> rfl
    simp only [Effect.after, hnone]
    exact countP_set_of_eq hw (Worker.isLost_congr m.ending?)
  | spend hw m _ _ => exact countP_set_of_eq hw (Worker.isLost_congr m.ending?)
  | @finish i w task panicks hw hl _ =>
    have hset := countP_set_add (f := Worker.isLost) hw
      { w with loop := if panicks then .lost else .looking }
    have hbefore : w.isLost = false := by simp [Worker.isLost, Worker.ending?, hl]
    rw [hbefore] at hset
    cases panicks with
    | true => exact hset
    | false => exact hset
  | shutInside _ => exact countP_map_of_eq (fun w => Worker.isLost_congr w.ending?_wake) _
  | shutOutside _ => exact countP_map_of_eq (fun w => Worker.isLost_congr w.ending?_wake) _
  | mark _ hw _ _ => exact countP_set_of_eq hw rfl
  | collect _ hw _ _ _ => exact countP_set_of_eq hw rfl
  | abandon _ _ _ => exact countP_map_of_eq (fun w => Worker.isLost_congr w.ending?_abandon) _
  | abandonLast _ _ _ _ => exact countP_map_of_eq (fun w => Worker.isLost_congr w.ending?_abandon) _
  | _ => rfl

section IsRun

variable {label : String} {answers : List (Except Refusal ThreadId)} {es : History τ}
  {p : WorkerPool τ}

/-- As many workers are lost as tasks panicked. -/
theorem IsRun.countP_isLost (h : IsRun label answers es p) :
    p.workers.countP Worker.isLost = (panicked es).length := by
  refine h.induction (fun fs q => q.workers.countP Worker.isLost = (panicked fs).length) ?_
    fun fs q a e _ _ ht ih => ?_
  · intro workers hfresh _
    refine List.countP_eq_zero.2 fun w hw => ?_
    rw [Worker.isLost, (hfresh w hw).ending?]
    exact Bool.false_ne_true
  · rw [ht.countP_isLost, ih, panicked_append, List.length_append]

/-- Once a worker left, the pool is shut down and nothing is queued. -/
theorem IsRun.left (h : IsRun label answers es p) {w : Worker τ} (hw : w ∈ p.workers)
    (hl : w.hasLeft = true) : p.shutdown = true ∧ p.tasks = [] := by
  obtain ⟨hs, hall⟩ := h.accepted_eq_of_left hw (beq_iff_eq.1 hl)
  refine ⟨hs, ?_⟩
  have horder := h.accounted.in_order
  rw [hall, List.append_assoc, List.self_eq_append_right] at horder
  exact (List.append_eq_nil_iff.1 horder).2

/-- When nobody can go on in a pool that is not shut down, the workers that began are those whose
    alive flag is up and those whose task panicked. -/
theorem IsRun.live_at_rest (h : IsRun label answers es p) (hq : p.Quiescent)
    (hs : p.shutdown = false) :
    p.liveWorkers + (panicked es).length = p.workers.countP Worker.hasBegun := by
  rw [← h.countP_isLost, liveWorkers]
  refine (countP_eq_add fun w hw => ?_).symm
  refine (h.sound w hw).hasBegun_eq ?_ (h.of_quiescent hq hw)
  cases hleft : w.hasLeft with
  | false => rfl
  | true =>
    obtain ⟨hshut, -⟩ := h.left hw hleft
    rw [hs] at hshut
    cases hshut

theorem IsRun.liveWorkers_le (h : IsRun label answers es p) :
    p.liveWorkers ≤ p.spawnedWorkers := by
  refine List.countP_mono_left fun w hw halive => ?_
  have hs := h.sound w hw
  rw [bne_iff_ne, ← hs.thread?_isSome_iff]
  cases hc : w.handle.spawned with
  | none =>
    obtain ⟨-, -, -, -, hdown⟩ := hs.threadless hc
    rw [hdown] at halive
    cases halive
  | some course => rw [Worker.thread?, hc, Option.map_some, Option.isSome_some]

theorem countP_isRefused (answers : List (Except Refusal ThreadId)) :
    (granted answers).length + answers.countP isRefused = answers.length := by
  have hgranted : (granted answers).length = answers.countP fun x => x.toOption.isSome := by
    rw [granted, List.length_filterMap_eq_countP]
  rw [hgranted, ← List.countP_true]
  refine (countP_eq_add fun answer _ => ?_).symm
  cases answer <;> rfl

theorem exists_create_iff :
    (∃ e : Effect (WorkerPool τ) Unit, create label answers = .ok e) ↔ 1 ≤ answers.length := by
  rw [create, Nat.one_le_iff_ne_zero, Ne, List.length_eq_zero_iff]
  cases answers <;> simp

/-- The workers of a pool that was made with these answers of the operating system, after `es`
    happened. -/
structure Workforce (answers : List (Except Refusal ThreadId)) (es : History τ)
    (p : WorkerPool τ) : Prop where
  live_le : p.liveWorkers ≤ p.spawnedWorkers
  spawned_le : p.spawnedWorkers ≤ p.workerCount
  count : p.workerCount = answers.length
  /-- The workers without a thread are those whose thread was refused, for ever. -/
  spawned : p.spawnedWorkers = answers.length - answers.countP isRefused
  /-- A worker with a thread is in one phase, and no other worker is in any. -/
  phases : ∀ w ∈ p.workers, [w.isHeld, w.isServing, w.isLost, w.hasLeft].count true =
    (w.handle.stage != .idle).toNat
  lost : p.workers.countP Worker.isLost = (panicked es).length
  left : ∀ w ∈ p.workers, w.hasLeft = true → p.shutdown = true ∧ p.tasks = []
  live_at_rest : p.Quiescent → p.shutdown = false →
    p.liveWorkers + (panicked es).length = p.workers.countP Worker.hasBegun

/-- A pool can be made with any number of workers but none, whatever threads are refused, and then
    its workers are accounted for at every moment. -/
theorem workforce_accounting (label : String) (answers : List (Except Refusal ThreadId)) :
    ((∃ e : Effect (WorkerPool τ) Unit, create label answers = .ok e) ↔ 1 ≤ answers.length) ∧
      ∀ (es : History τ) (p : WorkerPool τ), IsRun label answers es p →
        Workforce answers es p := by
  refine ⟨exists_create_iff, fun es p h => ?_⟩
  have hspawned := h.spawnedWorkers_eq
  have hcount : p.workerCount = answers.length := by
    simpa [workerCount] using congrArg List.length h.threads
  have hanswers := countP_isRefused answers
  exact {
    live_le := h.liveWorkers_le
    spawned_le := List.countP_le_length
    count := hcount
    spawned := by omega
    phases := fun w hw => (h.sound w hw).one_phase
    lost := h.countP_isLost
    left := fun _ hw => h.left hw
    live_at_rest := h.live_at_rest }

/-- Of four workers, one has no thread, one has a thread that did not begin, one sleeps after its
    task, and one is lost to the other task, when nobody can go on. -/
theorem workforce_accounting_of_panic :
    (∃ e : Effect (WorkerPool Nat) Unit,
      create "pool" [.ok 1, .error (.system 11), .ok 3, .ok 4] = .ok e) ∧
    ∃ (es : History Nat) (p : WorkerPool Nat),
      IsRun "pool" [.ok 1, .error (.system 11), .ok 3, .ok 4] es p ∧ p.Quiescent ∧
      p.shutdown = false ∧
      [p.liveWorkers, p.spawnedWorkers, p.workerCount, p.workers.countP Worker.hasBegun,
        (panicked es).length] = [1, 3, 4, 2, 1] ∧
      Workforce [.ok 1, .error (.system 11), .ok 3, .ok 4] es p := by
  obtain ⟨es, p, h, hf⟩ := exists_isRun "pool" [.ok 1, .error (.system 11), .ok 3, .ok 4]
    [.submit 10 true none, .submit 11 true none, .advance 0, .advance 0, .advance 0, .advance 0,
      .advance 2, .advance 2, .advance 2, .advance 2, .taskEnded 0 false, .advance 0,
      .taskEnded 2 true, .advance 2, .advance 2, .advance 2, .advance 2]
    (fun (es : History Nat) p => (decide p.Quiescent, p.shutdown,
      [p.liveWorkers, p.spawnedWorkers, p.workerCount, p.workers.countP Worker.hasBegun,
        (panicked es).length]))
    (true, false, [1, 3, 4, 2, 1]) (by decide) (by decide)
  simp only [Prod.mk.injEq, decide_eq_true_eq] at hf
  obtain ⟨hmade, hforce⟩ := workforce_accounting (τ := Nat) "pool"
    [.ok 1, .error (.system 11), .ok 3, .ok 4]
  exact ⟨hmade.2 (by decide), es, p, h, hf.1, hf.2.1, hf.2.2, hforce es p h⟩

end IsRun

end WorkerPool

end Threading

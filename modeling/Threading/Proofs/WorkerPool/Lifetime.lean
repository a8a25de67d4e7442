import Threading.Proofs.Run
import Threading.Proofs.WorkerPool.Transition

/-!
# The lifetime of a pool

A pool begins with one worker for each answer of the operating system, all of
them sound, and lives through the steps of its workers and of everybody who calls
it, in any order (`IsRun`). The system never gives a number to two threads.

Proofs about pools go by `IsRun.induction`: a law holds in every state if it
holds of a pool nobody used yet, and if every `Transition` keeps it. The first such
laws: the workers stay sound (`IsRun.sound`), and are the same threads for ever
(`IsRun.threads`).
-/

namespace Threading.WorkerPool

variable {τ : Type}

/-- The threads that the operating system granted. -/
def granted (answers : List (Except Refusal ThreadId)) : List ThreadId :=
  answers.filterMap Except.toOption

/-- What happened to a pool. -/
abbrev History (τ : Type) := List (Occurrence (Action τ) (Outcome τ))

/-- The pool labelled `label` was made with these answers of the operating
    system, then `es` happened, and now it is `p`. -/
structure IsRun (label : String) (answers : List (Except Refusal ThreadId)) (es : History τ)
    (p : WorkerPool τ) : Prop where
  /-- No number is that of two threads. -/
  distinct : (granted answers).Nodup
  run : ∃ e, create label answers = .ok e ∧ Run step e.state es p

/-! ## One step, worker by worker -/

/-- What the action `a` of the pool `p` may do to its worker `i`. -/
inductive Changes (p : WorkerPool τ) (a : Action τ) (i : Nat) (w : Worker τ) : Worker τ → Prop
  | same : Changes p a i w w
  | moves {w' : Worker τ} {o : Outcome τ} {ns : List Notice} :
    w.Moves i w' a o ns → Changes p a i w w'
  | takes {task : τ} {tasks : List τ} :
    a = .advance i → w.isAwake = true → p.tasks = task :: tasks →
    Changes p a i w { w with loop := .running task }
  | rests : a = .advance i → w.isAwake = true → p.tasks = [] →
    Changes p a i w { w with loop := if p.shutdown then .leaving else .asleep }
  | ends {task : τ} {panicked : Bool} :
    a = .taskEnded i panicked → w.loop = .running task →
    Changes p a i w { w with loop := if panicked then .lost else .looking }
  | wakes : w.loop = .asleep → Changes p a i w { w with loop := .woken }
  | marked {c : ThreadId} :
    a = .proceed c → p.destroying c = some (.joining i) → w.handle.stage = .running →
    w.handle.isCurrent c = false → Changes p a i w (w.marked c)
  | collected {c : ThreadId} :
    a = .proceed c → p.destroying c = some (.collecting i) → w.isGone = true →
    Changes p a i w w.collected
  | abandoned : a = .abandon → p.destroys = [] → Changes p a i w w.abandon

namespace Changes

variable {p : WorkerPool τ} {a : Action τ} {i : Nat} {w w' : Worker τ}

theorem wake (p : WorkerPool τ) (a : Action τ) (i : Nat) (w : Worker τ) :
    Changes p a i w w.wake := by
  rw [Worker.wake]
  split
  · next hl => exact .wakes hl
  · exact .same

theorem sound (h : Changes p a i w w') (hs : w.Sound) : w'.Sound := by
  cases h with
  | same => exact hs
  | moves m => exact m.sound hs
  | takes _ ha _ => exact hs.withLoop (Worker.not_outside_of_isAwake ha) nofun
  | rests _ ha _ =>
    exact hs.withLoop (Worker.not_outside_of_isAwake ha) (by split <;> exact nofun)
  | ends _ hl => exact hs.withLoop (by simp [hl]) (by split <;> exact nofun)
  | wakes hl => exact hs.withLoop (by simp [hl]) nofun
  | marked _ _ hr hc => exact hs.marked hr hc
  | collected _ _ hg => exact hs.collected hg
  | abandoned => exact hs.abandon

theorem thread? (h : Changes p a i w w') : w'.thread? = w.thread? := by
  cases h with
  | moves m => exact m.thread?
  | abandoned =>
    obtain ⟨job, dropped, hw, -⟩ := Worker.abandon_eq w
    rw [hw, Worker.thread?, Worker.thread?]
  | _ => rfl

/-- A loop that ended does not begin again, and keeps the way it ended. -/
theorem ending? (h : Changes p a i w w') {b : Bool} (he : w.ending? = some b) :
    w'.ending? = some b := by
  cases h with
  | moves m => rw [m.ending?, he]
  | takes _ ha _ => simp [Worker.ending?_of_isAwake ha] at he
  | rests _ ha _ => simp [Worker.ending?_of_isAwake ha] at he
  | ends _ hl => simp [Worker.ending?, hl] at he
  | wakes hl => simp [Worker.ending?, hl] at he
  | abandoned =>
    obtain ⟨job, dropped, hw, -⟩ := Worker.abandon_eq w
    rw [hw]
    exact he
  | _ => exact he

/-- A worker that takes no more tasks never will. -/
theorem isOpen (h : Changes p a i w w') (ho : w.isOpen = false) : w'.isOpen = false := by
  have hthread : w'.handle.spawned.isSome = w.handle.spawned.isSome := by
    simpa [Worker.thread?] using congrArg Option.isSome h.thread?
  rw [Worker.isOpen, hthread]
  cases he : w.ending? with
  | none => simp_all [Worker.isOpen]
  | some b => simp [h.ending? he]

/-- A thread that is gone stays gone. -/
theorem isGone (h : Changes p a i w w') (hs : w.Sound) (hg : w.isGone = true) :
    w'.isGone = true := by
  cases h with
  | moves m => simp [m.isGone hs] at hg
  | abandoned =>
    obtain ⟨job, dropped, hw, -⟩ := Worker.abandon_eq w
    rw [hw]
    exact hg
  | _ => exact hg

/-- A worker that was joined stays joined. -/
theorem joined (h : Changes p a i w w') (hj : w.handle.stage = .joined) :
    w'.handle.stage = .joined := by
  cases h with
  | moves m => rw [m.stage, hj]
  | marked => rfl
  | abandoned =>
    obtain ⟨job, dropped, hw, -⟩ := Worker.abandon_eq w
    rw [hw]
    exact hj
  | _ => exact hj

/-- Until its task is over, a worker runs it. -/
theorem task? (h : Changes p a i w w') {task : τ} (ht : w.task? = some task)
    (ha : ∀ panicked, a ≠ .taskEnded i panicked) : w'.task? = some task := by
  cases h with
  | moves m => simp [m.task?.1] at ht
  | takes _ hw _ => simp [Worker.task?_of_isAwake hw] at ht
  | rests _ hw _ => simp [Worker.task?_of_isAwake hw] at ht
  | ends he _ => exact absurd he (ha _)
  | wakes hl => simp [Worker.task?, hl] at ht
  | abandoned =>
    obtain ⟨job, dropped, hw, -⟩ := Worker.abandon_eq w
    rw [hw]
    exact ht
  | _ => exact ht

/-- Only the destroys that join a worker change who waits for it. -/
theorem joiner (h : Changes p a i w w') :
    w'.handle.joiner = w.handle.joiner ∨ ∃ c, a = .proceed c ∧
      (p.destroying c = some (.collecting i) ∨ p.destroying c = some (.joining i) ∧
        w.handle.stage = .running ∧ w.handle.isCurrent c = false) := by
  cases h with
  | moves m => exact .inl m.joiner
  | marked ha hd hr hc => exact .inr ⟨_, ha, .inr ⟨hd, hr, hc⟩⟩
  | collected ha hd _ => exact .inr ⟨_, ha, .inl hd⟩
  | abandoned =>
    obtain ⟨job, dropped, hw, -⟩ := Worker.abandon_eq w
    rw [hw]
    exact .inl rfl
  | _ => exact .inl rfl

end Changes

theorem changes_set {p : WorkerPool τ} {a : Action τ} {ws : List (Worker τ)} {i k : Nat}
    {v v' w : Worker τ} (hv : ws[k]? = some v) (hc : Changes p a k v v') (hw : ws[i]? = some w) :
    ∃ w', (ws.set k v')[i]? = some w' ∧ Changes p a i w w' := by
  by_cases hik : k = i
  · subst hik
    obtain rfl : v = w := Option.some.inj (hv.symm.trans hw)
    exact ⟨v', getElem?_set_self_of_some hv v', hc⟩
  · exact ⟨w, by rw [List.getElem?_set_ne hik, hw], .same⟩

theorem changes_map {p : WorkerPool τ} {a : Action τ} {ws : List (Worker τ)} {i : Nat}
    {w : Worker τ} {f : Worker τ → Worker τ} (hf : Changes p a i w (f w)) (hw : ws[i]? = some w) :
    ∃ w', (ws.map f)[i]? = some w' ∧ Changes p a i w w' :=
  ⟨f w, by rw [List.getElem?_map, hw]; rfl, hf⟩

/-- A step does to every worker one of the things that steps do to workers. -/
theorem Transition.changes {p : WorkerPool τ} {a : Action τ}
    {e : Effect (WorkerPool τ) (Outcome τ)} (h : Transition p a e) {i : Nat} {w : Worker τ}
    (hw : p.workers[i]? = some w) :
    ∃ w', e.state.workers[i]? = some w' ∧ Changes p a i w w' := by
  cases h with
  | rouse _ _ _ hv hl => exact changes_set hv (.wakes hl) hw
  | take hv ha hp => exact changes_set hv (.takes rfl ha hp) hw
  | rest hv ha hp => exact changes_set hv (.rests rfl ha hp) hw
  | move hv m => exact changes_set hv (.moves m) hw
  | spend hv m _ _ => exact changes_set hv (.moves m) hw
  | finish hv hl _ => exact changes_set hv (.ends rfl hl) hw
  | shutInside _ => exact changes_map (.wake ..) hw
  | shutOutside _ => exact changes_map (.wake ..) hw
  | mark hd hv hr hc => exact changes_set hv (.marked rfl hd hr hc) hw
  | collect hd hv _ hg _ => exact changes_set hv (.collected rfl hd hg) hw
  | abandon _ _ hd => exact changes_map (.abandoned rfl hd) hw
  | abandonLast _ _ hd => exact changes_map (.abandoned rfl hd) hw
  | _ => exact ⟨w, hw, .same⟩

theorem Transition.length_workers {p : WorkerPool τ} {a : Action τ}
    {e : Effect (WorkerPool τ) (Outcome τ)} (h : Transition p a e) :
    e.state.workers.length = p.workers.length := by
  cases h <;> simp

/-- A worker after a step was a worker before. -/
theorem Transition.changed {p : WorkerPool τ} {a : Action τ}
    {e : Effect (WorkerPool τ) (Outcome τ)} (h : Transition p a e) {i : Nat} {w' : Worker τ}
    (hw' : e.state.workers[i]? = some w') : ∃ w, p.workers[i]? = some w ∧ Changes p a i w w' := by
  obtain ⟨hi, -⟩ := List.getElem?_eq_some_iff.1 hw'
  rw [h.length_workers] at hi
  obtain ⟨x, hx, hc⟩ := h.changes (List.getElem?_eq_getElem hi)
  obtain rfl : x = w' := Option.some.inj (hx.symm.trans hw')
  exact ⟨_, List.getElem?_eq_getElem hi, hc⟩

theorem Transition.mem_changed {p : WorkerPool τ} {a : Action τ}
    {e : Effect (WorkerPool τ) (Outcome τ)} (h : Transition p a e) {w' : Worker τ}
    (hw' : w' ∈ e.state.workers) : ∃ i w, p.workers[i]? = some w ∧ Changes p a i w w' := by
  obtain ⟨i, hi⟩ := List.getElem?_of_mem hw'
  obtain ⟨w, hw, hc⟩ := h.changed hi
  exact ⟨i, w, hw, hc⟩

/-! ## One step, destroy by destroy -/

/-- What the action `a` of the pool `p` may do to the destroy of the thread `c`. -/
inductive Goes (p : WorkerPool τ) (a : Action τ) (c : ThreadId) :
    Option Destroying → Option Destroying → Prop
  | same {d : Option Destroying} : Goes p a c d d
  | called : a = .destroy c → p.abandoned = false → Goes p a c none (some (.asking 0))
  | asks {k : Nat} {w : Worker τ} : a = .proceed c → p.workers[k]? = some w →
    w.handle.isCurrent c = false → Goes p a c (some (.asking k)) (some (.asking (k + 1)))
  | finds {k : Nat} {w : Worker τ} : a = .proceed c → p.workers[k]? = some w →
    w.handle.isCurrent c = true → Goes p a c (some (.asking k)) (some (.shutting true))
  | asked {k : Nat} : a = .proceed c → p.workers.length ≤ k →
    Goes p a c (some (.asking k)) (some (.shutting false))
  | leaves : a = .proceed c → Goes p a c (some (.shutting true)) none
  | waits : a = .proceed c → Goes p a c (some (.shutting false)) (some .waiting)
  | locks : a = .proceed c → p.teardown = none → Goes p a c (some .waiting) (some (.joining 0))
  | passes {k : Nat} {w : Worker τ} : a = .proceed c → p.workers[k]? = some w →
    w.handle.stage ≠ .running ∨ w.handle.isCurrent c = true →
    Goes p a c (some (.joining k)) (some (.joining (k + 1)))
  | marks {k : Nat} {w : Worker τ} : a = .proceed c → p.workers[k]? = some w →
    Goes p a c (some (.joining k)) (some (.collecting k))
  | collects {k : Nat} {w : Worker τ} : a = .proceed c → p.workers[k]? = some w →
    w.isGone = true → Goes p a c (some (.collecting k)) (some (.joining (k + 1)))
  | sweeps {k : Nat} : a = .proceed c → p.workers.length ≤ k →
    Goes p a c (some (.joining k)) (some .taking)
  | takes : a = .proceed c → Goes p a c (some .taking) (some (.dropping p.pending))
  | ends {count : Nat} : a = .proceed c → Goes p a c (some (.dropping count)) none

theorem goes_setDestroying {p q : WorkerPool τ} {c x : ThreadId} {d d' : Destroying}
    (hq : q.destroys = p.destroys) (hd : p.destroying x = some d)
    (hg : Goes p (.proceed x) x (some d) (some d')) :
    Goes p (.proceed x) c (p.destroying c) ((q.setDestroying x d').destroying c) := by
  have hqp : ∀ y, q.destroying y = p.destroying y := fun y => by rw [destroying, hq, destroying]
  rw [destroying_setDestroying, hqp, hqp]
  split
  · next hc =>
    subst hc
    rw [hd]
    exact hg
  · exact .same

theorem goes_endDestroying {p q : WorkerPool τ} {c x : ThreadId} {d : Destroying}
    (hq : q.destroys = p.destroys) (hd : p.destroying x = some d)
    (hg : Goes p (.proceed x) x (some d) none) :
    Goes p (.proceed x) c (p.destroying c) ((q.endDestroying x).destroying c) := by
  have hqp : ∀ y, q.destroying y = p.destroying y := fun y => by rw [destroying, hq, destroying]
  rw [destroying_endDestroying, hqp]
  split
  · next hc =>
    subst hc
    rw [hd]
    exact hg
  · exact .same

/-- A step does to every destroy one of the things that steps do to destroys. -/
theorem Transition.goes {p : WorkerPool τ} {a : Action τ}
    {e : Effect (WorkerPool τ) (Outcome τ)} (h : Transition p a e) (c : ThreadId) :
    Goes p a c (p.destroying c) (e.state.destroying c) := by
  cases h with
  | @call x ha hn _ =>
    change Goes p _ c _ ((p.destroys ++ [(x, Destroying.asking 0)]).lookup c)
    rw [destroying_call p hn]
    split
    · next hc =>
      subst hc
      rw [hn]
      exact .called rfl ha
    · exact .same
  | @ask x _ w hd hw =>
    cases hc : w.handle.isCurrent x with
    | true => exact goes_setDestroying rfl hd (.finds rfl hw hc)
    | false => exact goes_setDestroying rfl hd (.asks rfl hw hc)
  | asked hd hk => exact goes_setDestroying rfl hd (.asked rfl hk)
  | shutInside hd => exact goes_endDestroying rfl hd (.leaves rfl)
  | shutOutside hd => exact goes_setDestroying rfl hd (.waits rfl)
  | lock hd ht => exact goes_setDestroying rfl hd (.locks rfl ht)
  | pass hd hw hr => exact goes_setDestroying rfl hd (.passes rfl hw hr)
  | mark hd hw _ _ => exact goes_setDestroying rfl hd (.marks rfl hw)
  | collect hd hw _ hg _ => exact goes_setDestroying rfl hd (.collects rfl hw hg)
  | swept hd hk => exact goes_setDestroying rfl hd (.sweeps rfl hk)
  | drain hd => exact goes_setDestroying rfl hd (.takes rfl)
  | finishDestroy hd => exact goes_endDestroying rfl hd (.ends rfl)
  | _ => exact .same

/-- Where a destroy went from here. -/
theorem Transition.goes_from {p : WorkerPool τ} {a : Action τ}
    {e : Effect (WorkerPool τ) (Outcome τ)} (h : Transition p a e) {c : ThreadId}
    {d : Option Destroying} (hd : p.destroying c = d) :
    ∃ o, e.state.destroying c = o ∧ Goes p a c d o :=
  ⟨_, rfl, hd ▸ h.goes c⟩

/-- Where a destroy came from. -/
theorem Transition.goes_to {p : WorkerPool τ} {a : Action τ}
    {e : Effect (WorkerPool τ) (Outcome τ)} (h : Transition p a e) {c : ThreadId}
    {d : Option Destroying} (hd : e.state.destroying c = d) :
    ∃ o, p.destroying c = o ∧ Goes p a c o d :=
  ⟨_, rfl, hd ▸ h.goes c⟩

/-- Nobody but its caller moves a destroy. -/
theorem Goes.eq_some {p : WorkerPool τ} {a : Action τ} {c : ThreadId} {d : Destroying}
    {o : Option Destroying} (h : Goes p a c (some d) o) (ha : a ≠ .proceed c) : o = some d := by
  cases h with
  | same => rfl
  | _ => exact absurd ‹a = .proceed c› ha

/-! ## The beginning -/

theorem thread?_startWorker (label : String) (i : Nat) (answer : Except Refusal ThreadId) :
    (startWorker (τ := τ) label i answer).state.thread? = answer.toOption := by
  cases answer <;> rfl

theorem fresh_startWorker (label : String) (i : Nat) (answer : Except Refusal ThreadId) :
    (startWorker (τ := τ) label i answer).state.Fresh := by
  cases answer <;> constructor <;> (try constructor) <;>
    simp [startWorker, Handle.createStarted, Handle.create]

/-- A new pool has nothing to do, fresh workers, and one thread for each that
    was granted. -/
theorem create_eq_ok {label : String} {answers : List (Except Refusal ThreadId)}
    {e : Effect (WorkerPool τ) Unit} (h : create label answers = .ok e) :
    ∃ workers, e.state = { workers } ∧ (∀ w ∈ workers, w.Fresh) ∧
      workers.map Worker.thread? = answers.map Except.toOption := by
  rw [create] at h
  split at h
  · cases h
  · cases h
    refine ⟨_, rfl, fun w hw => ?_, ?_⟩
    · obtain ⟨s, hs, rfl⟩ := List.mem_map.1 hw
      obtain ⟨i, hi, rfl⟩ := List.mem_mapIdx.1 hs
      exact fresh_startWorker label i answers[i]
    · apply List.ext_getElem
      · simp
      · intro i _ _
        simp only [List.getElem_map, List.getElem_mapIdx]
        exact thread?_startWorker label i _

/-! ## Every moment -/

namespace IsRun

variable {label : String} {answers : List (Except Refusal ThreadId)} {es : History τ}
  {p : WorkerPool τ}

/-- The run one step on. -/
theorem snoc {a : Action τ} {e : Effect (WorkerPool τ) (Outcome τ)}
    (h : IsRun label answers es p) (he : p.step a = some e) :
    IsRun label answers (es ++ [e.after a]) e.state := by
  obtain ⟨hd, f, hf, hrun⟩ := h
  exact ⟨hd, f, hf, hrun.snoc he⟩

/-- The workers stay sound. -/
theorem sound (h : IsRun label answers es p) : ∀ w ∈ p.workers, w.Sound := by
  obtain ⟨-, e, he, hrun⟩ := h
  refine hrun.invariant (fun _ q => ∀ w ∈ q.workers, w.Sound) ?_ ?_
  · obtain ⟨workers, hstate, hfresh, -⟩ := create_eq_ok he
    rw [hstate]
    exact fun w hw => (hfresh w hw).toSound
  · intro fs q a f _ hq hstep w' hw'
    obtain ⟨i, w, hw, hc⟩ := (transition_of_step hq hstep).mem_changed hw'
    exact hc.sound (hq w (List.mem_of_getElem? hw))

theorem sound_at (h : IsRun label answers es p) {i : Nat} {w : Worker τ}
    (hw : p.workers[i]? = some w) : w.Sound :=
  h.sound w (List.mem_of_getElem? hw)

/-- What holds of a pool nobody used yet, and is kept by every transition,
    holds at every moment. -/
theorem induction (h : IsRun label answers es p) (Inv : History τ → WorkerPool τ → Prop)
    (start : ∀ workers : List (Worker τ), (∀ w ∈ workers, w.Fresh) →
      workers.map Worker.thread? = answers.map Except.toOption → Inv [] { workers })
    (step : ∀ fs q a e, IsRun label answers fs q →
      IsRun label answers (fs ++ [e.after a]) e.state → Transition q a e → Inv fs q →
      Inv (fs ++ [e.after a]) e.state) : Inv es p := by
  obtain ⟨hd, e, he, hrun⟩ := h
  refine hrun.invariant Inv ?_ ?_
  · obtain ⟨workers, hstate, hfresh, hthreads⟩ := create_eq_ok he
    rw [hstate]
    exact start workers hfresh hthreads
  · intro fs q a f hfs hq hstep
    have hfs : IsRun label answers fs q := ⟨hd, e, he, hfs⟩
    exact step fs q a f hfs (hfs.snoc hstep) (transition_of_step hfs.sound hstep) hq

theorem append {fs : History τ} {q : WorkerPool τ} (h : IsRun label answers es p)
    (h' : Run step p fs q) : IsRun label answers (es ++ fs) q := by
  obtain ⟨hd, f, hf, hrun⟩ := h
  exact ⟨hd, f, hf, hrun.append h'⟩

/-- The workers are the same threads for ever. -/
theorem threads (h : IsRun label answers es p) :
    p.workers.map Worker.thread? = answers.map Except.toOption := by
  refine h.induction (fun _ q => q.workers.map Worker.thread? = answers.map Except.toOption)
    (fun _ _ hthreads => hthreads) fun fs q a e _ _ ht ih => ?_
  rw [← ih]
  apply List.ext_getElem?
  intro i
  rw [List.getElem?_map, List.getElem?_map]
  cases hi : q.workers[i]? with
  | none =>
    rw [List.getElem?_eq_none_iff, ← ht.length_workers, ← List.getElem?_eq_none_iff] at hi
    rw [hi]
  | some w =>
    obtain ⟨w', hw', hc⟩ := ht.changes hi
    rw [hw', Option.map_some, Option.map_some, hc.thread?]

theorem filterMap_thread? (h : IsRun label answers es p) :
    p.workers.filterMap Worker.thread? = granted answers := by
  have hmap := congrArg (List.filterMap id) h.threads
  rwa [List.filterMap_map, List.filterMap_map] at hmap

theorem length_granted (h : IsRun label answers es p) :
    (granted answers).length = p.workers.countP fun w => w.thread?.isSome := by
  rw [← h.filterMap_thread?, List.length_filterMap_eq_countP]

/-- The threads granted are those of the workers. -/
theorem mem_granted_iff (h : IsRun label answers es p) {t : ThreadId} :
    t ∈ granted answers ↔ ∃ w ∈ p.workers, w.thread? = some t := by
  rw [← h.filterMap_thread?, List.mem_filterMap]

/-- A thread is that of one worker. -/
theorem worker_unique (h : IsRun label answers es p) {i j : Nat} {v w : Worker τ} {t : ThreadId}
    (hv : p.workers[i]? = some v) (hw : p.workers[j]? = some w) (htv : v.thread? = some t)
    (htw : w.thread? = some t) : i = j := by
  -- The workers have the granted numbers in order, and these are distinct.
  have hd := h.distinct
  rw [← h.filterMap_thread?, List.Nodup, List.pairwise_filterMap, List.pairwise_iff_getElem] at hd
  obtain ⟨hi, rfl⟩ := List.getElem?_eq_some_iff.1 hv
  obtain ⟨hj, rfl⟩ := List.getElem?_eq_some_iff.1 hw
  rcases Nat.lt_trichotomy i j with hij | hij | hij
  · exact absurd rfl (hd i j hi hj hij t htv t htw)
  · exact hij
  · exact absurd rfl (hd j i hj hi hij t htw t htv)

end IsRun

/-- What happens to a new pool when these actions are taken, and how it ends. -/
def scripted (label : String) (answers : List (Except Refusal ThreadId))
    (actions : List (Action τ)) : Option (History τ × WorkerPool τ) :=
  match create label answers with
  | .ok e => play step e.state actions
  | .error _ => none

/-- Where a script can be played, it is a run. -/
theorem exists_isRun (label : String) (answers : List (Except Refusal ThreadId))
    (actions : List (Action τ)) {α : Type} (f : History τ → WorkerPool τ → α) (result : α)
    (hd : (granted answers).Nodup)
    (h : (scripted label answers actions).map (fun x => f x.1 x.2) = some result) :
    ∃ es p, IsRun label answers es p ∧ f es p = result := by
  obtain ⟨⟨es, p⟩, hplay, hf⟩ := Option.map_eq_some_iff.1 h
  refine ⟨es, p, ⟨hd, ?_⟩, hf⟩
  rw [scripted] at hplay
  split at hplay
  · next e he => exact ⟨e, he, run_of_play hplay⟩
  · cases hplay

end Threading.WorkerPool

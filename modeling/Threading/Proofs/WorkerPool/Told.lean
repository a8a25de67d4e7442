import Threading.Proofs.Handle.Join
import Threading.Proofs.WorkerPool.AtRest
import Threading.Proofs.WorkerPool.Shutdown
import Threading.Proofs.WorkerPool.Workforce

/-!
# What is written about a worker

When its loop ended, a worker writes how, and the destroy that waited for its thread writes that a
task had panicked on it. What they wrote is kept with the worker (`Told`):

* a worker tells once how its loop ended, in the step after it did (`Transition.count_farewell`);
* the destroy that waited for it reports a panic once, when the wait is over
  (`Transition.of_collecting`).

No other errors are written (`IsRun.length_errors`). A destroy that returns on a thread outside
the pool waited for every worker that has a thread (`IsRun.isCollected`), so from then on
everything that is ever written about a worker is written.
-/

namespace Threading

namespace Worker

variable {τ : Type}

/-- The worker said how its loop ended. -/
def hasTold (w : Worker τ) (panicked : Bool) : Bool :=
  match w.loop with
  | .leaving | .lost => false
  | _ => w.ending? == some panicked

/-- The thread of the worker was joined, and the wait for it is over. -/
def isCollected (w : Worker τ) : Bool := w.handle.stage == .joined && w.handle.joiner.isNone

theorem isCollected_iff {w : Worker τ} :
    w.isCollected = true ↔ w.handle.stage = .joined ∧ w.handle.joiner = none := by
  simp [isCollected]

/-- The panic of a task on the worker was reported by whoever waited for its thread. -/
def isReported (w : Worker τ) : Bool := w.isCollected && w.isLost

theorem Sound.isGone_of_isCollected {w : Worker τ} (h : w.Sound) (hc : w.isCollected = true) :
    w.isGone = true := by
  obtain ⟨hj, hn⟩ := isCollected_iff.1 hc
  exact h.isGone_of_joiner (by simp [hj]) hn

theorem Sound.joined_of_joiner {w : Worker τ} (h : w.Sound) {c : ThreadId}
    (hj : w.handle.joiner = some c) : w.handle.stage = .joined := by
  cases hs : w.handle.spawned with
  | none =>
    rw [(h.threadless hs).2.2.2.1] at hj
    cases hj
  | some course =>
    rcases h.joined course hs with ⟨-, -, hnone⟩ | ⟨hstage, -⟩
    · rw [hnone] at hj
      cases hj
    · exact hstage

/-- A worker whose thread was waited for is reported if it was lost, and was not before. -/
theorem Sound.isReported_collected {w : Worker τ} (h : w.Sound) {c : ThreadId}
    (hj : w.handle.joiner = some c) : w.isReported = false ∧ w.collected.isReported = w.isLost := by
  refine ⟨by simp [isReported, isCollected, hj], ?_⟩
  have hcollected : w.collected.isCollected = true :=
    isCollected_iff.2 ⟨h.joined_of_joiner hj, rfl⟩
  rw [isReported, hcollected, Bool.true_and]
  rfl

/-- The loop of a worker that has yet to say so ended with a panic or without one. -/
theorem exists_ended {w : Worker τ} (h : w.loop = .leaving ∨ w.loop = .lost) :
    ∃ panicked : Bool, w.loop = if panicked then .lost else .leaving :=
  h.elim (fun h => ⟨false, h⟩) fun h => ⟨true, h⟩

/-- A worker whose loop just ended did not say so yet. -/
theorem hasTold_of_ended {w : Worker τ} {b : Bool} (h : w.loop = if b then .lost else .leaving)
    (panicked : Bool) : w.hasTold panicked = false := by
  cases b <;> simp_all [hasTold]

theorem hasTold_releasing (w : Worker τ) (b panicked : Bool) :
    ({ w with loop := .releasing b } : Worker τ).hasTold panicked = (b == panicked) := by
  cases b <;> cases panicked <;> rfl

/-- A worker whose thread is gone said how its loop ended, if it did. -/
theorem Sound.hasTold_of_isGone {w : Worker τ} (h : w.Sound) (hg : w.isGone = true)
    (panicked : Bool) : w.hasTold panicked = (w.ending? == some panicked) := by
  have hl : w.loop = .outside := by
    cases hs : w.handle.spawned with
    | none => exact (h.threadless hs).1
    | some course =>
      have hin := h.inside_iff course hs
      rw [isGone, hs, Option.all_some] at hg
      by_contra hne
      rw [hin.2 hne] at hg
      cases hg
  rw [hasTold, hl]

theorem Sound.ending?_of_isCollected {w : Worker τ} (h : w.Sound) (hc : w.isCollected = true) :
    ∃ b, w.ending? = some b := by
  have hopen := h.isOpen_of_isGone (h.isGone_of_isCollected hc)
  have hthread := h.thread?_isSome_iff.2 (by simp [(isCollected_iff.1 hc).1])
  rw [Worker.thread?, Option.isSome_map] at hthread
  rw [isOpen, hthread, Bool.true_and] at hopen
  exact Option.isSome_iff_exists.1 (by simpa using hopen)

end Worker

namespace WorkerPool

variable {τ : Type}

/-- A step of a pool, with the state that it found. -/
abbrev Moment (τ : Type) := WorkerPool τ × Occurrence (Action τ) (Outcome τ)

/-- The steps of a pool that was made with these answers. -/
def observed (label : String) (answers : List (Except Refusal ThreadId)) (es : History τ) :
    List (Moment τ) :=
  match create label answers with
  | .ok e => moments step e.state es
  | .error _ => []

/-- What the worker `i` says when its loop ended. -/
def farewell (i : Nat) (panicked : Bool) : Notice :=
  if panicked then .workerLost i else .workerExiting i

/-- The worker that begins a task. -/
def beginner? : Notice → Option Nat
  | .taskBegun i => some i
  | _ => none

/-- The errors among these. -/
def errors (ns : List Notice) : List Record :=
  (ns.map Notice.record).filter fun r => r.level == .error

/-- What is logged of a panic on the thread of that name. -/
def panicReport (name : ThreadName) : Record :=
  ⟨.error, "workpool::thread_pool::worker", s!"thread `{name.text}` panicked"⟩

/-- The errors logged when a wait for the worker `i` is over, each with whoever waited. -/
def joinErrors (ms : List (Moment τ)) (i : Nat) : List (ThreadId × Record) :=
  ms.flatMap fun m => match m.2.action with
    | .proceed c =>
      if m.1.destroying c = some (.collecting i) then (errors m.2.notices).map fun r => (c, r)
      else []
    | _ => []

/-! ## One step -/

section Step

variable {p : WorkerPool τ} {a : Action τ} {e : Effect (WorkerPool τ) (Outcome τ)} {i : Nat}
  {w w' : Worker τ}

/-- A worker whose loop ended says so in its next step. -/
theorem Transition.of_ended (ht : Transition p (.advance i) e) (hw : p.workers[i]? = some w)
    {panicked : Bool} (hl : w.loop = if panicked then .lost else .leaving) :
    e.notices = [farewell i panicked] ∧
      e.state.workers = p.workers.set i { w with loop := .releasing panicked } := by
  cases ht with
  | take hv ha | rest hv ha =>
    obtain rfl := Option.some.inj (hw.symm.trans hv)
    cases panicked <;> simp [Worker.isAwake, hl] at ha
  | spend hv m =>
    obtain rfl := Option.some.inj (hw.symm.trans hv)
    cases m <;> cases panicked <;> simp_all
  | @move k v v' _ _ _ hv m =>
    have hk : k = i := by cases m <;> rfl
    subst hk
    obtain rfl := Option.some.inj (hw.symm.trans hv)
    cases m <;> cases panicked <;> simp_all [farewell]

/-- In any other step, what a worker said stays as it was. -/
theorem Changes.hasTold (h : Changes p a i w w') (panicked : Bool)
    (hn : ¬(a = .advance i ∧ (w.loop = .leaving ∨ w.loop = .lost))) :
    w'.hasTold panicked = w.hasTold panicked := by
  cases h with
  | moves m => cases m <;> simp_all [Worker.hasTold, Worker.ending?]
  | takes _ ha | rests _ ha =>
    rcases Worker.isAwake_iff.1 ha with hl | hl <;>
      simp [Worker.hasTold, Worker.ending?, hl] <;> split <;> simp_all
  | ends _ hl => cases ‹Bool› <;> simp [Worker.hasTold, Worker.ending?, hl]
  | wakes hl => simp [Worker.hasTold, Worker.ending?, hl]
  | abandoned =>
    rw [Worker.hasTold, Worker.hasTold, Worker.loop_abandon, Worker.ending?_abandon]
  | _ => rfl

/-- A worker says once how its loop ended, in the step after it did. -/
theorem Transition.count_farewell (ht : Transition p a e) (hw : p.workers[i]? = some w)
    (hw' : e.state.workers[i]? = some w') (panicked : Bool) :
    e.notices.count (farewell i panicked) + (w.hasTold panicked).toNat =
      (w'.hasTold panicked).toNat := by
  by_cases hnow : a = .advance i ∧ (w.loop = .leaving ∨ w.loop = .lost)
  · obtain ⟨rfl, hl⟩ := hnow
    obtain ⟨b, hb⟩ := Worker.exists_ended hl
    obtain ⟨hnotices, hworkers⟩ := ht.of_ended hw hb
    rw [hworkers, getElem?_set_self_of_some hw] at hw'
    cases hw'
    rw [hnotices, Worker.hasTold_of_ended hb, Worker.hasTold_releasing]
    cases b <;> cases panicked <;> simp [farewell]
  · obtain ⟨v, hv, hc⟩ := ht.changes hw
    obtain rfl := Option.some.inj (hv.symm.trans hw')
    rw [hc.hasTold panicked hnow, List.count_eq_zero.2, Nat.zero_add]
    cases ht with
    | @move k u _ _ _ _ hu m =>
      cases m with
      | leave hl | lose hl =>
        simp only [farewell, List.mem_singleton]
        rintro heq
        obtain rfl : i = k := by
          split at heq <;> cases heq
          rfl
        obtain rfl := Option.some.inj (hu.symm.trans hw)
        exact hnow ⟨rfl, by simp [hl]⟩
      | _ => exact List.not_mem_nil
    | shutInside | shutOutside | pass | drain =>
      dsimp only
      split <;> cases panicked <;> simp [farewell]
    | @collect _ _ _ result => cases result <;> cases panicked <;> simp [joinNotices, farewell]
    | _ => cases panicked <;> simp [farewell]

/-- A worker begins its tasks with a record, and nobody else writes such a one. -/
theorem Transition.beginners (ht : Transition p a e) :
    e.notices.filterMap beginner? = (begun [e.after a]).map Prod.fst := by
  cases ht with
  | move _ m => cases m <;> rfl
  | shutInside | shutOutside | pass | drain =>
    dsimp only
    split <;> rfl
  | @collect _ _ _ result => cases result <;> rfl
  | _ => rfl

/-- No step finds that a worker has no thread. -/
theorem Transition.not_unavailable (ht : Transition p a e) (k : Nat) (error : Error) :
    Notice.workerUnavailable k error ∉ e.notices := by
  cases ht with
  | move _ m => cases m <;> simp
  | shutInside | shutOutside | pass | drain =>
    dsimp only
    split <;> simp
  | @collect _ _ _ result => cases result <;> simp [joinNotices]
  | _ => simp

/-- A worker is lost only when its task panics. -/
theorem Changes.isLost (h : Changes p a i w w') (hn : a ≠ .taskEnded i true) :
    w'.isLost = w.isLost := by
  cases h with
  | moves m => exact Worker.isLost_congr m.ending?
  | takes _ ha => exact (Worker.isLost_of_isAwake ha).symm
  | rests _ ha =>
    rw [Worker.isLost_of_isAwake ha]
    split <;> rfl
  | @ends _ panicked ha hl =>
    cases panicked with
    | false => simp [Worker.isLost, Worker.ending?, hl]
    | true => exact absurd ha hn
  | wakes hl => exact Worker.isLost_congr (by simp [Worker.ending?, hl])
  | abandoned => exact Worker.isLost_congr w.ending?_abandon
  | _ => rfl

/-- A worker is lost when its task panics. -/
theorem Transition.panicked_of_worker (ht : Transition p a e) (hw : p.workers[i]? = some w)
    (hw' : e.state.workers[i]? = some w') :
    (ofWorker i (panicked [e.after a])).length + w.isLost.toNat = w'.isLost.toNat := by
  by_cases hnow : a = .taskEnded i true
  · subst hnow
    cases ht with
    | move _ m => cases m
    | finish hv hl =>
      obtain rfl := Option.some.inj (hw.symm.trans hv)
      obtain rfl := Option.some.inj ((getElem?_set_self_of_some hv _).symm.trans hw')
      simp [panicked, ofWorker, Effect.after, Worker.isLost, Worker.ending?, hl]
  · obtain ⟨v, hv, hc⟩ := ht.changes hw
    obtain rfl := Option.some.inj (hv.symm.trans hw')
    have hnone : ofWorker i (panicked [e.after a]) = [] := by
      cases ht with
      | move _ m => cases m <;> rfl
      | @finish k _ _ panics =>
        cases panics with
        | false => rfl
        | true =>
          have hk : k ≠ i := fun hk => hnow (by rw [hk])
          simp [panicked, ofWorker, Effect.after, hk]
      | _ => rfl
    rw [hnone, hc.isLost hnow, List.length_nil, Nat.zero_add]

/-- Only the destroy that waits for a worker is done with it. -/
theorem Changes.isCollected (h : Changes p a i w w')
    (hn : ∀ c, a = .proceed c → p.destroying c ≠ some (.collecting i)) :
    w'.isCollected = w.isCollected := by
  cases h with
  | moves m => rw [Worker.isCollected, m.stage, m.joiner, Worker.isCollected]
  | marked _ _ hr => simp [Worker.isCollected, Worker.marked, hr]
  | collected ha hd => exact absurd hd (hn _ ha)
  | abandoned =>
    obtain ⟨job, dropped, habandon, -⟩ := Worker.abandon_eq w
    rw [habandon, Worker.isCollected, Worker.isCollected]
  | _ => rfl

/-- When the wait for a worker is over, the destroy that waited reports a panic, if there was one. -/
theorem Transition.of_collecting {c : ThreadId} (ht : Transition p (.proceed c) e)
    (hw : p.workers[i]? = some w) (hs : w.Sound) (hd : p.destroying c = some (.collecting i)) :
    errors e.notices = (if w.isLost then [panicReport w.handle.name] else []) ∧
      e.state.workers = p.workers.set i w.collected ∧ w.handle.joiner = some c := by
  cases ht with
  | move _ m => cases m
  | @collect _ k v result hd' hv hj hg hresult =>
    obtain rfl : i = k := by
      rw [hd] at hd'
      cases hd'
      rfl
    obtain rfl := Option.some.inj (hw.symm.trans hv)
    refine ⟨?_, rfl, hj⟩
    obtain ⟨t, panicked, hspawned, rfl⟩ := Handle.joinResult_eq_some_iff.1 hresult
    have hloop : w.loop = .outside := by
      have hin := hs.inside_iff _ hspawned
      simpa using hin
    have hlost : w.isLost = panicked := by
      cases panicked <;> simp [Worker.isLost, Worker.ending?, hloop, hspawned]
    rw [hlost]
    cases panicked with
    | false => rfl
    | true => simp [errors, joinNotices, Notice.record, panicReport, Error.message.eq_def]
  | _ => simp_all

theorem Changes.name (h : Changes p a i w w') : w'.handle.name = w.handle.name := by
  cases h with
  | moves m => cases m <;> rfl
  | abandoned =>
    obtain ⟨job, dropped, habandon, -⟩ := Worker.abandon_eq w
    rw [habandon]
  | _ => rfl

/-- A worker that cannot be joined never can. -/
theorem Changes.not_running (h : Changes p a i w w') (hr : w.handle.stage ≠ .running) :
    w'.handle.stage ≠ .running := by
  cases h with
  | moves m => rwa [m.stage]
  | marked => simp [Worker.marked]
  | abandoned =>
    obtain ⟨job, dropped, habandon, -⟩ := Worker.abandon_eq w
    rwa [habandon]
  | _ => exact hr

/-- Nobody reports a panic but the destroy that waits for the worker. -/
theorem Changes.isReported (h : Changes p a i w w') (hs : w.Sound)
    (hn : ∀ c, a = .proceed c → p.destroying c ≠ some (.collecting i)) :
    w'.isReported = w.isReported := by
  rw [Worker.isReported, Worker.isReported, h.isCollected hn]
  cases hc : w.isCollected with
  | false => rfl
  | true =>
    -- The thread is gone, so it is settled how the loop ended.
    obtain ⟨b, hb⟩ := hs.ending?_of_isCollected hc
    rw [Worker.isLost, Worker.isLost, hb, h.ending? hb]

end Step

/-! ## All errors -/

section Errors

variable {p : WorkerPool τ} {a : Action τ} {e : Effect (WorkerPool τ) (Outcome τ)} {i : Nat}
  {w : Worker τ}

/-- A step that changes no worker in what is counted keeps the count. -/
theorem Transition.countP_eq (ht : Transition p a e) {f : Worker τ → Bool}
    (hf : ∀ i w w', p.workers[i]? = some w → Changes p a i w w' → f w' = f w) :
    e.state.workers.countP f = p.workers.countP f := by
  have hmap : e.state.workers.map f = p.workers.map f := by
    refine List.ext_getElem? fun i => ?_
    rw [List.getElem?_map, List.getElem?_map]
    cases hi : p.workers[i]? with
    | none =>
      rw [List.getElem?_eq_none_iff, ← ht.length_workers, ← List.getElem?_eq_none_iff] at hi
      rw [hi]
    | some w =>
      obtain ⟨w', hw', hc⟩ := ht.changes hi
      rw [hw', Option.map_some, Option.map_some, hf i w w' hi hc]
  have hcount := congrArg (List.countP id) hmap
  rwa [List.countP_map, List.countP_map] at hcount

/-- Nobody writes errors but a worker that was lost, and a destroy that waited for a worker. -/
theorem Transition.errors_eq_nil (ht : Transition p a e)
    (hl : ∀ i w, p.workers[i]? = some w → ¬(a = .advance i ∧ (w.loop = .leaving ∨ w.loop = .lost)))
    (hd : ∀ i c, a = .proceed c → p.destroying c ≠ some (.collecting i)) :
    errors e.notices = [] := by
  cases ht with
  | move hw m =>
    cases m with
    | leave hleft | lose hleft => exact absurd ⟨rfl, by simp [hleft]⟩ (hl _ _ hw)
    | _ => rfl
  | shutInside | shutOutside | pass | drain =>
    dsimp only
    split <;> rfl
  | collect hcollecting => exact absurd hcollecting (hd _ _ rfl)
  | _ => rfl

/-- An error is written for each worker that was lost, and for each that is joined then. -/
theorem Transition.length_errors (ht : Transition p a e) (hs : ∀ w ∈ p.workers, w.Sound)
    (hT : Teardown p) :
    (errors e.notices).length +
        (p.workers.countP (fun w => w.hasTold true) + p.workers.countP Worker.isReported) =
      e.state.workers.countP (fun w => w.hasTold true) +
        e.state.workers.countP Worker.isReported := by
  by_cases hnow : ∃ i w, p.workers[i]? = some w ∧ a = .advance i ∧
      (w.loop = .leaving ∨ w.loop = .lost)
  · obtain ⟨i, w, hw, rfl, hl⟩ := hnow
    obtain ⟨b, hb⟩ := Worker.exists_ended hl
    obtain ⟨hnotices, hworkers⟩ := ht.of_ended hw hb
    have htold := countP_set_add (f := fun w => w.hasTold true) hw { w with loop := .releasing b }
    have hreported : ({ w with loop := .releasing b } : Worker τ).isReported = w.isReported := by
      cases b <;>
        simp [Worker.isReported, Worker.isCollected, Worker.isLost, Worker.ending?, hb]
    have herrors : (errors [farewell i b]).length = b.toNat := by cases b <;> rfl
    simp only [Worker.hasTold_of_ended hb, Worker.hasTold_releasing, Bool.toNat_false, beq_true]
      at htold
    rw [hworkers, hnotices, herrors, countP_set_of_eq hw hreported]
    omega
  · have hl : ∀ i w, p.workers[i]? = some w →
        ¬(a = .advance i ∧ (w.loop = .leaving ∨ w.loop = .lost)) :=
      fun i w hw hloop => hnow ⟨i, w, hw, hloop⟩
    rw [ht.countP_eq fun i w w' hw hc => hc.hasTold true (hl i w hw)]
    by_cases hcollects : ∃ c i, a = .proceed c ∧ p.destroying c = some (.collecting i)
    · obtain ⟨c, i, rfl, hd⟩ := hcollects
      obtain ⟨w, hw⟩ : ∃ w, p.workers[i]? = some w :=
        ⟨_, List.getElem?_eq_getElem (hT.present c i hd)⟩
      have hws := hs w (List.mem_of_getElem? hw)
      obtain ⟨herrors, hworkers, hjoiner⟩ := ht.of_collecting hw hws hd
      obtain ⟨hbefore, hafter⟩ := hws.isReported_collected hjoiner
      have hreported := countP_set_add (f := Worker.isReported) hw w.collected
      rw [hbefore, hafter, Bool.toNat_false] at hreported
      have hlength : (errors e.notices).length = w.isLost.toNat := by
        rw [herrors]
        cases w.isLost <;> rfl
      rw [hlength, hworkers]
      omega
    · have hd : ∀ i c, a = .proceed c → p.destroying c ≠ some (.collecting i) :=
        fun i c ha hd => hcollects ⟨c, i, ha, hd⟩
      rw [ht.errors_eq_nil hl hd, ht.countP_eq fun i w w' hw hc =>
        hc.isReported (hs w (List.mem_of_getElem? hw)) (hd i), List.length_nil, Nat.zero_add]

end Errors

/-! ## What was written about a worker -/

/-- What was written about the worker `i`, which is now `w`, since the pool was made. -/
structure Told (label : String) (answers : List (Except Refusal ThreadId)) (es : History τ)
    (ms : List (Moment τ)) (i : Nat) (w : Worker τ) : Prop where
  name : w.handle.name = workerName label i
  farewells : ∀ panicked, (reported es).count (farewell i panicked) = (w.hasTold panicked).toNat
  losses : (ofWorker i (panicked es)).length = w.isLost.toNat
  unreported : w.isReported = false → joinErrors ms i = []
  reported : w.isReported = true → ∃ c, c ∉ granted answers ∧
    joinErrors ms i = [(c, panicReport (workerName label i))]

section Told

variable {label : String} {answers : List (Except Refusal ThreadId)} {es : History τ}
  {ms : List (Moment τ)} {p : WorkerPool τ} {a : Action τ} {e : Effect (WorkerPool τ) (Outcome τ)}
  {i : Nat} {w w' : Worker τ}

theorem joinErrors_snoc (m : Moment τ) :
    joinErrors (ms ++ [m]) i = joinErrors ms i ++ joinErrors [m] i :=
  List.flatMap_append

/-- Only a destroy that waits for the worker writes errors about its join. -/
theorem joinErrors_eq_nil {o : Occurrence (Action τ) (Outcome τ)}
    (hn : ∀ c, o.action = .proceed c → p.destroying c ≠ some (.collecting i)) :
    joinErrors [(p, o)] i = [] := by
  rw [joinErrors, List.flatMap_singleton]
  dsimp only
  split
  · next c ha => rw [if_neg (hn c ha)]
  · rfl

/-- A step keeps the account of what was written about a worker. -/
theorem Told.snoc (h : Told label answers es ms i w) (hp : IsRun label answers es p)
    (ht : Transition p a e) (hw : p.workers[i]? = some w) (hw' : e.state.workers[i]? = some w') :
    Told label answers (es ++ [e.after a]) (ms ++ [(p, e.after a)]) i w' := by
  have hs := hp.sound_at hw
  obtain ⟨v, hv, hc⟩ := ht.changes hw
  obtain rfl := Option.some.inj (hv.symm.trans hw')
  have hreports : (v.isReported = false → joinErrors (ms ++ [(p, e.after a)]) i = []) ∧
      (v.isReported = true → ∃ c, c ∉ granted answers ∧
        joinErrors (ms ++ [(p, e.after a)]) i = [(c, panicReport (workerName label i))]) := by
    rw [joinErrors_snoc]
    by_cases hnow : ∃ c, a = .proceed c ∧ p.destroying c = some (.collecting i)
    · obtain ⟨c, rfl, hd⟩ := hnow
      obtain ⟨herrors, hworkers, hjoiner⟩ := ht.of_collecting hw hs hd
      rw [hworkers, getElem?_set_self_of_some hw] at hw'
      cases hw'
      have hnow : joinErrors [(p, e.after (.proceed c))] i =
          (errors e.notices).map fun r => (c, r) := by
        rw [joinErrors, List.flatMap_singleton]
        exact if_pos hd
      obtain ⟨hunreported, hlost⟩ := hs.isReported_collected hjoiner
      have hout := hp.not_mem_granted ((hp.teardown.holder c).2 ⟨_, hd, rfl⟩)
      rw [h.unreported hunreported, hnow, herrors, hlost, List.nil_append]
      cases w.isLost with
      | false => exact ⟨fun _ => rfl, nofun⟩
      | true => exact ⟨nofun, fun _ => ⟨c, hout, by rw [← h.name]; rfl⟩⟩
    · have hn : ∀ c, a = .proceed c → p.destroying c ≠ some (.collecting i) :=
        fun c ha hd => hnow ⟨c, ha, hd⟩
      rw [joinErrors_eq_nil hn, List.append_nil, hc.isReported hs hn]
      exact ⟨h.unreported, h.reported⟩
  exact {
    name := hc.name.trans h.name
    farewells := fun panicked => by
      rw [reported_append, reported_singleton, List.count_append, h.farewells, Nat.add_comm,
        ht.count_farewell hw hw']
    losses := by
      rw [panicked_append, ofWorker_append, List.length_append, h.losses, Nat.add_comm,
        ht.panicked_of_worker hw hw']
    unreported := hreports.1
    reported := hreports.2 }

theorem Fresh.told (h : w.Fresh) (hname : w.handle.name = workerName label i) :
    Told label answers ([] : History τ) [] i w := by
  have hlost : w.isLost = false := by rw [Worker.isLost, h.ending?]; rfl
  exact {
    name := hname
    farewells := fun panicked => by
      rw [Worker.hasTold, h.outside, h.ending?]
      rfl
    losses := by rw [hlost]; rfl
    unreported := fun _ => rfl
    reported := fun hr => by simp [Worker.isReported, hlost] at hr }

theorem name_startWorker (label : String) (k : Nat) (answer : Except Refusal ThreadId) :
    (startWorker (τ := τ) label k answer).state.handle.name = workerName label k := by
  cases answer <;> rfl

/-- The workers of a new pool have their names. -/
theorem name_of_create {f : Effect (WorkerPool τ) Unit} (h : create label answers = .ok f)
    (hw : f.state.workers[i]? = some w) : w.handle.name = workerName label i := by
  rw [create] at h
  split at h
  · cases h
  · cases h
    simp only [List.getElem?_map, List.getElem?_mapIdx, Option.map_eq_some_iff] at hw
    obtain ⟨_, ⟨answer, -, rfl⟩, rfl⟩ := hw
    exact name_startWorker ..

end Told

section IsRun

variable {label : String} {answers : List (Except Refusal ThreadId)} {es : History τ}
  {p : WorkerPool τ} {i : Nat} {w : Worker τ}

/-- The account of every worker. -/
theorem IsRun.told (h : IsRun label answers es p) (hw : p.workers[i]? = some w) :
    Told label answers es (observed label answers es) i w := by
  obtain ⟨hd, f, hf, hrun⟩ := h
  have hobserved : observed label answers es = moments step f.state es := by rw [observed, hf]
  rw [hobserved]
  revert w
  refine hrun.invariant (fun es p => ∀ {w}, p.workers[i]? = some w →
    Told label answers es (moments step f.state es) i w) (fun {w} hw => ?_)
    fun fs v a e hv ih he w' hw' => ?_
  · obtain ⟨workers, hstate, hfresh, -⟩ := create_eq_ok hf
    refine Fresh.told (hfresh w ?_) (name_of_create hf hw)
    rw [hstate] at hw
    exact List.mem_of_getElem? hw
  · have hvrun : IsRun label answers fs v := ⟨hd, f, hf, hv⟩
    have ht := transition_of_step hvrun.sound he
    obtain ⟨w, hw, -⟩ := ht.changed hw'
    rw [hv.moments_snoc]
    exact (ih hw).snoc hvrun ht hw hw'

/-- As many errors were written as workers said that they were lost and as were reported. -/
theorem IsRun.length_errors (h : IsRun label answers es p) :
    (errors (reported es)).length =
      p.workers.countP (fun w => w.hasTold true) + p.workers.countP Worker.isReported := by
  refine h.induction (fun es p => (errors (reported es)).length =
    p.workers.countP (fun w => w.hasTold true) + p.workers.countP Worker.isReported)
    (fun workers hfresh _ => ?_) fun fs q a e hq _ ht ih => ?_
  · have hsilent : ∀ w ∈ workers, w.hasTold true = false ∧ w.isReported = false := fun w hw => by
      have hending := (hfresh w hw).ending?
      refine ⟨by simp [Worker.hasTold, (hfresh w hw).outside, hending], ?_⟩
      simp [Worker.isReported, Worker.isLost, hending]
    rw [List.countP_eq_zero.2 fun w hw => by simp [(hsilent w hw).1],
      List.countP_eq_zero.2 fun w hw => by simp [(hsilent w hw).2]]
    rfl
  · have hstep := ht.length_errors hq.sound hq.teardown
    rw [reported_append, reported_singleton, errors, List.map_append, List.filter_append,
      List.length_append, ← errors, ← errors, ih]
    omega

/-- The tasks that began are those for which a worker said so. -/
theorem IsRun.beginners (h : IsRun label answers es p) :
    (reported es).filterMap beginner? = (begun es).map Prod.fst := by
  refine h.induction (fun es _ => (reported es).filterMap beginner? = (begun es).map Prod.fst)
    (fun _ _ _ => rfl) fun fs q a e _ _ ht ih => ?_
  rw [reported_append, reported_singleton, List.filterMap_append, ih, ht.beginners, begun_append,
    List.map_append]

theorem IsRun.not_unavailable (h : IsRun label answers es p) (k : Nat) (error : Error) :
    Notice.workerUnavailable k error ∉ reported es := by
  refine h.induction (fun es _ => Notice.workerUnavailable k error ∉ reported es)
    (fun _ _ _ => List.not_mem_nil) fun fs q a e _ _ ht ih => ?_
  rw [reported_append, reported_singleton, List.mem_append, not_or]
  exact ⟨ih, ht.not_unavailable k error⟩

/-! ## When a destroy returned outside the pool -/

/-- A destroy is done with a worker only when that cannot be joined any more. -/
theorem IsRun.not_running_of_swept (h : IsRun label answers es p) (hw : p.workers[i]? = some w)
    {c : ThreadId} {d : Destroying} (hd : p.destroying c = some d) (hsw : d.hasSwept i = true) :
    w.handle.stage ≠ .running := by
  revert i w c d
  refine h.induction (fun _ p => ∀ {i w}, p.workers[i]? = some w → ∀ {c d},
    p.destroying c = some d → d.hasSwept i = true → w.handle.stage ≠ .running)
    (fun _ _ _ _ _ _ _ _ hd => by cases hd) fun fs q a e hq _ ht ih i w hw c d hd hsw => ?_
  obtain ⟨v, hv, hc⟩ := ht.changed hw
  refine hc.not_running ?_
  obtain ⟨o, ho, hg⟩ := ht.goes_to hd
  cases hg with
  | same => exact ih hv ho hsw
  | called | asks | finds | asked | waits => cases hsw
  | locks => simp [Destroying.hasSwept] at hsw
  | @passes k u _ hu hr =>
    rcases Nat.lt_succ_iff_lt_or_eq.1 (of_decide_eq_true hsw) with hik | rfl
    · exact ih hv ho (decide_eq_true hik)
    · -- The destroy is not called on the thread of the worker, since it holds the lock.
      obtain rfl : u = v := Option.some.inj (hu.symm.trans hv)
      refine hr.resolve_right fun hcur => ?_
      exact hq.teardown.outside hq.sound ((hq.teardown.holder c).2 ⟨_, ho, rfl⟩) hv
        ((hq.sound_at hv).thread?_of_isCurrent hcur)
  | marks => exact ih hv ho hsw
  | @collects k u _ hu =>
    rcases Nat.lt_succ_iff_lt_or_eq.1 (of_decide_eq_true hsw) with hik | rfl
    · exact ih hv ho (decide_eq_true hik)
    · obtain rfl : u = v := Option.some.inj (hu.symm.trans hv)
      have hjoiner := (hq.teardown.joiner i u c hv).2 ho
      rw [(hq.sound_at hv).joined_of_joiner hjoiner]
      decide
  | @sweeps k _ hk =>
    have hi : i < q.workers.length := (List.getElem?_eq_some_iff.1 hv).1
    exact ih hv ho (decide_eq_true (by omega))
  | takes => exact ih hv ho rfl

/-- A destroy that is about to return on a thread outside the pool waited for all workers. -/
theorem IsRun.isCollected_of_dropping (h : IsRun label answers es p) (hw : p.workers[i]? = some w)
    (hthread : w.thread?.isSome = true) {c : ThreadId} {count : Nat}
    (hd : p.destroying c = some (.dropping count)) : w.isCollected = true := by
  have hs := h.sound_at hw
  have hrunning := h.not_running_of_swept hw hd rfl
  rw [Worker.isCollected_iff]
  constructor
  · rw [Worker.thread?, Option.isSome_map, Option.isSome_iff_exists] at hthread
    obtain ⟨course, hspawned⟩ := hthread
    exact ((hs.joined course hspawned).resolve_left fun hr => hrunning hr.1).1
  · cases hj : w.handle.joiner with
    | none => rfl
    | some x =>
      -- Whoever waits holds the lock, as the destroy does that is about to return.
      have hx := (h.teardown.joiner i w x hw).1 hj
      obtain rfl := h.teardown.eq_of_holdsLock hx hd rfl rfl
      rw [hd] at hx
      cases hx

/-- Once a destroy returned outside the pool, all workers were waited for. -/
theorem IsRun.isCollected (h : IsRun label answers es p)
    (hout : ∃ x ∈ results es, x.1 ∉ granted answers) (hw : p.workers[i]? = some w)
    (hthread : w.thread?.isSome = true) : w.isCollected = true := by
  revert hout w
  refine h.induction (fun es p => ∀ {w}, (∃ x ∈ results es, x.1 ∉ granted answers) →
    p.workers[i]? = some w → w.thread?.isSome = true → w.isCollected = true)
    (fun _ _ _ _ ⟨_, hx, _⟩ => absurd hx List.not_mem_nil)
    fun fs q a e hq _ ht ih w hout hw hthread => ?_
  obtain ⟨v, hv, hc⟩ := ht.changed hw
  have hvthread : v.thread?.isSome = true := hc.thread? ▸ hthread
  obtain ⟨x, hx, hxout⟩ := hout
  rw [results_append, List.mem_append] at hx
  rcases hx with hx | hx
  · have hcollected := ih ⟨x, hx, hxout⟩ hv hvthread
    rw [hc.isCollected fun c _ hd => ?_, hcollected]
    have hjoiner := (hq.teardown.joiner i v c hv).2 hd
    rw [(Worker.isCollected_iff.1 hcollected).2] at hjoiner
    cases hjoiner
  · rcases hq.of_results ht hx with ⟨hin, -⟩ | ⟨-, rfl, hd⟩
    · exact absurd hin hxout
    · rw [ht.state_of_dropping hd] at hw
      exact hq.isCollected_of_dropping hw hthread hd

end IsRun

end WorkerPool

end Threading

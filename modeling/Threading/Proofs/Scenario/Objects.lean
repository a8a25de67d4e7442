import Threading.Proofs.BlockingQueue
import Threading.Proofs.Scenario.View

/-!
# What the operations of a session do to what it shows

A session knows objects by number, counts the references to them, and notes down what
happens. None of this shows (`view_emit`, `view_acquire` and so on). What
shows is that an object takes a step (`of_stepHandle`, `of_stepWorkers`,
`of_stepJobs`), and of those steps only a few have to do with a lock: the others ease
the view. A reference that goes leaves frames of the library's own behind
(`release_calm`).
-/

namespace Threading

/-! ## Who holds a lock after a step -/

/-- The caller that takes the lock of a handle by this action, or holds it meanwhile. -/
def Handle.Action.locker? : Handle.Action → Option ThreadId
  | .start c | .spawn c _ | .kill c | .proceed c => some c
  | _ => none

/-- Only a call that goes on has the lock of a handle after its step. -/
theorem Handle.Transition.holder {J : Type} {h : Handle J} {a : Handle.Action}
    {e : Effect (Handle J) (Handle.Outcome J)} {job : J} (ht : h.Transition a e)
    (ho : h.Ordered job) {u : ThreadId} (hu : e.state.lock.holder? = some u) :
    a.locker? = none ∧ h.lock.holder? = some u ∨ a.locker? = some u ∧ e.outcome = .moved := by
  cases ht with
  | startIgnored ha | killIgnored ha =>
    rw [lock_of_admits ha] at hu
    cases hu
  | start | grant | kill | raise | lower => exact .inr ⟨hu, rfl⟩
  | refuse | started | detach => cases hu
  | joined hl hjoiner =>
    rcases hl with hl | ⟨d, hl⟩
    · simp only [hl] at hu
      cases hu
    · -- Nobody joins a handle that is being started.
      rw [(ho.idle (ho.idle_of_starting hl)).2.2] at hjoiner
      cases hjoiner
  | _ => exact .inl ⟨rfl, hu⟩

/-- The caller that takes the lock of a pool by this action, or holds it meanwhile. -/
def JobPool.Action.locker? {τ : Type} : JobPool.Action τ → Option ThreadId
  | .submit c _ | .prune c _ | .create c _ => some c
  | _ => none

/-- Only a submit that goes on has the lock of its pool after its step. -/
theorem JobPool.Transition.holder {τ : Type} {p : JobPool τ} {a : JobPool.Action τ}
    {e : Effect (JobPool τ) (JobPool.Outcome τ)} (ht : p.Transition a e) {u : ThreadId}
    (hu : e.state.submitting.map Submit.caller = some u) :
    a.locker? = none ∧ p.submitting.map Submit.caller = some u ∨
      a.locker? = some u ∧ e.outcome = .moved := by
  cases ht with
  | refuse ha =>
    rw [(isCalling_of_admits ha).1] at hu
    cases hu
  | submit | keep | forget | pruneMark | pruneCollect | makeRoom => exact .inr ⟨hu, rfl⟩
  | noRoom | accept | decline => cases hu
  | _ => exact .inl ⟨rfl, hu⟩

/-- Only a destroy that goes on has the teardown lock after its step. -/
theorem WorkerPool.Transition.teardown_holder {τ : Type} {p : WorkerPool τ}
    {a : WorkerPool.Action τ} {e : Effect (WorkerPool τ) (WorkerPool.Outcome τ)}
    (ht : p.Transition a e) (hp : p.Teardown) {u : ThreadId} (hu : e.state.teardown = some u) :
    a ≠ .proceed u ∧ p.teardown = some u ∨ a = .proceed u ∧ ∀ n, e.outcome ≠ .returned n := by
  cases ht with
  | shutInside hd =>
    refine .inl ⟨?_, hu⟩
    rintro ⟨⟩
    -- A destroy that shuts the pool down does not have the lock yet.
    obtain ⟨d, hd', hholds⟩ := (hp.holder _).1 hu
    obtain rfl := Option.some.inj (hd.symm.trans hd')
    cases hholds
  | lock =>
    obtain rfl := Option.some.inj hu
    exact .inr ⟨rfl, fun n h => by cases h⟩
  | @ask c | @asked c | @shutOutside c | @pass c | @mark c | @collect c | @swept c | @drain c =>
    by_cases hc : c = u
    · exact .inr ⟨by rw [hc], fun n h => by cases h⟩
    · refine .inl ⟨?_, hu⟩
      rintro ⟨⟩
      exact hc rfl
  | finishDestroy => cases hu
  | move _ m =>
    refine .inl ⟨?_, hu⟩
    rintro rfl
    cases m
  | _ =>
    refine .inl ⟨?_, hu⟩
    rintro ⟨⟩

namespace Scenario

/-! ## Frames of the library -/

/-- The frame is one of a call of the library, or of what goes with a reference: it runs no
    closure. -/
def Frame.isInternal : Frame → Bool
  | .awaitPermit _ | .awaitItem _ | .starting .. | .proceeding _ | .submitting .. | .destroying _
  | .guard _ | .discard _ | .demolish _ | .abandoning _ => true
  | .resume control => control.panic?.isNone
  | _ => false

/-- The frame is one of a call that may hold the lock. -/
def Frame.holds : Frame → Mutex → Bool
  | .starting handle .., .handle id | .proceeding handle, .handle id => handle == id
  | .submitting pool .., .submit id => pool == id
  | .destroying pool, .teardown id => pool == id
  | _, _ => false

theorem Frame.isInternal_of_holds {f : Frame} {m : Mutex} (h : f.holds m = true) :
    f.isInternal = true := by
  cases f <;> first | rfl | (cases m <;> cases h)

theorem Frame.panic?_of_isInternal {f : Frame} (h : f.isInternal = true) : f.panic? = none := by
  cases f with
  | resume control => exact Option.isNone_iff_eq_none.1 h
  | inline => cases h
  | _ => rfl

namespace Session

variable {σ σ' : Session}

/-! ## What does not show -/

@[simp] theorem view_emit (σ : Session) (job : JobId) (parts : List Value) :
    (σ.emit job parts).view = σ.view := by
  rw [emit]
  split <;> rfl

@[simp] theorem view_dropItems (σ : Session) (items : List Value) :
    (σ.dropItems items).view = σ.view := by
  rw [dropItems]
  induction items generalizing σ with
  | nil => rfl
  | cons item rest ih =>
    rw [List.foldl_cons, ih]
    rfl

/-- The objects are the same with another number of references to one of them. -/
theorem objects_modify {α : Type} (xs : Array (Owned α)) (id : Nat) {f : Owned α → Owned α}
    (hf : ∀ x, (f x).object = x.object) : objects (xs.modify id f) = objects xs := by
  funext k
  rw [objects, objects, Array.getElem?_modify]
  split
  · rw [Option.map_map]
    exact congrArg (Option.map · xs[k]?) (funext hf)
  · rfl

/-- An object changes, and the others do not. -/
theorem objects_set {α : Type} {xs : Array (Owned α)} {id : Nat} {x : Owned α}
    (hx : xs[id]? = some x) (y : Owned α) :
    objects (xs.setIfInBounds id y) = Function.update (objects xs) id (some y.object) := by
  obtain ⟨hlt, -⟩ := Array.getElem?_eq_some_iff.1 hx
  funext k
  rw [objects, Array.getElem?_setIfInBounds]
  by_cases hk : id = k
  · subst hk
    rw [if_pos rfl, if_pos hlt, Function.update_self]
    rfl
  · rw [if_neg hk, Function.update_of_ne (Ne.symm hk)]
    rfl

/-- The objects are the same with another number of references to one that is there. -/
theorem objects_set_self {α : Type} {xs : Array (Owned α)} {id : Nat} {x : Owned α}
    (hx : xs[id]? = some x) (owners : Nat) :
    objects (xs.setIfInBounds id { x with owners }) = objects xs := by
  rw [objects_set hx, ← objects_eq_some hx, Function.update_eq_self]

/-- An object is made. -/
theorem objects_push {α : Type} (xs : Array (Owned α)) (x : Owned α) :
    objects (xs.push x) = Function.update (objects xs) xs.size (some x.object) := by
  funext k
  rw [objects, Array.getElem?_push]
  by_cases hk : k = xs.size
  · rw [if_pos hk, hk, Function.update_self]
    rfl
  · rw [if_neg hk, Function.update_of_ne hk]
    rfl

@[simp] theorem view_acquire (σ : Session) (r : Ref) : (σ.acquire r).view = σ.view := by
  cases r with
  | queue id => rfl
  | handle id =>
    exact View.ext rfl rfl (objects_modify _ _ fun _ => rfl) rfl
  | pool id =>
    exact View.ext rfl rfl rfl (objects_modify _ _ fun _ => rfl)

/-! ## Steps of objects -/

/-- A step of a semaphore eases the view. -/
theorem eases_stepSemaphore {id : Nat} {a : Semaphore.Action} {o : Semaphore.Outcome}
    (h : σ.stepSemaphore id a = some (σ', o)) : View.Eases σ.view σ'.view := by
  simp only [stepSemaphore, Option.bind_eq_bind, Option.bind_eq_some_iff] at h
  obtain ⟨s, hs, e, he, h⟩ := h
  cases h
  exact View.eases_semaphore hs he

theorem of_stepQueue {id : Nat} {a : BlockingQueue.Action Value}
    {o : BlockingQueue.Outcome Value} (h : σ.stepQueue id a = some (σ', o)) :
    ∃ q e, BlockingQueue.step q a = some e ∧ e.outcome = o ∧ σ'.view = σ.view := by
  simp only [stepQueue, Option.bind_eq_bind, Option.bind_eq_some_iff] at h
  obtain ⟨x, -, e, he, h⟩ := h
  cases h
  exact ⟨x.object, e, he, rfl, rfl⟩

/-- A step of a queue does not show. -/
theorem view_stepQueue {id : Nat} {a : BlockingQueue.Action Value}
    {o : BlockingQueue.Outcome Value} (h : σ.stepQueue id a = some (σ', o)) :
    σ'.view = σ.view := by
  obtain ⟨q, e, -, -, hview⟩ := of_stepQueue h
  exact hview

/-- No thread of a session stops waiting for an item while there is none. -/
theorem stepQueue_ne_wokeEmpty {id : Nat} {a : BlockingQueue.Action Value}
    {o : BlockingQueue.Outcome Value} (h : σ.stepQueue id a = some (σ', o)) :
    o ≠ .wokeEmpty := by
  obtain ⟨q, e, he, rfl, -⟩ := of_stepQueue h
  exact (BlockingQueue.transition_of_step he).ne_wokeEmpty

theorem of_stepHandle {id : Nat} {a : Handle.Action} {o : Handle.Outcome JobId}
    (h : σ.stepHandle id a = some (σ', o)) : ∃ h e, σ.view.handles id = some h ∧
      h.step a = some e ∧ e.outcome = o ∧ σ'.view = σ.view.withHandle id e.state := by
  simp only [stepHandle, Option.bind_eq_bind, Option.bind_eq_some_iff] at h
  obtain ⟨x, hx, e, he, h⟩ := h
  cases h
  exact ⟨x.object, e, objects_eq_some hx, he, rfl, View.ext rfl rfl (objects_set hx _) rfl⟩

theorem of_stepWorkers {id : Nat} {a : WorkerPool.Action JobId} {o : WorkerPool.Outcome JobId}
    (h : σ.stepWorkers id a = some (σ', o)) : ∃ p e, σ.view.pools id = some (.workers p) ∧
      p.step a = some e ∧ e.outcome = o ∧ σ'.view = σ.view.withPool id (.workers e.state) := by
  simp only [stepWorkers, Option.bind_eq_bind, Option.bind_eq_some_iff] at h
  obtain ⟨x, hx, h⟩ := h
  split at h
  · next p owners =>
    obtain ⟨e, he, h⟩ := Option.bind_eq_some_iff.1 h
    cases h
    exact ⟨p, e, objects_eq_some hx, he, rfl, View.ext rfl rfl rfl (objects_set hx _)⟩
  · cases h

theorem of_stepJobs {id : Nat} {a : JobPool.Action JobId} {o : JobPool.Outcome JobId}
    (h : σ.stepJobs id a = some (σ', o)) : ∃ p e, σ.view.pools id = some (.jobs p) ∧
      p.step a = some e ∧ e.outcome = o ∧ σ'.view = σ.view.withPool id (.jobs e.state) := by
  simp only [stepJobs, Option.bind_eq_bind, Option.bind_eq_some_iff] at h
  obtain ⟨x, hx, h⟩ := h
  split at h
  · next p owners =>
    obtain ⟨e, he, h⟩ := Option.bind_eq_some_iff.1 h
    cases h
    exact ⟨p, e, objects_eq_some hx, he, rfl, View.ext rfl rfl rfl (objects_set hx _)⟩
  · cases h

/-- A step of a handle that is none of a start or a kill eases the view. -/
theorem eases_stepHandle {id : Nat} {a : Handle.Action} {o : Handle.Outcome JobId}
    (h : σ.stepHandle id a = some (σ', o)) (ha : a.locker? = none) :
    View.Eases σ.view σ'.view := by
  obtain ⟨x, e, hx, he, -, hview⟩ := of_stepHandle h
  rw [hview]
  refine View.eases_handle hx he (fun c t hspawn => ?_) fun hv u hu => ?_
  · rw [hspawn] at ha
    cases ha
  obtain ⟨name, job, es, hrun⟩ := hv.handles id x hx
  rcases (Handle.transition_of_step he).holder hrun.ordered hu with ⟨-, hu⟩ | ⟨hu, -⟩
  · exact hu
  · rw [ha] at hu
    cases hu

theorem isLawful_workers {p : WorkerPool JobId} {a : WorkerPool.Action JobId}
    {e : Effect (WorkerPool JobId) (WorkerPool.Outcome JobId)}
    (hp : (Pool.workers p).IsLawful) (he : p.step a = some e) :
    (Pool.workers e.state).IsLawful :=
  have ⟨label, answers, _, hrun⟩ := hp
  ⟨label, answers, _, hrun.snoc he⟩

theorem isLawful_jobs {p : JobPool JobId} {a : JobPool.Action JobId}
    {e : Effect (JobPool JobId) (JobPool.Outcome JobId)}
    (hp : (Pool.jobs p).IsLawful) (he : p.step a = some e) : (Pool.jobs e.state).IsLawful :=
  have ⟨permits, _, hrun⟩ := hp
  ⟨permits, _, hrun.snoc he⟩

theorem teardown_of_isLawful {p : WorkerPool JobId} (hp : (Pool.workers p).IsLawful) :
    p.Teardown :=
  have ⟨_, _, _, hrun⟩ := hp
  hrun.teardown

/-- A step of a lawful worker pool is a transition. -/
theorem transition_workers {p : WorkerPool JobId} {a : WorkerPool.Action JobId}
    {e : Effect (WorkerPool JobId) (WorkerPool.Outcome JobId)}
    (hp : (Pool.workers p).IsLawful) (he : p.step a = some e) : p.Transition a e :=
  have ⟨_, _, _, hrun⟩ := hp
  WorkerPool.transition_of_step hrun.sound he

/-- A step of a lawful pool with a thread for every job is a transition. -/
theorem transition_jobs {p : JobPool JobId} {a : JobPool.Action JobId}
    {e : Effect (JobPool JobId) (JobPool.Outcome JobId)}
    (hp : (Pool.jobs p).IsLawful) (he : p.step a = some e) : p.Transition a e :=
  have ⟨_, _, hrun⟩ := hp
  JobPool.transition_of_step hrun.sound he

/-- A step of a worker pool that is none of a destroy under way eases the view. -/
theorem eases_stepWorkers {id : Nat} {a : WorkerPool.Action JobId} {o : WorkerPool.Outcome JobId}
    (h : σ.stepWorkers id a = some (σ', o)) (ha : ∀ c, a ≠ .proceed c) :
    View.Eases σ.view σ'.view := by
  obtain ⟨p, e, hp, he, -, hview⟩ := of_stepWorkers h
  rw [hview]
  refine View.eases_pool hp (fun hv => isLawful_workers (hv.pools _ _ hp) he)
    (fun _ u hu => hu) fun hv u hu => ?_
  have hlawful := hv.pools _ _ hp
  rcases (transition_workers hlawful he).teardown_holder (teardown_of_isLawful hlawful) hu with
    ⟨-, hu⟩ | ⟨hu, -⟩
  · exact hu
  · exact absurd hu (ha u)

/-- A step of a pool with a thread for every job that is none of a submit eases the view. -/
theorem eases_stepJobs {id : Nat} {a : JobPool.Action JobId} {o : JobPool.Outcome JobId}
    (h : σ.stepJobs id a = some (σ', o)) (ha : a.locker? = none) :
    View.Eases σ.view σ'.view := by
  obtain ⟨p, e, hp, he, -, hview⟩ := of_stepJobs h
  rw [hview]
  refine View.eases_pool hp (fun hv => isLawful_jobs (hv.pools _ _ hp) he)
    (fun hv u hu => ?_) fun _ u hu => hu
  rcases (transition_jobs (hv.pools _ _ hp) he).holder hu with ⟨-, hu⟩ | ⟨hu, -⟩
  · exact hu
  · rw [ha] at hu
    cases hu

/-! ## Steps that have to do with a lock -/

section Locks

variable {τ : Session} {id : Nat} {t u : ThreadId} {m : Mutex}

/-- A call that starts or kills a handle has its lock only while it goes on, and no other
    lock is taken. -/
theorem holder_stepHandle (hτ : View.Eases σ.view τ.view) (hv : σ.view.Lawful)
    {a : Handle.Action} {o : Handle.Outcome JobId} (h : τ.stepHandle id a = some (σ', o))
    (ha : a.locker? = some t) (hu : σ'.view.holder m = some u) :
    u = t ∧ m = .handle id ∧ o = .moved ∨
      σ.view.holder m = some u ∧ (u = t → m ≠ .handle id) := by
  obtain ⟨x, e, hx, he, rfl, hview⟩ := of_stepHandle h
  rw [hview, View.holder_withHandle] at hu
  split at hu
  · next hm =>
    obtain ⟨name, job, es, hrun⟩ := (hτ.lawful hv).handles id x hx
    rcases (Handle.transition_of_step he).holder hrun.ordered hu with ⟨hnone, -⟩ | ⟨hsome, ho⟩
    · rw [ha] at hnone
      cases hnone
    · exact .inl ⟨Option.some.inj (hsome.symm.trans ha), hm, ho⟩
  · next hm => exact .inr ⟨hτ.frees hv m u hu, fun _ => hm⟩

/-- A submit has the lock of its pool only while it goes on, and no other lock is taken. -/
theorem holder_stepJobs (hτ : View.Eases σ.view τ.view) (hv : σ.view.Lawful)
    {a : JobPool.Action JobId} {o : JobPool.Outcome JobId} (h : τ.stepJobs id a = some (σ', o))
    (ha : a.locker? = some t) (hu : σ'.view.holder m = some u) :
    u = t ∧ m = .submit id ∧ o = .moved ∨
      σ.view.holder m = some u ∧ (u = t → m ≠ .submit id) := by
  obtain ⟨p, e, hp, he, rfl, hview⟩ := of_stepJobs h
  have hlawful := (hτ.lawful hv).pools _ _ hp
  rw [hview] at hu
  by_cases hm : m = .submit id
  · subst hm
    rw [View.holder_withPool_submit, if_pos rfl] at hu
    rcases (transition_jobs hlawful he).holder hu with ⟨hnone, -⟩ | ⟨hsome, ho⟩
    · rw [ha] at hnone
      cases hnone
    · exact .inl ⟨Option.some.inj (hsome.symm.trans ha), rfl, ho⟩
  · rcases View.holder_withPool (View.lawful_withPool (hτ.lawful hv) (isLawful_jobs hlawful he)) hu
      with hu | ⟨hsub, -⟩ | ⟨-, hnone⟩
    · exact .inr ⟨hτ.frees hv m u hu, fun _ => hm⟩
    · exact absurd hsub hm
    · cases hnone

/-- A destroy has the teardown lock of its pool only while it goes on, and no other lock is
    taken. -/
theorem holder_stepWorkers (hv : σ.view.Lawful) {o : WorkerPool.Outcome JobId}
    (h : σ.stepWorkers id (.proceed t) = some (σ', o)) (hu : σ'.view.holder m = some u) :
    u = t ∧ m = .teardown id ∧ (∀ n, o ≠ .returned n) ∨
      σ.view.holder m = some u ∧ (u = t → m ≠ .teardown id) := by
  obtain ⟨p, e, hp, he, rfl, hview⟩ := of_stepWorkers h
  have hlawful := hv.pools _ _ hp
  rw [hview] at hu
  by_cases hm : m = .teardown id
  · subst hm
    rw [View.holder_withPool_teardown, if_pos rfl] at hu
    rcases (transition_workers hlawful he).teardown_holder (teardown_of_isLawful hlawful) hu with
      ⟨hne, hheld⟩ | ⟨heq, ho⟩
    · refine .inr ⟨by rw [View.holder, hp]; exact hheld, fun hut => absurd ?_ hne⟩
      rw [hut]
    · cases heq
      exact .inl ⟨rfl, rfl, ho⟩
  · rcases View.holder_withPool (View.lawful_withPool hv (isLawful_workers hlawful he)) hu
      with hu | ⟨-, hnone⟩ | ⟨hjoin, -⟩
    · exact .inr ⟨hu, fun _ => hm⟩
    · cases hnone
    · exact absurd hjoin hm

end Locks

/-! ## New threads, and references that go -/

theorem eases_addThread (σ : Session) {th : Thread} (hnew : th.IsNew) :
    View.Eases σ.view (σ.addThread th).1.view :=
  View.eases_thread hnew

/-- The operating system carries the name of a thread that it made. -/
theorem carries_createThread (σ : Session) (name : ThreadName) (source : Source) (key : String)
    (index : Nat) (faults : Faults) {t : ThreadId}
    (ht : (σ.createThread name source key index faults).2 = .ok t) :
    (σ.createThread name source key index faults).1.view.Carries t name := by
  rw [createThread] at ht ⊢
  split at ht
  · cases ht
  · next hrefused =>
    cases ht
    rw [if_neg hrefused]
    exact ⟨_, Array.getElem?_push_size, rfl⟩

theorem handles_createThread (σ : Session) (name : ThreadName) (source : Source) (key : String)
    (index : Nat) (faults : Faults) :
    (σ.createThread name source key index faults).1.view.handles = σ.view.handles := by
  rw [createThread]
  split <;> rfl

theorem eases_createThread (σ : Session) (name : ThreadName) (source : Source) (key : String)
    (index : Nat) (faults : Faults) :
    View.Eases σ.view (σ.createThread name source key index faults).1.view := by
  rw [createThread]
  split
  · exact .refl _
  · refine σ.eases_addThread ⟨?_, ?_⟩
    · split <;> rfl
    · rintro _ ⟨⟩
      exact name.carried

/-- The new threads of workers are different from each other, and none was there before. -/
theorem createWorkers_spec (σ : Session) (pool : Nat) (label key : String) (faults : Faults)
    (index count : Nat) :
    View.Eases σ.view (σ.createWorkers pool label key faults index count).1.view ∧
    σ.threads.size ≤ (σ.createWorkers pool label key faults index count).1.threads.size ∧
    (WorkerPool.granted (σ.createWorkers pool label key faults index count).2).Nodup ∧
    ∀ t ∈ WorkerPool.granted (σ.createWorkers pool label key faults index count).2,
      σ.threads.size ≤ t := by
  induction count generalizing σ index with
  | zero => exact ⟨.refl _, le_rfl, List.nodup_nil, fun t ht => absurd ht List.not_mem_nil⟩
  | succ count ih =>
    rw [createWorkers]
    have hcreate := σ.eases_createThread (WorkerPool.workerName label index) (.worker pool index)
      key index faults
    have hthread : (σ.createThread (WorkerPool.workerName label index) (.worker pool index) key
          index faults).2.toOption = some σ.threads.size ∧
        (σ.createThread (WorkerPool.workerName label index) (.worker pool index) key index
          faults).1.threads.size = σ.threads.size + 1 ∨
        (σ.createThread (WorkerPool.workerName label index) (.worker pool index) key index
          faults).2.toOption = none ∧
        (σ.createThread (WorkerPool.workerName label index) (.worker pool index) key index
          faults).1.threads.size = σ.threads.size := by
      rw [createThread]
      split
      · exact .inr ⟨rfl, rfl⟩
      · exact .inl ⟨rfl, Array.size_push _⟩
    generalize σ.createThread (WorkerPool.workerName label index) (.worker pool index) key index
      faults = created at hcreate hthread
    obtain ⟨τ, answer⟩ := created
    obtain ⟨heases, hsize, hnodup, hle⟩ := ih τ (index + 1)
    dsimp only at hcreate hthread ⊢
    refine ⟨hcreate.trans heases, ?_, ?_, ?_⟩
    · omega
    · rw [WorkerPool.granted, List.filterMap_cons]
      rcases hthread with ⟨hanswer, hgrown⟩ | ⟨hanswer, -⟩
      · rw [hanswer]
        refine List.nodup_cons.2 ⟨fun hmem => ?_, hnodup⟩
        have := hle _ hmem
        omega
      · rw [hanswer]
        exact hnodup
    · intro t ht
      rw [WorkerPool.granted, List.filterMap_cons] at ht
      rcases hthread with ⟨hanswer, hgrown⟩ | ⟨hanswer, hgrown⟩
      · rw [hanswer] at ht
        rcases List.mem_cons.1 ht with rfl | ht
        · exact le_rfl
        · have := hle t ht
          omega
      · rw [hanswer] at ht
        exact hgrown ▸ hle t ht

/-- Nothing shows of a reference that goes but the drop of a handle, and only frames of the
    library are left to do. -/
theorem release_calm (σ : Session) (r : Ref) :
    View.Eases σ.view (σ.release r).1.view ∧ ∀ f ∈ (σ.release r).2, f.isInternal = true := by
  cases r with
  | queue id =>
    rw [release]
    split
    · exact ⟨.refl _, fun f hf => absurd hf List.not_mem_nil⟩
    · dsimp only
      split
      · exact ⟨.of_eq (view_dropItems _ _), fun f hf => absurd hf List.not_mem_nil⟩
      · exact ⟨.refl _, fun f hf => absurd hf List.not_mem_nil⟩
  | handle id =>
    rw [release]
    split
    · exact ⟨.refl _, fun f hf => absurd hf List.not_mem_nil⟩
    · next x hx =>
      dsimp only
      have hview : ({ σ with
          handles := σ.handles.setIfInBounds id { x with owners := x.owners - 1 } } :
          Session).view = σ.view :=
        View.ext rfl rfl (objects_set_self hx _) rfl
      split
      · split
        · next hstep =>
          refine ⟨hview ▸ eases_stepHandle hstep rfl, fun f hf => ?_⟩
          rw [List.mem_singleton.1 hf]
          rfl
        · next hstep =>
          exact ⟨hview ▸ eases_stepHandle hstep rfl, fun f hf => absurd hf List.not_mem_nil⟩
        · exact ⟨.of_eq hview, fun f hf => absurd hf List.not_mem_nil⟩
      · exact ⟨.of_eq hview, fun f hf => absurd hf List.not_mem_nil⟩
  | pool id =>
    rw [release]
    split
    · exact ⟨.refl _, fun f hf => absurd hf List.not_mem_nil⟩
    · next x hx =>
      dsimp only
      have hview : ({ σ with
          pools := σ.pools.setIfInBounds id { x with owners := x.owners - 1 } } : Session).view =
          σ.view :=
        View.ext rfl rfl rfl (objects_set_self hx _)
      split
      · refine ⟨.of_eq hview, fun f hf => ?_⟩
        rw [List.mem_singleton.1 hf]
        rfl
      · exact ⟨.of_eq hview, fun f hf => absurd hf List.not_mem_nil⟩

theorem releaseName_calm (σ : Session) (object : Option Nat) (ref : Nat → Ref) :
    View.Eases σ.view (σ.releaseName object ref).1.view ∧
      ∀ f ∈ (σ.releaseName object ref).2, f.isInternal = true := by
  cases object with
  | none => exact ⟨.refl _, fun f hf => absurd hf List.not_mem_nil⟩
  | some id => exact σ.release_calm (ref id)

theorem releaseCaptured_calm (σ : Session) (job : JobId) :
    View.Eases σ.view (σ.releaseCaptured job).1.view ∧
      ∀ f ∈ (σ.releaseCaptured job).2, f.isInternal = true := by
  rw [releaseCaptured]
  split
  · next pool _ =>
    exact release_calm
      { σ with jobs := σ.jobs.modify job fun j => { j with held := none } } (.pool pool)
  · exact ⟨.refl _, fun f hf => absurd hf List.not_mem_nil⟩

/-- Items that are taken one by one do not show. -/
theorem view_drain (σ : Session) (q count : Nat) : (σ.drain q count).1.view = σ.view := by
  induction count generalizing σ with
  | zero => rfl
  | succ count ih =>
    rw [drain]
    split
    · next hstep => exact (ih _).trans (view_stepQueue hstep)
    · rfl

end Session

end Scenario

end Threading

import Threading.Proofs.Scenario.Objects

/-!
# Calls of the library

Most calls of the library are *calm* (`Turn.Calm`): a turn of theirs takes no lock, runs no
closure and does not panic, and leaves only frames of the library behind. The others
run a closure on their caller (`Step.runsClosure`), or take a lock and hold it from
one step to the next (`Step.takesLock`).
-/

namespace Threading.Scenario

/-- The step is a call of the library. -/
def Step.isCall : Step → Bool
  | .openGate _ | .passGate _ | .record _ | .panic _ | .threadName | .awaitKill | .repeated ..
  | .branches .. => false
  | _ => true

/-- The call runs a closure on its caller. -/
def Step.runsClosure : Step → Bool
  | .run _ | .taskRun _ => true
  | _ => false

/-- The call takes a lock, and holds it from one step to the next. -/
def Step.takesLock : Step → Bool
  | .start .. | .kill _ | .submit .. => true
  | _ => false

/-- The frame is one of the library, or a call of it that runs no closure on its caller. -/
def Frame.isLibrary : Frame → Bool
  | .perform _ step => step.isCall && !step.runsClosure
  | f => f.isInternal

theorem Frame.isLibrary_of_isInternal {f : Frame} (h : f.isInternal = true) :
    f.isLibrary = true := by
  cases f with
  | perform => cases h
  | _ => exact h

namespace Turn

/-- The turn goes on without a panic, and with frames of the library only. -/
def IsInternal (next : Turn) : Prop :=
  next.control.panic? = none ∧ ∀ f ∈ next.frames, f.isInternal = true

/-- The panics under way after a turn. -/
def panics (next : Turn) : List String := panicsOf next.control next.frames

theorem IsInternal.panics_eq_nil {next : Turn} (h : next.IsInternal) : next.panics = [] := by
  rw [panics, panicsOf, h.1, Option.toList_none, List.nil_append, List.filterMap_eq_nil_iff]
  exact fun f hf => Frame.panic?_of_isInternal (h.2 f hf)

theorem isInternal_giving {τ : Session} {v : Value} :
    IsInternal { session := τ, control := .give v } :=
  ⟨rfl, fun _ hf => absurd hf List.not_mem_nil⟩

/-- The turn takes no lock, runs no closure and does not panic. -/
structure Calm (σ : Session) (next : Turn) : Prop where
  eases : View.Eases σ.view next.session.view
  internal : next.IsInternal

end Turn

section

variable {σ τ : Session} {t : ThreadId} {next : Turn} {v : Value}

theorem calm_giving (he : View.Eases σ.view τ.view) (h : giving τ v = some next) :
    next.Calm σ := by
  cases h
  exact ⟨he, Turn.isInternal_giving⟩

theorem calm_going {frames : List Frame} (he : View.Eases σ.view τ.view)
    (hf : ∀ f ∈ frames, f.isInternal = true) (h : going τ frames = some next) : next.Calm σ := by
  cases h
  exact ⟨he, rfl, hf⟩

theorem calm_givingAfter {released : Session × List Frame}
    (h : View.Eases σ.view released.1.view ∧ ∀ f ∈ released.2, f.isInternal = true)
    (hn : givingAfter released v = some next) : next.Calm σ := by
  obtain ⟨τ, frames⟩ := released
  obtain ⟨he, hf⟩ := h
  cases frames with
  | nil => exact calm_giving he hn
  | cons f rest =>
    refine calm_going he (fun g hg => ?_) hn
    rcases List.mem_append.1 hg with hg | hg
    · exact hf g hg
    · rw [List.mem_singleton.1 hg]
      rfl

/-- Bodies that are dropped leave frames of the library. -/
theorem isInternal_discards (jobs : List JobId) :
    ∀ f ∈ jobs.map Frame.discard, f.isInternal = true := by
  intro f hf
  obtain ⟨job, -, rfl⟩ := List.mem_map.1 hf
  rfl

theorem isInternal_append {above below : List Frame} (ha : ∀ f ∈ above, f.isInternal = true)
    (hb : ∀ f ∈ below, f.isInternal = true) : ∀ f ∈ above ++ below, f.isInternal = true :=
  List.forall_mem_append.2 ⟨ha, hb⟩

theorem isInternal_singleton {f : Frame} (hf : f.isInternal = true) :
    ∀ g ∈ [f], g.isInternal = true := List.forall_mem_singleton.2 hf

theorem isInternal_pair {f g : Frame} (hf : f.isInternal = true) (hg : g.isInternal = true) :
    ∀ x ∈ [f, g], x.isInternal = true :=
  List.forall_mem_cons.2 ⟨hf, isInternal_singleton hg⟩

namespace Session

/-! ## Calls of objects -/

theorem calm_semaphoreWait {s : Nat} (h : σ.semaphoreWait t s = some next) : next.Calm σ := by
  obtain ⟨⟨τ, o⟩, hstep, h⟩ := Option.bind_eq_some_iff.1 h
  have he := eases_stepSemaphore hstep
  split at h
  · next heq =>
    cases heq
    exact calm_going he (isInternal_singleton rfl) h
  · next heq =>
    cases heq
    exact calm_giving he h

theorem calm_semaphorePost {s : Nat} (h : σ.semaphorePost s = some next) : next.Calm σ := by
  obtain ⟨semaphore, -, h⟩ := Option.bind_eq_some_iff.1 h
  obtain ⟨⟨τ, o⟩, hstep, h⟩ := Option.bind_eq_some_iff.1 h
  exact calm_giving (eases_stepSemaphore hstep) h

theorem calm_push {q : Nat} {memory : Bool} (h : σ.push q v memory = some next) :
    next.Calm σ := by
  obtain ⟨queue, -, h⟩ := Option.bind_eq_some_iff.1 h
  obtain ⟨⟨τ, o⟩, hstep, h⟩ := Option.bind_eq_some_iff.1 h
  have hview := view_stepQueue hstep
  dsimp only at h
  split at h
  · exact calm_giving (.of_eq ((view_dropItems _ _).trans hview)) h
  · exact calm_giving (.of_eq hview) h

theorem calm_pop {q : Nat} (h : σ.pop t q = some next) : next.Calm σ := by
  obtain ⟨⟨τ, o⟩, hstep, h⟩ := Option.bind_eq_some_iff.1 h
  have hview := view_stepQueue hstep
  split at h
  · next heq =>
    cases heq
    exact calm_giving (.of_eq hview) h
  · next heq =>
    cases heq
    exact absurd rfl (stepQueue_ne_wokeEmpty hstep)
  · next heq =>
    cases heq
    exact calm_going (.of_eq ((view_acquire _ _).trans hview))
      (isInternal_pair rfl rfl) h

theorem calm_queueAnswer {q : Nat} {query : QueueQuery} (h : σ.queueAnswer q query = some next) :
    next.Calm σ := by
  obtain ⟨queue, -, h⟩ := Option.bind_eq_some_iff.1 h
  cases query with
  | tryPop =>
    obtain ⟨⟨τ, o⟩, hstep, h⟩ := Option.bind_eq_some_iff.1 h
    have hview := view_stepQueue hstep
    split at h
    · next heq =>
      cases heq
      exact calm_giving (.of_eq hview) h
    · next heq =>
      cases heq
      exact calm_giving (.of_eq hview) h
  | length => exact calm_giving (.refl _) h
  | isEmpty => exact calm_giving (.refl _) h
  | drain => exact calm_giving (.of_eq (view_drain σ q _)) h
  | drainGrouped => exact calm_giving (.of_eq (view_drain σ q _)) h

theorem calm_rename {handle : Nat} {name : String} (h : σ.rename handle name = some next) :
    next.Calm σ := by
  obtain ⟨x, -, h⟩ := Option.bind_eq_some_iff.1 h
  split at h
  · exact calm_giving (.refl _) h
  · obtain ⟨⟨τ, o⟩, hstep, h⟩ := Option.bind_eq_some_iff.1 h
    exact calm_giving (eases_stepHandle hstep rfl) h

/-- A call of a handle is calm if it takes no lock. -/
theorem calm_handleCall {handle : Nat} {a : Handle.Action} {frames : List Frame}
    (ha : a.locker? = none) (hf : ∀ f ∈ frames, f.isInternal = true)
    (h : handleCall (σ.stepHandle handle a) handle frames = some next) : next.Calm σ := by
  obtain ⟨⟨τ, o⟩, hstep, h⟩ := Option.bind_eq_some_iff.1 h
  have he := eases_stepHandle hstep ha
  split at h
  · next heq =>
    cases heq
    exact calm_giving he h
  · next heq =>
    cases heq
    exact calm_going (he.trans (.of_eq (view_acquire _ _)))
      (isInternal_append hf (isInternal_singleton rfl)) h

theorem calm_poolNew {id label : String} {threads : UInt32} {kind : PoolKind} {faults : Faults}
    (h : σ.poolNew id threads kind label faults = some next) : next.Calm σ := by
  have hmade (τ : Session) (object : Pool) (ho : View.Eases σ.view τ.view)
      (hlawful : object.IsLawful) (hs : object.submitter = none) (hj : object.joiner = none) :
      View.Eases σ.view ({ τ with
        pools := τ.pools.push { object }
        poolNames := τ.poolNames.register id σ.pools.size } : Session).view := by
    refine ho.trans ?_
    have hview : ({ τ with
        pools := τ.pools.push { object }
        poolNames := τ.poolNames.register id σ.pools.size } : Session).view =
        τ.view.withPool τ.pools.size object := View.ext rfl rfl rfl (objects_push _ _)
    rw [hview]
    exact View.eases_newPool hlawful hs hj
  rw [poolNew.eq_def] at h
  dsimp only at h
  split at h
  · exact calm_giving (.refl _) h
  · next τ object heq =>
    have heases : View.Eases σ.view ({ τ with
        pools := τ.pools.push { object }
        poolNames := τ.poolNames.register id σ.pools.size } : Session).view := by
      cases kind with
      | jobs =>
        dsimp only at heq
        cases hcreate : (JobPool.create threads : Except Error (JobPool JobId)) with
        | error e => simp [hcreate, Except.map] at heq
        | ok p =>
          simp only [hcreate, Except.map, Except.ok.injEq, Prod.mk.injEq] at heq
          obtain ⟨rfl, rfl⟩ := heq
          obtain ⟨-, hp⟩ := JobPool.create_eq_ok hcreate
          refine hmade σ (.jobs p) (.refl _) ⟨threads, [], p, hcreate, .nil⟩ ?_ rfl
          rw [Pool.submitter, hp]
          rfl
      | workers =>
        dsimp only at heq
        obtain ⟨hworkers, -, hnodup, -⟩ :=
          σ.createWorkers_spec σ.pools.size label id faults 0 threads.toNat
        generalize σ.createWorkers σ.pools.size label id faults 0 threads.toNat = created
          at heq hworkers hnodup
        obtain ⟨τ', answers⟩ := created
        cases hcreate : (WorkerPool.create label answers :
            Except Error (Effect (WorkerPool JobId) Unit)) with
        | error e => simp [hcreate, Except.map] at heq
        | ok e =>
          simp only [hcreate, Except.map, Except.ok.injEq, Prod.mk.injEq] at heq
          obtain ⟨rfl, rfl⟩ := heq
          obtain ⟨workers, hstate, -, -⟩ := WorkerPool.create_eq_ok hcreate
          refine hmade _ (.workers e.state) hworkers
            ⟨label, answers, [], hnodup, e, hcreate, .nil⟩ rfl ?_
          rw [Pool.joiner, hstate]
    have hrelease := releaseName_calm ({ τ with
        pools := τ.pools.push { object }
        poolNames := τ.poolNames.register id σ.pools.size } : Session)
      (τ.poolNames.lookup id) .pool
    exact calm_givingAfter ⟨heases.trans hrelease.1, hrelease.2⟩ h

theorem eases_beginDestroy {pool : Nat} (h : σ.beginDestroy t pool = some τ) :
    View.Eases σ.view τ.view := by
  obtain ⟨x, -, h⟩ := Option.bind_eq_some_iff.1 h
  split at h
  · obtain ⟨⟨ρ, o⟩, hstep, rfl⟩ := Option.map_eq_some_iff.1 h
    refine eases_stepWorkers hstep fun c hc => ?_
    cases hc
  · obtain ⟨⟨ρ, o⟩, hstep, rfl⟩ := Option.map_eq_some_iff.1 h
    exact eases_stepJobs hstep rfl

theorem calm_abandon {pool : Nat} (h : σ.abandon pool = some next) : next.Calm σ := by
  obtain ⟨x, -, h⟩ := Option.bind_eq_some_iff.1 h
  split at h
  · obtain ⟨⟨τ, o⟩, hstep, h⟩ := Option.bind_eq_some_iff.1 h
    have he : View.Eases σ.view τ.view := eases_stepWorkers hstep fun c hc => by cases hc
    split at h
    · next heq =>
      cases heq
      exact calm_going he (isInternal_discards _) h
    · next heq =>
      cases heq
      exact calm_going he (fun f hf => absurd hf List.not_mem_nil) h
  · obtain ⟨⟨τ, o⟩, hstep, h⟩ := Option.bind_eq_some_iff.1 h
    exact calm_going (eases_stepJobs hstep rfl) (fun f hf => absurd hf List.not_mem_nil) h

/-! ## Steps of a scenario -/

variable {job : Option JobId}

/-- A call of the library is calm if it runs no closure and takes no lock. -/
theorem calm_perform {step : Step} (hcall : step.isCall = true)
    (hruns : step.runsClosure = false) (hlock : step.takesLock = false)
    (h : σ.perform t job step = some next) : next.Calm σ := by
  cases step with
  | openGate | passGate | record | panic | threadName | awaitKill | repeated | branches =>
    cases hcall
  | run | taskRun => cases hruns
  | start | kill | submit => cases hlock
  | killed =>
    dsimp only [perform] at h
    split at h <;> exact calm_giving (.refl _) h
  | semaphoreNew id initial ceiling =>
    dsimp only [perform] at h
    split at h
    · exact calm_giving (.refl _) h
    · next s hs => exact calm_giving (View.eases_newSemaphore (Semaphore.sound_create hs).1) h
  | semaphoreWait id =>
    dsimp only [perform] at h
    split at h
    · exact calm_giving (.refl _) h
    · exact calm_semaphoreWait h
  | semaphorePost id =>
    dsimp only [perform] at h
    split at h
    · exact calm_giving (.refl _) h
    · exact calm_semaphorePost h
  | semaphoreAsk id query =>
    dsimp only [perform] at h
    split at h <;> exact calm_giving (.refl _) h
  | queueNew id =>
    exact calm_givingAfter (releaseName_calm { σ with
      queues := σ.queues.push { object := {} }
      queueNames := σ.queueNames.register id σ.queues.size } _ _) h
  | push id value memory =>
    dsimp only [perform] at h
    split at h
    · exact calm_giving (.refl _) h
    · exact calm_push h
  | pop id =>
    dsimp only [perform] at h
    split at h
    · exact calm_giving (.refl _) h
    · exact calm_pop h
  | queueAsk id query =>
    dsimp only [perform] at h
    split at h
    · exact calm_giving (.refl _) h
    · exact calm_queueAnswer h
  | queueDestroy id =>
    dsimp only [perform] at h
    split at h
    · exact calm_giving (.refl _) h
    · next q _ =>
      obtain ⟨queue, -, h⟩ := Option.bind_eq_some_iff.1 h
      exact calm_givingAfter (release_calm { σ with
        queues := σ.queues.modify q fun o => { o with object := { o.object with items := [] } }
        queueNames := σ.queueNames.without id } (.queue q)) h
  | queueDrop id =>
    dsimp only [perform] at h
    split at h
    · exact calm_giving (.refl _) h
    · next q _ =>
      exact calm_givingAfter
        (release_calm { σ with queueNames := σ.queueNames.without id } (.queue q)) h
  | handleNew id name body switch =>
    have hnew : View.Eases σ.view ({ σ with
        jobs := σ.jobs.push
          { actor := id, body, switch := if switch then some σ.handles.size else none }
        handles := σ.handles.push { object := .create (.ofOption name) σ.jobs.size }
        handleNames := σ.handleNames.register id σ.handles.size } : Session).view := by
      have hview : ({ σ with
          jobs := σ.jobs.push
            { actor := id, body, switch := if switch then some σ.handles.size else none }
          handles := σ.handles.push { object := .create (.ofOption name) σ.jobs.size }
          handleNames := σ.handleNames.register id σ.handles.size } : Session).view =
          σ.view.withHandle σ.handles.size (.create (.ofOption name) σ.jobs.size) :=
        View.ext rfl rfl (objects_push _ _) rfl
      rw [hview]
      exact View.eases_newHandle _ _
    have hrelease := releaseName_calm ({ σ with
        jobs := σ.jobs.push
          { actor := id, body, switch := if switch then some σ.handles.size else none }
        handles := σ.handles.push { object := .create (.ofOption name) σ.jobs.size }
        handleNames := σ.handleNames.register id σ.handles.size } : Session)
      (σ.handleNames.lookup id) .handle
    exact calm_givingAfter ⟨hnew.trans hrelease.1, hrelease.2⟩ h
  | join id =>
    dsimp only [perform] at h
    split at h
    · exact calm_giving (.refl _) h
    · exact calm_handleCall rfl (isInternal_singleton rfl) h
  | rename id name =>
    dsimp only [perform] at h
    split at h
    · exact calm_giving (.refl _) h
    · exact calm_rename h
  | handleAsk id query =>
    dsimp only [perform] at h
    split at h
    · exact calm_giving (.refl _) h
    · obtain ⟨answer, -, h⟩ := Option.bind_eq_some_iff.1 h
      exact calm_giving (.refl _) h
  | handleDrop id =>
    dsimp only [perform] at h
    split at h
    · exact calm_giving (.refl _) h
    · next x _ =>
      exact calm_givingAfter
        (release_calm { σ with handleNames := σ.handleNames.without id } (.handle x)) h
  | taskNew id body =>
    exact calm_givingAfter ⟨.refl _, isInternal_discards _⟩ h
  | taskShown id => exact calm_giving (.refl _) h
  | taskDrop id =>
    dsimp only [perform] at h
    split at h
    · exact calm_giving (.refl _) h
    · exact calm_givingAfter ⟨.refl _, isInternal_singleton rfl⟩ h
  | poolNew id threads kind label faults => exact calm_poolNew h
  | destroy id =>
    dsimp only [perform] at h
    split at h
    · exact calm_giving (.refl _) h
    · obtain ⟨τ, hdestroy, h⟩ := Option.bind_eq_some_iff.1 h
      exact calm_going ((eases_beginDestroy hdestroy).trans (.of_eq (view_acquire _ _)))
        (isInternal_pair rfl rfl) h
  | poolDrop id =>
    dsimp only [perform] at h
    split at h
    · exact calm_giving (.refl _) h
    · next x _ =>
      exact calm_givingAfter
        (release_calm { σ with poolNames := σ.poolNames.without id } (.pool x)) h
  | poolAsk id query =>
    dsimp only [perform] at h
    split at h <;> exact calm_giving (.refl _) h
  | dropRef =>
    dsimp only [perform] at h
    split at h
    · exact calm_givingAfter (releaseCaptured_calm _ _) h
    · exact calm_giving (.refl _) h

end Session

end

end Threading.Scenario

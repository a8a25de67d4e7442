import Threading.Proofs.Scenario.Calls

/-!
# What a turn of a thread does

The frames of a thread tell what it is in the middle of. A frame of the library is
followed by frames of the library, until the call gives a value: it neither runs a
closure nor panics. A call that takes a lock has it only while a frame of the call is
there, and nothing but drops stand above that frame (`Inside`).

`Turn.Sound` says so of every turn, in four laws, and `turn_sound` proves it, frame by
frame. Panics come out of a turn only if they went in, or were raised by a step of a
closure (`raised?`).
-/

namespace Threading.Scenario

/-- The panic that a step of a closure, or of the program itself, raises. -/
def raised? : Control → Frame → Option String
  | .go, .body _ _ (.panic message :: _) | .go, .perform _ (.panic message) => some message
  | _, _ => none

/-- The frames drop bodies and pools, and let the frame below go on once they are done. -/
inductive Silent : Control → List Frame → Prop
  | nil : Silent .go []
  | discard {job : JobId} {rest : List Frame} : Silent .go rest → Silent .go (.discard job :: rest)
  | demolish {pool : Nat} {rest : List Frame} :
    Silent .go rest → Silent .go (.demolish pool :: rest)
  | destroying {pool pool' : Nat} {rest : List Frame} : Silent .go rest →
    Silent .go (.destroying pool :: .abandoning pool' :: rest)
  /-- The destroy of the pool is over. -/
  | destroyed {v : Value} {pool : Nat} {rest : List Frame} : Silent .go rest →
    Silent (.give v) (.abandoning pool :: rest)
  | abandoning {pool : Nat} {rest : List Frame} :
    Silent .go rest → Silent .go (.abandoning pool :: rest)

/-- A thread that goes on like this is in a call that may hold the lock, and does nothing
    but drop bodies and pools before the call goes on. -/
def Inside (m : Mutex) (control : Control) (frames : List Frame) : Prop :=
  ∃ above f below, frames = above ++ f :: below ∧ f.holds m = true ∧ Silent control above

section Inside

variable {m : Mutex} {control : Control} {frames : List Frame}

theorem Silent.panic? (h : Silent control frames) : control.panic? = none := by
  cases h <;> rfl

theorem Silent.isInternal (h : Silent control frames) : ∀ f ∈ frames, f.isInternal = true := by
  induction h with
  | nil => exact fun f hf => absurd hf List.not_mem_nil
  | destroying _ ih => exact List.forall_mem_cons.2 ⟨rfl, List.forall_mem_cons.2 ⟨rfl, ih⟩⟩
  | discard _ ih | demolish _ ih | destroyed _ ih | abandoning _ ih =>
    exact List.forall_mem_cons.2 ⟨rfl, ih⟩

theorem Silent.discards (h : Silent .go frames) (jobs : List JobId) :
    Silent .go (jobs.map .discard ++ frames) := by
  induction jobs with
  | nil => exact h
  | cons job rest ih => exact .discard ih

/-- A thread whose topmost frame may hold the lock is in such a call. -/
theorem inside_cons {f : Frame} {below : List Frame} (hf : f.holds m = true) :
    Inside m .go (f :: below) :=
  ⟨[], f, below, rfl, hf, .nil⟩

/-- Neither a panic nor a closure is under way on a thread that is in such a call. -/
theorem Inside.head (h : Inside m control frames) :
    control.panic? = none ∧ ∃ f rest, frames = f :: rest ∧ f.isInternal = true := by
  obtain ⟨above, f, below, rfl, hf, hs⟩ := h
  refine ⟨hs.panic?, ?_⟩
  cases above with
  | nil => exact ⟨f, below, rfl, Frame.isInternal_of_holds hf⟩
  | cons g above => exact ⟨g, above ++ f :: below, rfl, hs.isInternal g List.mem_cons_self⟩

end Inside

/-- A call may hold one lock at most. -/
theorem Frame.holds_eq_false {f : Frame} {m lock : Mutex} (hf : f.holds lock = true)
    (hm : m ≠ lock) : f.holds m = false := by
  refine Bool.eq_false_iff.2 fun hfm => hm ?_
  cases f with
  | starting | proceeding | submitting | destroying =>
    cases lock <;> cases m <;>
      first | cases hf | cases hfm | rw [← beq_iff_eq.1 hf, ← beq_iff_eq.1 hfm]
  | _ => cases hf

namespace Turn

/-- What a turn of the thread `t` with this topmost frame does. -/
structure Sound (σ : Session) (t : ThreadId) (control : Control) (frame : Frame) (next : Turn) :
    Prop where
  follows : View.Follows σ.view next.session.view
  panics : ∀ message ∈ next.panics,
    control.panic? = some message ∨ frame.panic? = some message ∨
      raised? control frame = some message
  internal : control.panic? = none → frame.isLibrary = true → next.IsInternal
  /-- A lock that is held after the turn is held by the thread in a call that goes on, or was
      held before by another thread, or by a frame below. -/
  locks : σ.view.Lawful → ∀ m u, next.session.view.holder m = some u →
    u = t ∧ Inside m next.control next.frames ∨
      σ.view.holder m = some u ∧ (u = t → control = .go → frame.holds m = false)

variable {σ τ : Session} {t : ThreadId} {control : Control} {frame : Frame} {next : Turn}

/-- A calm turn is sound, where no call that may hold a lock goes on. -/
theorem Calm.sound (h : Calm σ next) (hf : ∀ m, control = .go → frame.holds m = false) :
    Sound σ t control frame next where
  follows := h.eases.toFollows
  panics m hm := by
    rw [h.internal.panics_eq_nil] at hm
    exact absurd hm List.not_mem_nil
  internal _ _ := h.internal
  locks hv m u hu := .inr ⟨h.eases.frees hv m u hu, fun _ => hf m⟩

/-- A turn of a frame that is not one of the library is sound if it takes no lock and lets
    through only the panics that it may. -/
theorem sound_of_eases (h : View.Eases σ.view next.session.view) (hf : frame.isLibrary = false)
    (hp : ∀ message ∈ next.panics, control.panic? = some message ∨
      frame.panic? = some message ∨ raised? control frame = some message) :
    Sound σ t control frame next where
  follows := h.toFollows
  panics := hp
  internal _ hi := by
    rw [hf] at hi
    cases hi
  locks hv m u hu := by
    refine .inr ⟨h.frees hv m u hu, fun _ _ => Bool.eq_false_iff.2 fun hm => ?_⟩
    rw [Frame.isLibrary_of_isInternal (Frame.isInternal_of_holds hm)] at hf
    cases hf

/-- So is one after which no panic is under way. -/
theorem sound_of_silent (h : View.Eases σ.view next.session.view) (hf : frame.isLibrary = false)
    (hp : next.panics = []) : Sound σ t control frame next :=
  sound_of_eases h hf fun _ hm => absurd (hp ▸ hm) List.not_mem_nil

end Turn

namespace Session

variable {σ τ : Session} {t : ThreadId} {control : Control} {frame : Frame} {next : Turn}
  {job : Option JobId}

/-! ## Calls that take locks -/

theorem follows_stepHandle {id : Nat} {a : Handle.Action} {o : Handle.Outcome JobId}
    (h : σ.stepHandle id a = some (τ, o))
    (hgrant : ∀ c u x, a = .spawn c (.ok u) → σ.view.handles id = some x →
      σ.view.Carries u x.name) : View.Follows σ.view τ.view := by
  obtain ⟨x, e, hx, he, -, hview⟩ := of_stepHandle h
  rw [hview]
  exact View.follows_handle hx he fun c u ha => hgrant c u x ha hx

theorem follows_stepWorkers {id : Nat} {a : WorkerPool.Action JobId}
    {o : WorkerPool.Outcome JobId} (h : σ.stepWorkers id a = some (τ, o)) :
    View.Follows σ.view τ.view := by
  obtain ⟨p, e, hp, he, -, hview⟩ := of_stepWorkers h
  rw [hview]
  exact View.follows_pool fun hv => isLawful_workers (hv.pools _ _ hp) he

theorem follows_stepJobs {id : Nat} {a : JobPool.Action JobId} {o : JobPool.Outcome JobId}
    (h : σ.stepJobs id a = some (τ, o)) : View.Follows σ.view τ.view := by
  obtain ⟨p, e, hp, he, -, hview⟩ := of_stepJobs h
  rw [hview]
  exact View.follows_pool fun hv => isLawful_jobs (hv.pools _ _ hp) he

/-- A step of a call is sound, if it has to do with one lock at most, and the call goes on (`P`)
    where it may hold that lock. -/
theorem sound_call {lock : Mutex} {P : Prop} (hf : View.Follows σ.view next.session.view)
    (hi : next.IsInternal)
    (hlocks : σ.view.Lawful → ∀ m u, next.session.view.holder m = some u →
      u = t ∧ m = lock ∧ P ∨ σ.view.holder m = some u ∧ (u = t → m ≠ lock))
    (hframe : ∀ m, m ≠ lock → frame.holds m = false)
    (hon : P → Inside lock next.control next.frames) : next.Sound σ t control frame where
  follows := hf
  panics message hm := by
    rw [hi.panics_eq_nil] at hm
    exact absurd hm List.not_mem_nil
  internal _ _ := hi
  locks hv m u hu := by
    rcases hlocks hv m u hu with ⟨rfl, rfl, hp⟩ | ⟨hu, hm⟩
    · exact .inl ⟨rfl, hon hp⟩
    · exact .inr ⟨hu, fun hut _ => hframe m (hm hut)⟩

/-- A call that begins with the lock of a handle is sound. -/
theorem sound_handleCall {handle : Nat} {a : Handle.Action} {f : Frame}
    (ha : a.locker? = some t) (hspawn : ∀ c u, a ≠ .spawn c (.ok u))
    (hf : f.holds (.handle handle) = true) (hframe : ∀ m, frame.holds m = false)
    (h : handleCall (σ.stepHandle handle a) handle [f] = some next) :
    next.Sound σ t control frame := by
  obtain ⟨⟨τ, o⟩, hstep, h⟩ := Option.bind_eq_some_iff.1 h
  have hfollows := follows_stepHandle hstep fun c u x ha => absurd ha (hspawn c u)
  have hlocks := fun hv m u => @holder_stepHandle σ τ σ handle t u m (.refl _) hv a o hstep ha
  split at h
  · next heq =>
    cases heq
    cases h
    exact sound_call hfollows Turn.isInternal_giving hlocks (fun m _ => hframe m)
      fun ho => by cases ho
  · next heq =>
    cases heq
    cases h
    have hview : (τ.acquire (.handle handle)).view = τ.view := view_acquire _ _
    rw [← hview] at hfollows hlocks
    exact sound_call hfollows ⟨rfl, isInternal_pair (Frame.isInternal_of_holds hf) rfl⟩ hlocks
      (fun m _ => hframe m) fun _ => inside_cons hf

/-- A step of a call that has the lock of a handle is sound: the call is over, or goes on. -/
theorem sound_handleStep {handle : Nat} {a : Handle.Action} {o : Handle.Outcome JobId}
    {ρ : Session} (hρ : View.Eases σ.view ρ.view) (ha : a.locker? = some t)
    (hgrant : ∀ c u x, a = .spawn c (.ok u) → ρ.view.handles handle = some x →
      ρ.view.Carries u x.name)
    (hframe : frame.holds (.handle handle) = true)
    (hstep : ρ.stepHandle handle a = some (τ, o))
    (h : (match o with
      | .returned result => giving τ (resultValue result)
      | _ => going τ [.proceeding handle]) = some next) :
    next.Sound σ t control frame := by
  have hfollows := hρ.toFollows.trans (follows_stepHandle hstep hgrant)
  have hlocks := fun hv m u => @holder_stepHandle σ τ ρ handle t u m hρ hv a o hstep ha
  split at h
  · cases h
    exact sound_call hfollows Turn.isInternal_giving hlocks
      (fun _ => Frame.holds_eq_false hframe) fun ho => by cases ho
  · cases h
    exact sound_call hfollows ⟨rfl, isInternal_singleton rfl⟩ hlocks
      (fun _ => Frame.holds_eq_false hframe) fun _ => inside_cons BEq.rfl

/-- A submit that begins is sound. -/
theorem sound_submit {pool : Nat} {task : String} {body : Job} {memory : Bool} {faults : Faults}
    (hframe : ∀ m, frame.holds m = false)
    (h : σ.submit t pool task body memory faults = some next) : next.Sound σ t control frame := by
  rw [submit] at h
  have hview : (if body.held.isSome then σ.acquire (.pool pool) else σ).view = σ.view := by
    split
    · exact view_acquire _ _
    · rfl
  generalize (if body.held.isSome then σ.acquire (.pool pool) else σ) = ρ at h hview
  have he : View.Eases σ.view (ρ.addJob body).1.view := .of_eq hview
  generalize ρ.addJob body = added at h he
  obtain ⟨ρ', number⟩ := added
  obtain ⟨x, -, h⟩ := Option.bind_eq_some_iff.1 h
  split at h
  · obtain ⟨⟨τ, o⟩, hstep, h⟩ := Option.bind_eq_some_iff.1 h
    have he' := he.trans (eases_stepWorkers hstep fun c hc => by cases hc)
    split at h
    · next heq =>
      cases heq
      exact (calm_givingAfter ⟨he', isInternal_singleton rfl⟩ h).sound fun m _ => hframe m
    · next heq =>
      cases heq
      exact (calm_giving he' h).sound fun m _ => hframe m
  · obtain ⟨⟨τ, o⟩, hstep, h⟩ := Option.bind_eq_some_iff.1 h
    have hfollows := he.toFollows.trans (follows_stepJobs hstep)
    have hlocks := fun hv m u => @holder_stepJobs σ τ ρ' pool t u m he hv _ o hstep rfl
    split at h
    · next heq =>
      cases heq
      cases h
      exact sound_call hfollows ⟨rfl, isInternal_pair rfl rfl⟩ hlocks (fun m _ => hframe m)
        fun ho => by cases ho
    · next heq =>
      cases heq
      cases h
      have hview : (τ.acquire (.pool pool)).view = τ.view := view_acquire _ _
      rw [← hview] at hfollows hlocks
      exact sound_call hfollows ⟨rfl, isInternal_pair rfl rfl⟩ hlocks (fun m _ => hframe m)
        fun _ => inside_cons BEq.rfl

/-- A step of a submit that has the lock of a pool is sound: the submit is over, or goes on. -/
theorem sound_submitStep {pool : Nat} {task : String} {memory : Bool} {faults : Faults}
    {a : JobPool.Action JobId} {o : JobPool.Outcome JobId} {ρ : Session}
    (hρ : View.Eases σ.view ρ.view) (ha : a.locker? = some t)
    (hstep : ρ.stepJobs pool a = some (τ, o))
    (h : (match o with
      | .accepted => giving τ okValue
      | .rejected e job => givingAfter (τ, [.discard job]) (errorValue e)
      | _ => going τ [.submitting pool task memory faults]) = some next) :
    next.Sound σ t control (.submitting pool task memory faults) := by
  have hframe (m : Mutex) (hm : m ≠ .submit pool) :=
    Frame.holds_eq_false (f := .submitting pool task memory faults) BEq.rfl hm
  have hfollows := hρ.toFollows.trans (follows_stepJobs hstep)
  have hlocks := fun hv m u => @holder_stepJobs σ τ ρ pool t u m hρ hv a o hstep ha
  split at h
  · cases h
    exact sound_call hfollows Turn.isInternal_giving hlocks hframe fun ho => by cases ho
  · cases h
    exact sound_call hfollows ⟨rfl, isInternal_pair rfl rfl⟩ hlocks hframe fun ho => by cases ho
  · cases h
    exact sound_call hfollows ⟨rfl, isInternal_singleton rfl⟩ hlocks hframe
      fun _ => inside_cons BEq.rfl

/-- A submit that goes on is sound. -/
theorem sound_submitOn {pool : Nat} {task : String} {memory : Bool} {faults : Faults}
    (h : σ.submitOn t pool task memory faults = some next) :
    next.Sound σ t control (.submitting pool task memory faults) := by
  obtain ⟨x, -, h⟩ := Option.bind_eq_some_iff.1 h
  split at h
  · cases h
  · obtain ⟨s, -, h⟩ := Option.bind_eq_some_iff.1 h
    dsimp only at h
    split at h
    · obtain ⟨⟨τ, o⟩, hstep, h⟩ := Option.bind_eq_some_iff.1 h
      refine sound_submitStep (σ.eases_createThread _ _ _ _ _) rfl hstep ?_
      cases o <;> exact h
    · obtain ⟨⟨τ, o⟩, hstep, h⟩ := Option.bind_eq_some_iff.1 h
      refine sound_submitStep (.refl _) rfl hstep ?_
      cases o <;> exact h

/-- A destroy that goes on is sound. -/
theorem sound_destroyOn {pool : Nat} (h : σ.destroyOn t pool = some next) :
    next.Sound σ t control (.destroying pool) := by
  have hframe (m : Mutex) (hm : m ≠ .teardown pool) :=
    Frame.holds_eq_false (f := .destroying pool) BEq.rfl hm
  obtain ⟨x, hx, h⟩ := Option.bind_eq_some_iff.1 h
  split at h
  · obtain ⟨⟨τ, o⟩, hstep, h⟩ := Option.bind_eq_some_iff.1 h
    have hfollows := follows_stepWorkers hstep
    have hlocks := fun hv m u => @holder_stepWorkers σ τ pool t u m hv o hstep
    split at h
    · next n heq =>
      cases heq
      cases h
      exact sound_call hfollows Turn.isInternal_giving hlocks hframe fun ho => absurd rfl (ho n)
    · next jobs heq =>
      cases heq
      cases h
      refine sound_call hfollows
        ⟨rfl, isInternal_append (isInternal_discards _) (isInternal_singleton rfl)⟩ hlocks hframe
        fun _ => ⟨jobs.map .discard, .destroying pool, [], rfl, BEq.rfl, ?_⟩
      rw [← List.append_nil (jobs.map _)]
      exact Silent.nil.discards jobs
    · next heq =>
      cases heq
      cases h
      exact sound_call hfollows ⟨rfl, isInternal_singleton rfl⟩ hlocks hframe
        fun _ => inside_cons BEq.rfl
  · next p hobject =>
    obtain ⟨⟨τ, o⟩, hstep, h⟩ := Option.bind_eq_some_iff.1 h
    have he := eases_stepJobs hstep rfl
    -- A pool with a thread for every job has no teardown lock.
    have hlocks (hv : σ.view.Lawful) (m : Mutex) (u : ThreadId)
        (hu : τ.view.holder m = some u) : u = t ∧ m = .teardown pool ∧ False ∨
          σ.view.holder m = some u ∧ (u = t → m ≠ .teardown pool) := by
      have hu := he.frees hv m u hu
      refine .inr ⟨hu, fun _ hm => ?_⟩
      have hnone : σ.view.holder (.teardown pool) = none := by
        change (objects σ.pools pool).bind Pool.joiner = none
        rw [objects_eq_some hx, hobject]
        rfl
      rw [hm, hnone] at hu
      cases hu
    split at h
    · next heq =>
      cases heq
      cases h
      exact sound_call he.toFollows Turn.isInternal_giving hlocks hframe False.elim
    · next heq =>
      cases heq
      cases h
      exact sound_call he.toFollows ⟨rfl, isInternal_singleton rfl⟩ hlocks hframe False.elim

/-! ## Turns by how the thread goes on -/

/-- Branches begin as new threads. -/
theorem eases_branches (σ : Session) (job : Option JobId) (lists : List (List Step)) :
    View.Eases σ.view (lists.foldl
      (fun σ steps => (σ.addThread { frames := [.branch job [] steps] }).1) σ).view := by
  induction lists generalizing σ with
  | nil => exact .refl _
  | cons steps rest ih =>
    refine .trans (σ.eases_addThread ⟨rfl, fun name h => ?_⟩) (ih _)
    cases h

theorem sound_perform {step : Step} (h : σ.perform t job step = some next) :
    next.Sound σ t .go (.perform job step) := by
  cases step with
  | openGate | passGate | record | repeated =>
    cases h
    exact Turn.sound_of_silent (.refl _) rfl rfl
  | panic message =>
    cases h
    refine Turn.sound_of_eases (.refl _) rfl fun x hx => .inr (.inr ?_)
    rw [List.mem_singleton.1 hx]
    rfl
  | threadName =>
    dsimp only [perform] at h
    split at h <;>
    · cases h
      exact Turn.sound_of_silent (.refl _) rfl rfl
  | awaitKill =>
    obtain ⟨handle, -, h⟩ := Option.bind_eq_some_iff.1 h
    cases h
    exact Turn.sound_of_silent (.refl _) rfl rfl
  | branches lists merged =>
    cases h
    exact Turn.sound_of_silent (σ.eases_branches job lists) rfl rfl
  | start id faults =>
    dsimp only [perform] at h
    split at h
    · exact (calm_giving (.refl _) h).sound fun _ _ => rfl
    · exact sound_handleCall rfl (fun c u ha => by cases ha) BEq.rfl (fun _ => rfl) h
  | kill id =>
    dsimp only [perform] at h
    split at h
    · exact (calm_giving (.refl _) h).sound fun _ _ => rfl
    · exact sound_handleCall rfl (fun c u ha => by cases ha) BEq.rfl (fun _ => rfl) h
  | submit id task body memory faults holdsPool =>
    dsimp only [perform] at h
    split at h
    · exact (calm_giving (.refl _) h).sound fun _ _ => rfl
    · exact sound_submit (fun _ => rfl) h
  | run id =>
    dsimp only [perform] at h
    split at h
    · exact (calm_giving (.refl _) h).sound fun _ _ => rfl
    · obtain ⟨⟨τ, o⟩, hstep, h⟩ := Option.bind_eq_some_iff.1 h
      have he := eases_stepHandle hstep rfl
      split at h
      · next heq =>
        cases heq
        exact (calm_giving he h).sound fun _ _ => rfl
      · next heq =>
        cases heq
        cases h
        exact Turn.sound_of_silent (he.trans (.of_eq (view_acquire _ _))) rfl rfl
  | taskRun id =>
    dsimp only [perform] at h
    split at h
    · exact (calm_giving (.refl _) h).sound fun _ _ => rfl
    · obtain ⟨body, -, h⟩ := Option.bind_eq_some_iff.1 h
      cases h
      exact Turn.sound_of_silent (.refl _) rfl rfl
  | _ => exact (calm_perform rfl rfl rfl h).sound fun _ _ => rfl

/-- The closure of a handle goes on, on the thread of its caller. -/
theorem sound_inlineOn {handle : Nat} {panicked : Option String}
    (h : σ.inlineOn t handle panicked = some next) :
    next.Sound σ t control (.inline handle panicked) := by
  obtain ⟨⟨τ, o⟩, hstep, h⟩ := Option.bind_eq_some_iff.1 h
  have he := eases_stepHandle hstep rfl
  split at h
  · next heq =>
    cases heq
    obtain ⟨body, -, h⟩ := Option.bind_eq_some_iff.1 h
    cases h
    refine Turn.sound_of_eases he rfl fun m hm => .inr (.inl ?_)
    simpa [Turn.panics, panicsOf, Frame.panic?, Control.panic?] using hm
  · next heq =>
    cases heq
    split at h
    · exact (calm_giving he h).sound fun _ _ => rfl
    · cases h
      refine Turn.sound_of_eases he rfl fun m hm => .inr (.inl ?_)
      rw [List.mem_singleton.1 hm]
      rfl
  · next heq =>
    cases heq
    cases h
    refine Turn.sound_of_eases he rfl fun m hm => .inr (.inl ?_)
    simpa [Turn.panics, panicsOf, Frame.panic?, Control.panic?] using hm

/-- A created thread goes on outside of bodies. -/
theorem sound_mainOn {source : Source} (h : σ.mainOn t source = some next) :
    next.Sound σ t control (.main source) := by
  have silent {τ : Session} {c : Control} {frames : List Frame}
      (he : View.Eases σ.view τ.view) (hp : panicsOf c frames = []) :
      Turn.Sound σ t control (.main source) { session := τ, control := c, frames } :=
    Turn.sound_of_silent he rfl hp
  have discards (jobs : List JobId) :
      panicsOf .go (jobs.map Frame.discard ++ [.main source]) = [] := by
    simp [panicsOf, Control.panic?, Frame.panic?, List.filterMap_append, List.filterMap_map,
      Function.comp_def]
  cases source with
  | handle id =>
    obtain ⟨⟨τ, o⟩, hstep, h⟩ := Option.bind_eq_some_iff.1 h
    have he := eases_stepHandle hstep rfl
    split at h
    · next heq =>
      cases heq
      obtain ⟨body, -, h⟩ := Option.bind_eq_some_iff.1 h
      cases h
      exact silent he rfl
    all_goals
      next heq =>
      cases heq
      cases h
      exact silent he rfl
  | worker pool index =>
    obtain ⟨⟨τ, o⟩, hstep, h⟩ := Option.bind_eq_some_iff.1 h
    have he : View.Eases σ.view τ.view := eases_stepWorkers hstep fun c hc => by cases hc
    split at h
    · next heq =>
      cases heq
      obtain ⟨body, -, h⟩ := Option.bind_eq_some_iff.1 h
      cases h
      exact silent he rfl
    · next jobs heq =>
      cases heq
      cases h
      exact silent he (discards jobs)
    all_goals
      next heq =>
      cases heq
      cases h
      exact silent he rfl
  | job pool index =>
    obtain ⟨⟨τ, o⟩, hstep, h⟩ := Option.bind_eq_some_iff.1 h
    have he := eases_stepJobs hstep rfl
    split at h
    · next heq =>
      cases heq
      obtain ⟨body, -, h⟩ := Option.bind_eq_some_iff.1 h
      cases h
      exact silent he rfl
    all_goals
      next heq =>
      cases heq
      cases h
      exact silent he rfl

theorem eases_bodyEnded {source : Source} {panicked : Bool}
    (h : σ.bodyEnded t panicked source = some τ) : View.Eases σ.view τ.view := by
  cases source with
  | handle id =>
    obtain ⟨⟨ρ, o⟩, hstep, rfl⟩ := Option.map_eq_some_iff.1 h
    exact eases_stepHandle hstep rfl
  | worker pool index =>
    obtain ⟨⟨ρ, o⟩, hstep, rfl⟩ := Option.map_eq_some_iff.1 h
    refine eases_stepWorkers hstep fun c hc => ?_
    cases hc
  | job pool index =>
    obtain ⟨⟨ρ, o⟩, hstep, rfl⟩ := Option.map_eq_some_iff.1 h
    exact eases_stepJobs hstep rfl

/-- A thread goes on as it was before. -/
theorem sound_resume {before : Control} :
    Turn.Sound σ t control (.resume before) { session := σ, control := before } where
  follows := (View.Eases.refl _).toFollows
  panics m hm := by
    refine .inr (.inl ?_)
    change before.panic? = some m
    simpa [Turn.panics, panicsOf] using hm
  internal _ hi := ⟨Option.isNone_iff_eq_none.1 hi, fun f hf => absurd hf List.not_mem_nil⟩
  locks _ m u hu := .inr ⟨hu, fun _ _ => rfl⟩

/-- The turn of a thread that goes on with its topmost frame is sound. -/
theorem sound_goOn (h : σ.goOn t frame = some next) : next.Sound σ t .go frame := by
  cases frame with
  | perform job step => exact sound_perform h
  | body job word rest =>
    cases rest with
    | nil =>
      have hr := (σ.emit job ["end"]).releaseCaptured_calm job
      rw [view_emit] at hr
      exact (calm_givingAfter hr h).sound fun _ _ => rfl
    | cons step rest =>
      cases step with
      | panic message =>
        cases h
        refine Turn.sound_of_eases (.of_eq (view_emit _ _ _)) rfl fun m hm => .inr (.inr ?_)
        rw [List.mem_singleton.1 hm]
        rfl
      | _ =>
        cases h
        exact Turn.sound_of_silent (.refl _) rfl rfl
  | branch job results rest =>
    cases rest with
    | nil => exact (calm_giving (.refl _) h).sound fun _ _ => rfl
    | cons step rest =>
      cases h
      exact Turn.sound_of_silent (.refl _) rfl rfl
  | repeating job template n left results =>
    cases left with
    | zero => exact (calm_giving (.refl _) h).sound fun _ _ => rfl
    | succ left =>
      dsimp only [goOn] at h
      split at h <;>
      · cases h
        exact Turn.sound_of_silent (.refl _) rfl rfl
  | gathering threads merged =>
    obtain ⟨results, -, h⟩ := Option.bind_eq_some_iff.1 h
    exact (calm_giving (.refl _) h).sound fun _ _ => rfl
  | untilOpen gate =>
    dsimp only [goOn] at h
    split at h
    · cases h
      exact Turn.sound_of_silent (.refl _) rfl rfl
    · cases h
  | untilKilled handle =>
    dsimp only [goOn] at h
    split at h
    · cases h
      exact Turn.sound_of_silent (.refl _) rfl rfl
    · cases h
  | awaitPermit s =>
    obtain ⟨⟨τ, o⟩, hstep, h⟩ := Option.bind_eq_some_iff.1 h
    have he := eases_stepSemaphore hstep
    split at h
    · next heq =>
      cases heq
      exact (calm_giving he h).sound fun _ _ => rfl
    · next heq =>
      cases heq
      exact (calm_going he (isInternal_singleton rfl) h).sound fun _ _ => rfl
  | awaitItem q =>
    obtain ⟨⟨τ, o⟩, hstep, h⟩ := Option.bind_eq_some_iff.1 h
    have hview := view_stepQueue hstep
    split at h
    · next heq =>
      cases heq
      exact (calm_giving (.of_eq hview) h).sound fun _ _ => rfl
    · next heq =>
      cases heq
      exact absurd rfl (stepQueue_ne_wokeEmpty hstep)
    · next heq =>
      cases heq
      exact (calm_going (.of_eq hview) (isInternal_singleton rfl) h).sound fun _ _ => rfl
  | starting handle id faults =>
    obtain ⟨x, hx, h⟩ := Option.bind_eq_some_iff.1 h
    obtain ⟨⟨τ, o⟩, hstep, h⟩ := Option.bind_eq_some_iff.1 h
    refine sound_handleStep (σ.eases_createThread _ _ _ _ _) rfl (fun c u y ha hy => ?_) BEq.rfl
      hstep ?_
    · rw [handles_createThread] at hy
      obtain rfl : x.object = y := Option.some.inj ((objects_eq_some hx).symm.trans hy)
      exact σ.carries_createThread _ _ _ _ _ (Handle.Action.spawn.inj ha).2
    · cases o <;> exact h
  | proceeding handle =>
    obtain ⟨⟨τ, o⟩, hstep, h⟩ := Option.bind_eq_some_iff.1 h
    refine sound_handleStep (.refl _) rfl (fun c u x ha => by cases ha) BEq.rfl hstep ?_
    cases o <;> exact h
  | inline handle panicked => exact sound_inlineOn h
  | main source => exact sound_mainOn h
  | submitting pool task memory faults => exact sound_submitOn h
  | destroying pool => exact sound_destroyOn h
  | guard ref =>
    obtain ⟨he, hf⟩ := σ.release_calm ref
    exact (calm_going he hf h).sound fun _ _ => rfl
  | discard job =>
    have hr := (σ.emit job ["dropped"]).releaseCaptured_calm job
    rw [view_emit] at hr
    exact (calm_going hr.1 hr.2 h).sound fun _ _ => rfl
  | demolish pool =>
    obtain ⟨τ, hdestroy, h⟩ := Option.bind_eq_some_iff.1 h
    exact (calm_going (eases_beginDestroy hdestroy) (isInternal_pair rfl rfl) h).sound
      fun _ _ => rfl
  | abandoning pool => exact (calm_abandon h).sound fun _ _ => rfl
  | resume before =>
    cases h
    exact sound_resume

/-- The turn of a thread whose topmost frame gets a value is sound. -/
theorem sound_receive {v : Value} (h : σ.receive t v frame = some next) :
    next.Sound σ t (.give v) frame := by
  have notGo {frame : Frame} (m : Mutex) (hgo : Control.give v = .go) : frame.holds m = false := by
    cases hgo
  cases frame with
  | body job word rest =>
    cases word with
    | none => exact (calm_giving (.refl _) h).sound notGo
    | some word =>
      cases h
      exact Turn.sound_of_silent (.of_eq (view_emit _ _ _)) rfl rfl
  | branch | repeating =>
    cases h
    exact Turn.sound_of_silent (.refl _) rfl rfl
  | inline handle panicked =>
    obtain ⟨⟨τ, o⟩, hstep, h⟩ := Option.bind_eq_some_iff.1 h
    cases h
    refine Turn.sound_of_eases (eases_stepHandle hstep rfl) rfl fun m hm => .inr (.inl ?_)
    simpa [Turn.panics, panicsOf, Frame.panic?, Control.panic?] using hm
  | main source =>
    obtain ⟨τ, hended, h⟩ := Option.bind_eq_some_iff.1 h
    cases h
    exact Turn.sound_of_silent (eases_bodyEnded hended) rfl rfl
  | guard ref => exact (calm_givingAfter (σ.release_calm ref) h).sound notGo
  | abandoning pool => exact (calm_going (.refl _) (isInternal_singleton rfl) h).sound notGo
  | resume before =>
    cases h
    exact sound_resume
  | _ => exact (calm_giving (.refl _) h).sound notGo

/-- A panic that goes on after references were let go. -/
theorem sound_of_released {message : String} {released : Session × List Frame}
    (hr : View.Eases σ.view released.1.view ∧ ∀ f ∈ released.2, f.isInternal = true)
    (h : going released.1 (released.2 ++ [.resume (.fail message)]) = some next) :
    next.Sound σ t (.fail message) frame := by
  cases h
  exact {
    follows := hr.1.toFollows
    panics := fun m hm => by
      rcases List.mem_filterMap.1 hm with ⟨f, hf, hp⟩
      rcases List.mem_append.1 hf with hf | hf
      · rw [Frame.panic?_of_isInternal (hr.2 f hf)] at hp
        cases hp
      · rw [List.mem_singleton.1 hf] at hp
        exact .inl hp
    internal := fun hc => by cases hc
    locks := fun hv m u hu => .inr ⟨hr.1.frees hv m u hu, fun _ hgo => by cases hgo⟩ }

/-- The turn of a thread on which a panic passes through the topmost frame is sound. -/
theorem sound_unwind {message : String} (h : σ.unwind t message frame = some next) :
    next.Sound σ t (.fail message) frame := by
  have passes {τ : Session} {c : Control} {frames : List Frame} (he : View.Eases σ.view τ.view)
      (hp : ∀ m ∈ panicsOf c frames, m = message) :
      Turn.Sound σ t (.fail message) frame { session := τ, control := c, frames } :=
    { follows := he.toFollows
      panics := fun m hm => .inl (by rw [hp m hm]; rfl)
      internal := fun hc => by cases hc
      locks := fun hv m u hu => .inr ⟨he.frees hv m u hu, fun _ hgo => by cases hgo⟩ }
  cases frame with
  | body job word rest => exact sound_of_released (σ.releaseCaptured_calm job) h
  | branch job results rest =>
    cases h
    exact passes (.refl _) fun m hm => absurd hm List.not_mem_nil
  | inline handle panicked =>
    obtain ⟨⟨τ, o⟩, hstep, h⟩ := Option.bind_eq_some_iff.1 h
    cases h
    exact passes (eases_stepHandle hstep rfl) fun m hm => List.mem_singleton.1 hm
  | main source =>
    obtain ⟨τ, hended, h⟩ := Option.bind_eq_some_iff.1 h
    cases h
    exact passes (eases_bodyEnded hended) fun m hm => absurd hm List.not_mem_nil
  | guard ref => exact sound_of_released (σ.release_calm ref) h
  | _ =>
    cases h
    exact passes (.refl _) fun m hm => List.mem_singleton.1 hm

/-- Every turn is sound. -/
theorem turn_sound (h : σ.turn t control frame = some next) : next.Sound σ t control frame := by
  cases control with
  | go => exact sound_goOn h
  | give v => exact sound_receive h
  | fail message => exact sound_unwind h

/-! ## Drops during a call that has a lock -/

/-- What a body captured is one pool at most. -/
theorem releaseCaptured_frames (σ : Session) (job : JobId) :
    (σ.releaseCaptured job).2 = [] ∨ ∃ pool, (σ.releaseCaptured job).2 = [.demolish pool] := by
  rw [releaseCaptured]
  split
  · rw [release]
    split
    · exact .inl rfl
    · dsimp only
      split
      · exact .inr ⟨_, rfl⟩
      · exact .inl rfl
  · exact .inl rfl

/-- Frames that drop bodies and pools are followed by such frames. -/
theorem silent_turn {rest : List Frame} (hs : Silent control (frame :: rest))
    (h : σ.turn t control frame = some next) : Silent next.control (next.frames ++ rest) := by
  cases hs with
  | @discard job _ hs =>
    have hnext : next.control = .go ∧
        next.frames = ((σ.emit job ["dropped"]).releaseCaptured job).2 := by
      cases h
      exact ⟨rfl, rfl⟩
    rw [hnext.1, hnext.2]
    rcases (σ.emit job ["dropped"]).releaseCaptured_frames job with hnil | ⟨pool, hpool⟩
    · rw [hnil]
      exact hs
    · rw [hpool]
      exact .demolish hs
  | demolish hs =>
    obtain ⟨τ, -, h⟩ := Option.bind_eq_some_iff.1 h
    cases h
    exact .destroying hs
  | @destroying pool pool' below hs =>
    obtain ⟨x, -, h⟩ := Option.bind_eq_some_iff.1 h
    split at h
    · obtain ⟨⟨τ, o⟩, -, h⟩ := Option.bind_eq_some_iff.1 h
      split at h
      · cases h
        exact .destroyed hs
      · next jobs _ =>
        cases h
        rw [List.append_assoc]
        exact (Silent.destroying hs).discards jobs
      · cases h
        exact .destroying hs
    · obtain ⟨⟨τ, o⟩, -, h⟩ := Option.bind_eq_some_iff.1 h
      split at h
      · cases h
        exact .destroyed hs
      · cases h
        exact .destroying hs
  | destroyed hs =>
    cases h
    exact .abandoning hs
  | abandoning hs =>
    obtain ⟨x, -, h⟩ := Option.bind_eq_some_iff.1 h
    split at h
    · obtain ⟨⟨τ, o⟩, -, h⟩ := Option.bind_eq_some_iff.1 h
      split at h
      · next jobs _ =>
        cases h
        exact hs.discards jobs
      · cases h
        exact hs
    · obtain ⟨⟨τ, o⟩, -, h⟩ := Option.bind_eq_some_iff.1 h
      cases h
      exact hs

end Session

end Threading.Scenario

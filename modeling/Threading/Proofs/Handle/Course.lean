import Threading.Proofs.Handle.Lifecycle

/-!
# The way of a closure

The closure of a handle goes one way: out of the handle, into the hands of the
thread of the handle or of the caller of an inline run (`course?`), and then it is
invoked, or goes without having run. What a step does with it is a `Deed`; what was
done with it in the life of a handle is read off the history:

* `invocations`: the closures that began, each with the thread it began on;
* `closings`: the ends of closures, each with the thread, and whether it panicked;
* `freed`: the closures that went without having run.

`Told` is the table of what can have happened to a closure, by where its thread is.
Every step leads from one line of the table to another (`Passage.told`), so a handle
and its history are always on one of them (`IsRun.told`).
-/

namespace Threading

variable {J : Type}

/-- The closure in the hands of a thread that did not begin it. -/
def Progress.job? : Progress J → Option J
  | taken job | raised job | spared job | unneeded job => some job
  | _ => none

namespace Handle

/-- Where the closure is run: the thread of the handle, or the inline run. -/
def course? (h : Handle J) : Option (Course J) := h.spawned.or h.inline

/-- The closure that was not begun: in the handle, or in the hands of its thread. -/
def closure? (h : Handle J) : Option J := h.job.or (h.course?.bind fun c => c.progress.job?)

/-! ## Histories -/

/-- What was done with a closure. -/
inductive Deed (J : Type)
  | nothing
  | began (thread : ThreadId) (job : J)
  | ended (thread : ThreadId) (panicked : Bool)
  /-- The closure went without having run. -/
  | freed (job : J)

/-- What an occurrence did with a closure. -/
def deed (o : Occurrence Action (Outcome J)) : Deed J :=
  match o.action, o.outcome with
  | .advance t, .invoked job => .began t job
  | .ended t panicked, _ => .ended t panicked
  | _, .freed job => .freed job
  | _, _ => .nothing

/-- The closures that began, each with the thread on which it did. -/
def invocations (es : History J) : List (ThreadId × J) :=
  es.filterMap fun o => match deed o with
    | .began t job => some (t, job)
    | _ => none

/-- The ends of closures, each with the thread, and whether the closure panicked. -/
def closings (es : History J) : List (ThreadId × Bool) :=
  es.filterMap fun o => match deed o with
    | .ended t panicked => some (t, panicked)
    | _ => none

/-- The closures that went without having run. -/
def freed (es : History J) : List J :=
  es.filterMap fun o => match deed o with
    | .freed job => some job
    | _ => none

section Snoc

variable (es : History J) (o : Occurrence Action (Outcome J))

theorem invocations_snoc : invocations (es ++ [o]) = invocations es ++ match deed o with
    | .began t job => [(t, job)]
    | _ => [] := by
  rw [invocations, filterMap_snoc]
  cases deed o <;> rfl

theorem closings_snoc : closings (es ++ [o]) = closings es ++ match deed o with
    | .ended t panicked => [(t, panicked)]
    | _ => [] := by
  rw [closings, filterMap_snoc]
  cases deed o <;> rfl

theorem freed_snoc : freed (es ++ [o]) = freed es ++ match deed o with
    | .freed job => [job]
    | _ => [] := by
  rw [freed, filterMap_snoc]
  cases deed o <;> rfl

theorem invocations_append (fs : History J) :
    invocations (es ++ fs) = invocations es ++ invocations fs :=
  List.filterMap_append

end Snoc

/-! ## Who runs the closure -/

/-- How the thread that runs the closure fits the other fields of a handle. -/
structure Placed (h : Handle J) : Prop where
  /-- A handle that is run inline gets no thread. -/
  inline : ∀ c, h.inline = some c → h.spawned = none ∧ h.stage = .joined ∧ h.joiner = none
  used : h.stage ≠ .idle → h.course? ≠ none
  /-- Whoever waits for a thread is another one. -/
  joiner : ∀ c, h.joiner = some c →
    h.stage = .joined ∧ ∃ t progress, h.spawned = some ⟨t, progress⟩ ∧ t ≠ c
  dropped : h.dropped = true → h.lock = .free ∧ h.joiner = none

section Step

variable {h : Handle J} {a : Action} {e : Effect (Handle J) (Outcome J)} {job : J}

theorem course?_of_spawned {c : Course J} (hs : h.spawned = some c) : h.course? = some c := by
  rw [course?, hs, Option.some_or]

theorem course?_of_inline (hs : h.spawned = none) : h.course? = h.inline := by
  rw [course?, hs, Option.none_or]

/-- The lock is free once the handle is joined. -/
theorem Ordered.lock_of_joined (ho : h.Ordered job) (hs : h.stage = .joined) : h.lock = .free := by
  cases hl : h.lock with
  | free => rfl
  | starting => simp [ho.idle_of_starting hl] at hs
  | spawned => simp [(ho.of_spawned hl).1] at hs
  | killing => simp [ho.killed_of_killing hl] at hs

/-- Nobody took the closure of an idle handle, unless a start got its thread. -/
theorem Ordered.course?_eq_none (ho : h.Ordered job) (hs : h.stage = .idle)
    (hl : ∀ c t, h.lock ≠ .spawned c t) : h.course? = none := by
  rw [course?_of_inline (ho.untouched hs hl).1, (ho.idle hs).2.1]

/-- A handle that runs has a thread, and is neither run inline nor waited for. -/
theorem Placed.of_running (hp : h.Placed) (hs : h.stage = .running) :
    h.inline = none ∧ h.joiner = none := by
  constructor
  · refine Option.eq_none_iff_forall_ne_some.2 fun c hc => ?_
    simp [(hp.inline c hc).2.1] at hs
  · refine Option.eq_none_iff_forall_ne_some.2 fun c hc => ?_
    simp [(hp.joiner c hc).1] at hs

/-- The thread of a handle, which is there, goes on. -/
theorem Placed.withSpawned (hp : h.Placed) {t : ThreadId} {old new : Progress J}
    (hs : h.spawned = some ⟨t, old⟩) {stored : Option J} {alive : Bool} :
    Placed { h with job := stored, alive, spawned := some ⟨t, new⟩ } where
  inline c hc := by simp [(hp.inline c hc).1] at hs
  used _ := Option.some_ne_none _
  joiner c hc := by
    obtain ⟨hstage, x, progress, hx, hne⟩ := hp.joiner c hc
    obtain ⟨rfl, -⟩ : t = x ∧ old = progress := by simpa [hs] using hx
    exact ⟨hstage, t, new, rfl, hne⟩
  dropped := hp.dropped

/-- The inline run of a handle, which is there, goes on. -/
theorem Placed.withInline (hp : h.Placed) {t : ThreadId} {old new : Progress J}
    (hi : h.inline = some ⟨t, old⟩) {stored : Option J} {alive : Bool} :
    Placed { h with job := stored, alive, inline := some ⟨t, new⟩ } where
  inline _ _ := hp.inline _ hi
  used _ := by simp [course?, (hp.inline _ hi).1]
  joiner := hp.joiner
  dropped := hp.dropped

/-- The last reference goes while no call is under way. -/
theorem Placed.drop (hp : h.Placed) (hu : h.isUnused = true) {stored : Option J} :
    Placed { h with job := stored, dropped := true } :=
  { hp with
    dropped := fun _ => by
      simp only [isUnused, isUnlocked, Bool.and_eq_true, beq_iff_eq, Option.isNone_iff_eq_none] at hu
      exact hu.1 }

/-- Every step keeps the thread that runs the closure in its place. -/
theorem Transition.placed (ht : Transition h a e) (ho : h.Ordered job) (hp : h.Placed) :
    e.state.Placed := by
  have referenced {c : ThreadId} (ha : h.admits c = true) (hd : h.dropped = true) : False := by
    simp [dropped_of_admits ha] at hd
  cases ht with
  | start ha => exact { hp with dropped := fun hd => (referenced ha hd).elim }
  | grant hl =>
    obtain ⟨-, hi, hj⟩ := ho.idle (ho.idle_of_starting hl)
    exact {
      inline := fun c hc => by simp [hi] at hc
      used := fun _ => Option.some_ne_none _
      joiner := fun c hc => by simp [hj] at hc
      dropped := fun hd => by simp [(hp.dropped hd).1] at hl }
  | refuse => exact { hp with dropped := fun hd => ⟨rfl, (hp.dropped hd).2⟩ }
  | started hl =>
    obtain ⟨hs, -, progress, hsp⟩ := ho.of_spawned hl
    obtain ⟨-, hi, hj⟩ := ho.idle hs
    exact {
      inline := fun c hc => by simp [hi] at hc
      used := fun _ => by simp [course?, hsp]
      joiner := fun c hc => by simp [hj] at hc
      dropped := fun hd => by simp [(hp.dropped hd).1] at hl }
  | @join c ha hs hc =>
    obtain ⟨hi, -⟩ := hp.of_running hs
    -- A handle that runs has a thread to join, which is not the caller.
    obtain ⟨t, hjoinable⟩ := Option.isSome_iff_exists.1 (ho.joinable_iff.2 (.inl hs))
    obtain ⟨progress, hsp⟩ := ho.own t hjoinable
    exact {
      inline := fun c hc => by simp [hi] at hc
      used := fun _ => by simp [course?, hsp]
      joiner := fun x hx => by
        obtain rfl := Option.some.inj hx
        refine ⟨rfl, t, progress, hsp, fun htc => ?_⟩
        simp [isCurrent, hjoinable, htc] at hc
      dropped := fun hd => (referenced ha hd).elim }
  | joined =>
    exact { hp with
      inline := fun c hc => ⟨(hp.inline c hc).1, (hp.inline c hc).2.1, rfl⟩
      joiner := fun c hc => absurd hc (Option.some_ne_none c).symm
      dropped := fun hd => ⟨(hp.dropped hd).1, rfl⟩ }
  | kill ha hs =>
    obtain ⟨hi, hj⟩ := hp.of_running hs
    exact {
      inline := fun c hc => by simp [hi] at hc
      used := fun _ => hp.used (by simp [hs])
      joiner := fun c hc => by simp [hj] at hc
      dropped := fun hd => (referenced ha hd).elim }
  | raise hl | lower hl =>
    exact { hp with dropped := fun hd => by simp [(hp.dropped hd).1] at hl }
  | detach => exact { hp with dropped := fun hd => ⟨rfl, (hp.dropped hd).2⟩ }
  | runEmpty ha hs hn => simp [ho.job_of_admits ha hs] at hn
  | run ha hs =>
    have hsp := (ho.untouched hs (by simp [lock_of_admits ha])).1
    have hj := (ho.idle hs).2.2
    exact {
      inline := fun _ _ => ⟨hsp, rfl, hj⟩
      used := fun _ => by simp [course?]
      joiner := fun c hc => by simp [hj] at hc
      dropped := fun hd => (referenced ha hd).elim }
  | advance hs | ended _ hs => exact hp.withSpawned hs
  | advanceInline _ hi | endedInline _ _ hi => exact hp.withInline hi
  | rename => exact { hp with }
  | dropWithJob hu | drop hu => exact hp.drop hu
  | _ => exact hp

/-! ## What a step does to the closure -/

/-- The action is the next step of the thread `t` outside the closure. -/
def Action.isAdvance (t : ThreadId) : Action → Bool
  | .advance x => x == t
  | _ => false

/-- How the action `a`, which does this deed, brings the closure of `h` to where it is
    in `h'`. -/
inductive Passage (h : Handle J) (a : Action) (h' : Handle J) : Deed J → Prop
  /-- The closure stays where it is. -/
  | rest :
    (∀ t, a.isAdvance t = false) → h'.course? = h.course? → h'.job = h.job → h'.dropped = h.dropped →
    Passage h a h' .nothing
  /-- The handle gets a thread. -/
  | made {t : ThreadId} :
    (∀ t, a.isAdvance t = false) → h.course? = none → h.dropped = false →
    h'.course? = some ⟨t, .created⟩ → h'.job = h.job → Passage h a h' .nothing
  /-- The caller of an inline run takes the closure. -/
  | taken {c : ThreadId} {job : J} :
    (∀ t, a.isAdvance t = false) → h.course? = none → h.job = some job →
    h'.course? = some ⟨c, .taken job⟩ → h'.job = none → Passage h a h' .nothing
  /-- The thread goes on, outside the closure. Only the thread of the handle looks for the
      switch. -/
  | goes {t : ThreadId} {progress progress' : Progress J} {outcome : Outcome J} :
    a = .advance t → h.course? = some ⟨t, progress⟩ →
    Progress.next (h.killed && h.spawned.isSome) h.job h.alive progress =
      some (h'.job, h'.alive, progress', outcome) →
    h'.course? = some ⟨t, progress'⟩ → Passage h a h' (deed ⟨a, outcome, []⟩)
  /-- The closure is over. -/
  | ended {t : ThreadId} {panicked : Bool} :
    (∀ t, a.isAdvance t = false) → h.course? = some ⟨t, .inside⟩ →
    h'.course? = some ⟨t, .ended panicked⟩ → h'.job = h.job → Passage h a h' (.ended t panicked)
  /-- The last reference goes, and the closure with it. -/
  | dropped {job : J} :
    (∀ t, a.isAdvance t = false) → (∀ c, h.course? = some c → c.progress.isOver = true) →
    h.job = some job → h'.course? = h.course? → h'.job = none → h'.dropped = true →
    Passage h a h' (.freed job)
  /-- The last reference goes. -/
  | released :
    (∀ t, a.isAdvance t = false) → (h.course? = none → h.job = none) →
    h'.course? = h.course? → h'.job = h.job → h'.dropped = true → Passage h a h' .nothing

/-- Every step is a passage of the closure. -/
theorem Transition.passage (ht : Transition h a e) (ho : h.Ordered job) (hp : h.Placed) :
    Passage h a e.state (deed (e.after a)) := by
  cases ht with
  | grant hl =>
    have hs := ho.idle_of_starting hl
    -- The start that holds the lock has a reference to the handle.
    have hd : h.dropped = false := by
      rw [← Bool.not_eq_true]
      intro hd
      simp [(hp.dropped hd).1] at hl
    exact .made (fun _ => rfl) (ho.course?_eq_none hs (by simp [hl])) hd rfl rfl
  | run ha hs hj =>
    have hc := ho.course?_eq_none hs (by simp [lock_of_admits ha])
    have hsp := (ho.untouched hs (by simp [lock_of_admits ha])).1
    exact .taken (fun _ => rfl) hc hj (course?_of_inline hsp) rfl
  | runEmpty ha hs hn => simp [ho.job_of_admits ha hs] at hn
  | advance hs hn => exact .goes rfl (course?_of_spawned hs) (by simpa [hs] using hn) rfl
  | advanceInline hs hi hn =>
    exact .goes rfl ((course?_of_inline hs).trans hi) (by simpa [hs] using hn) (by simp [course?, hs])
  | ended _ hs => exact .ended (fun _ => rfl) (course?_of_spawned hs) rfl rfl
  | endedInline _ hs hi =>
    exact .ended (fun _ => rfl) ((course?_of_inline hs).trans hi) (by simp [course?, hs]) rfl
  | dropWithJob hu _ hs hj =>
    refine .dropped (fun _ => rfl) (fun c hc => ?_) hj rfl rfl rfl
    rw [course?_of_inline hs] at hc
    simp only [isUnused, Bool.and_eq_true, Option.all_eq_true] at hu
    exact hu.2 c hc
  | drop _ _ hor =>
    refine .released (fun _ => rfl) (fun hc => ?_) rfl rfl rfl
    exact hor.resolve_left fun hne => hne (Option.or_eq_none_iff.1 hc).1
  | _ => exact .rest (fun _ => rfl) rfl rfl rfl

/-! ## The table -/

/-- What can have happened to the closure `job`: where its thread is, what the handle
    stores, whether the last reference is gone, and the invocations, ends and closures
    freed so far. -/
inductive Told (job : J) : Option (Course J) → Option J → Bool → List (ThreadId × J) →
    List (ThreadId × Bool) → List J → Prop
  | kept : Told job none (some job) false [] [] []
  | dropped : Told job none none true [] [] [job]
  | created {t : ThreadId} {d : Bool} : Told job (some ⟨t, .created⟩) (some job) d [] [] []
  | taken {t : ThreadId} {d : Bool} : Told job (some ⟨t, .taken job⟩) none d [] [] []
  | raised {t : ThreadId} {d : Bool} : Told job (some ⟨t, .raised job⟩) none d [] [] []
  | inside {t : ThreadId} {d : Bool} : Told job (some ⟨t, .inside⟩) none d [(t, job)] [] []
  | ended {t : ThreadId} {d panicked : Bool} :
    Told job (some ⟨t, .ended panicked⟩) none d [(t, job)] [(t, panicked)] []
  | lowered {t : ThreadId} {d panicked : Bool} :
    Told job (some ⟨t, .lowered panicked⟩) none d [(t, job)] [(t, panicked)] []
  | exited {t : ThreadId} {d panicked : Bool} :
    Told job (some ⟨t, .exited panicked⟩) none d [(t, job)] [(t, panicked)] []
  | spared {t : ThreadId} {d : Bool} : Told job (some ⟨t, .spared job⟩) none d [] [] []
  | unneeded {t : ThreadId} {d : Bool} : Told job (some ⟨t, .unneeded job⟩) none d [] [] []
  | loweredSpared {t : ThreadId} {d : Bool} :
    Told job (some ⟨t, .lowered false⟩) none d [] [] [job]
  | exitedSpared {t : ThreadId} {d : Bool} :
    Told job (some ⟨t, .exited false⟩) none d [] [] [job]

/-- The history of a handle for `job` tells what happened to the closure. -/
def Traced (job : J) (es : History J) (h : Handle J) : Prop :=
  Told job h.course? h.job h.dropped (invocations es) (closings es) (freed es)

section Table

variable {course : Option (Course J)} {t : ThreadId} {stored : Option J} {gone : Bool}
  {is : List (ThreadId × J)} {cs : List (ThreadId × Bool)} {fs : List J}

theorem Told.made (ht : Told job none stored false is cs fs) :
    Told job (some ⟨t, .created⟩) stored gone is cs fs := by
  cases ht
  exact .created

theorem Told.run {x : J} {gone' : Bool} (ht : Told job none (some x) gone is cs fs) :
    Told job (some ⟨t, .taken x⟩) none gone' is cs fs := by
  cases ht
  exact .taken

theorem Told.close (ht : Told job (some ⟨t, .inside⟩) stored gone is cs fs) (panicked : Bool)
    {gone' : Bool} :
    Told job (some ⟨t, .ended panicked⟩) stored gone' is (cs ++ [(t, panicked)]) fs := by
  cases ht
  exact .ended

theorem Told.drop {x : J} (ht : Told job course (some x) gone is cs fs)
    (hover : ∀ c, course = some c → c.progress.isOver = true) :
    Told job course none true is cs (fs ++ [x]) := by
  cases ht with
  | kept => exact .dropped
  | created => cases hover _ rfl

theorem Told.release (ht : Told job course stored gone is cs fs) (hnone : course = none → stored = none) :
    Told job course stored true is cs fs := by
  cases ht with
  | kept => cases hnone rfl
  | _ => constructor

/-- The table after a step of the thread that runs the closure. -/
theorem Told.next {progress progress' : Progress J} {spare alive alive' gone' : Bool}
    {stored' : Option J} {outcome : Outcome J}
    (ht : Told job (some ⟨t, progress⟩) stored gone is cs fs)
    (hn : Progress.next spare stored alive progress = some (stored', alive', progress', outcome)) :
    Told job (some ⟨t, progress'⟩) stored' gone'
      (is ++ match deed ⟨.advance t, outcome, []⟩ with
        | .began t job => [(t, job)]
        | _ => [])
      (cs ++ match deed ⟨.advance t, outcome, []⟩ with
        | .ended t panicked => [(t, panicked)]
        | _ => [])
      (fs ++ match deed ⟨.advance t, outcome, []⟩ with
        | .freed job => [job]
        | _ => []) := by
  cases ht with
  | raised =>
    -- Here the switch decides.
    cases spare with
    | false =>
      cases hn
      exact .inside
    | true =>
      cases hn
      exact .spared
  | inside | exited | exitedSpared => cases hn
  | created =>
    cases hn
    exact .taken
  | _ =>
    cases hn
    constructor

end Table

variable {es : History J} {h' : Handle J} {o : Occurrence Action (Outcome J)} {d : Deed J}

/-- A passage leads to the next line of the table. -/
theorem Passage.told (hp : Passage h a h' d) (hd : deed o = d) (ht : Traced job es h) :
    Traced job (es ++ [o]) h' := by
  rw [Traced, invocations_snoc, closings_snoc, freed_snoc, hd]
  rw [Traced] at ht
  cases hp with
  | rest _ hc hj hgone => simpa [hc, hj, hgone] using ht
  | made _ hc hgone hc' hj =>
    rw [hc, hgone] at ht
    simpa [hc', hj] using ht.made
  | taken _ hc hj hc' hj' =>
    rw [hc, hj] at ht
    simpa [hc', hj'] using ht.run
  | goes ha hc hn hc' =>
    rw [hc] at ht
    subst ha
    rw [hc']
    exact ht.next hn
  | @ended t panicked _ hc hc' hj =>
    rw [hc] at ht
    simpa [hc', hj] using ht.close panicked
  | dropped _ hover hj hc hj' hgone =>
    rw [hj] at ht
    simpa [hc, hj', hgone] using ht.drop hover
  | released _ hnone hc hj hgone => simpa [hc, hj, hgone] using ht.release hnone

end Step

/-! ## Every moment -/

section Run

variable {name : ThreadName} {job : J} {es fs : History J} {h h' : Handle J}

theorem IsRun.snoc (hr : IsRun name job es h) {a : Action} {e : Effect (Handle J) (Outcome J)}
    (he : h.step a = some e) : IsRun name job (es ++ [e.after a]) e.state :=
  Run.snoc hr he

theorem IsRun.append (hr : IsRun name job es h) (hf : Run step h fs h') :
    IsRun name job (es ++ fs) h' :=
  Run.append hr hf

theorem IsRun.placed (hr : IsRun name job es h) : h.Placed :=
  hr.invariant (fun _ v => v.Placed) ⟨nofun, fun hs => absurd rfl hs, nofun, nofun⟩
    fun _ _ _ _ hv ih he => (transition_of_step he).placed (IsRun.ordered hv) ih

theorem IsRun.passage (hr : IsRun name job es h) {a : Action} {e : Effect (Handle J) (Outcome J)}
    (he : h.step a = some e) : Passage h a e.state (deed (e.after a)) :=
  (transition_of_step he).passage hr.ordered hr.placed

/-- The history of a handle tells what happened to its closure. -/
theorem IsRun.told (hr : IsRun name job es h) : Traced job es h :=
  hr.invariant (fun fs v => Traced job fs v) .kept
    fun _ _ _ _ hv ih he => (IsRun.passage hv he).told rfl ih

end Run

end Handle

end Threading

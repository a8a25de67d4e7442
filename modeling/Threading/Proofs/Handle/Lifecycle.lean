import Threading.Proofs.Handle.Transition
import Threading.Proofs.Run

/-!
# The lifecycle of a handle

A handle begins idle, with its closure, and lives through calls of any threads,
in any order (`IsRun`). Whoever finds its lock free finds it `Settled`: an idle
handle is as it was made, a handle that runs has a thread to join, and the switch
is raised on a killed handle and on no other. There are four ways to leave a stage
(`Turn`), and none leads out of `joined` or `killed`, so only one join or kill of a
running handle takes effect (`endings`).

* `Ordered` says what holds while the lock is held, too. Every step keeps it
  (`Transition.ordered`), so it holds all the time (`IsRun.ordered`).
* `IsRun.lifecycle` puts the laws together.
-/

namespace Threading.Handle

variable {J : Type}

/-- What happened to a handle. -/
abbrev History (J : Type) := List (Occurrence Action (Outcome J))

/-- The handle was made with this name for `job`, then `es` happened, and now it
    is `h`. -/
def IsRun (name : ThreadName) (job : J) (es : History J) (h : Handle J) : Prop :=
  Run step (create name job) es h

/-- How the fields of a handle for `job` fit together while nobody holds its lock. -/
structure Settled (job : J) (h : Handle J) : Prop where
  /-- An idle handle keeps its closure while there is a reference to it. -/
  stored : h.stage = .idle → h.dropped = false → h.job = some job
  unused : h.stage = .idle → h.joinable = none ∧ h.alive = false ∧ h.killed = false
  joinable_iff : h.joinable.isSome = true ↔ h.stage = .running
  killed_iff : h.killed = true ↔ h.stage = .killed

/-- What is known of a handle because of who holds its lock. -/
def Held (h : Handle J) : Prop :=
  match h.lock with
  | .free => True
  | .starting _ => h.stage = .idle
  | .spawned c t => h.stage = .idle ∧ t ≠ c ∧ ∃ progress, h.spawned = some ⟨t, progress⟩
  | .killing _ _ => h.stage = .killed

/-- How the fields of a handle for `job` fit together at every moment. -/
structure Ordered (job : J) (h : Handle J) : Prop where
  idle : h.stage = .idle → h.joinable = none ∧ h.inline = none ∧ h.joiner = none
  /-- An idle handle did nothing, unless a start got its thread. -/
  untouched : h.stage = .idle → (∀ c t, h.lock ≠ .spawned c t) →
    h.spawned = none ∧ h.alive = false ∧ (h.dropped = false → h.job = some job)
  held : h.Held
  joinable_iff : h.joinable.isSome = true ↔ h.stage = .running ∨ ∃ c k, h.lock = .killing c k
  /-- The thread to join is that of the handle. -/
  own : ∀ t, h.joinable = some t → ∃ progress, h.spawned = some ⟨t, progress⟩
  killed_iff : h.killed = true ↔ h.stage = .killed ∧ ∀ c, h.lock ≠ .killing c .raise

theorem Ordered.settled {job : J} {h : Handle J} (ho : h.Ordered job) (hl : h.lock = .free) :
    h.Settled job where
  stored hs := (ho.untouched hs (by simp [hl])).2.2
  unused hs := by
    refine ⟨(ho.idle hs).1, (ho.untouched hs (by simp [hl])).2.1, ?_⟩
    simpa [hs] using ho.killed_iff
  joinable_iff := by simpa [hl] using ho.joinable_iff
  killed_iff := by simpa [hl] using ho.killed_iff

/-- How the stage of `h` changes, with the action that changes it. -/
inductive Turn (h : Handle J) : Action → Stage → Prop
  /-- A start is over, for which the operating system made a thread. -/
  | started {c t : ThreadId} {progress : Progress J} :
    h.stage = .idle → h.lock = .spawned c t → h.spawned = some ⟨t, progress⟩ →
    Turn h (.proceed c) .running
  /-- The closure is taken by a caller that runs it. -/
  | run {c : ThreadId} : h.stage = .idle → h.job ≠ none → Turn h (.run c) .joined
  /-- A thread other than that of the handle joins it. -/
  | joined {c t : ThreadId} {progress : Progress J} :
    h.stage = .running → h.spawned = some ⟨t, progress⟩ → t ≠ c → Turn h (.join c) .joined
  | killed {c : ThreadId} : h.stage = .running → Turn h (.kill c) .killed

/-- Nothing leads out of `joined` or `killed`. -/
theorem Turn.stage_ne {h : Handle J} {a : Action} {s : Stage} (ht : h.Turn a s) :
    h.stage ≠ .joined ∧ h.stage ≠ .killed := by
  cases ht <;> simp_all

/-- The action is a kill, or a join by another thread than that of `h`: it takes
    effect on a running handle. -/
def isEnding (h : Handle J) : Action → Bool
  | .kill _ => true
  | .join c => !h.isCurrent c
  | _ => false

/-- The stage to which a join or a kill brought the handle, if it took effect. -/
def ending? : Occurrence Action (Outcome J) → Option Stage
  | { action := .join _, outcome := .moved, .. } => some .joined
  | { action := .kill _, outcome := .moved, .. } => some .killed
  | _ => none

/-- The joins and kills that took effect, by the stage they brought about. -/
def endings (es : History J) : List Stage := es.filterMap ending?

theorem endings_snoc (es : History J) (o : Occurrence Action (Outcome J)) :
    endings (es ++ [o]) = endings es ++ (ending? o).toList :=
  filterMap_snoc ending? es o

/-! ## One step -/

section Step

variable {h : Handle J} {a : Action} {e : Effect (Handle J) (Outcome J)} {job : J}

theorem lock_of_admits {c : ThreadId} (ha : h.admits c = true) : h.lock = .free := by
  simp only [admits, isUnlocked, Bool.and_eq_true, beq_iff_eq] at ha
  exact ha.1.1.1.1

theorem dropped_of_admits {c : ThreadId} (ha : h.admits c = true) : h.dropped = false := by
  simp only [admits, Bool.and_eq_true, Bool.not_eq_true'] at ha
  exact ha.1.1.1.2

theorem lock_of_isUnused (hu : h.isUnused = true) : h.lock = .free := by
  simp only [isUnused, isUnlocked, Bool.and_eq_true, beq_iff_eq] at hu
  exact hu.1.1

/-- A call finds an idle handle as it was made. -/
theorem Ordered.job_of_admits (ho : h.Ordered job) {c : ThreadId} (ha : h.admits c = true)
    (hs : h.stage = .idle) : h.job = some job :=
  (ho.untouched hs (by simp [lock_of_admits ha])).2.2 (dropped_of_admits ha)

theorem Ordered.idle_of_starting (ho : h.Ordered job) {c : ThreadId} (hl : h.lock = .starting c) :
    h.stage = .idle := by
  simpa only [Held, hl] using ho.held

theorem Ordered.of_spawned (ho : h.Ordered job) {c t : ThreadId} (hl : h.lock = .spawned c t) :
    h.stage = .idle ∧ t ≠ c ∧ ∃ progress, h.spawned = some ⟨t, progress⟩ := by
  simpa only [Held, hl] using ho.held

theorem Ordered.killed_of_killing (ho : h.Ordered job) {c : ThreadId} {k : KillStage}
    (hl : h.lock = .killing c k) : h.stage = .killed := by
  simpa only [Held, hl] using ho.held

/-- The thread of a handle, which is there, goes on. -/
theorem Ordered.withSpawned (ho : h.Ordered job) {t : ThreadId} {old new : Progress J}
    (hs : h.spawned = some ⟨t, old⟩) {stored : Option J} {alive : Bool} :
    Ordered job { h with job := stored, alive, spawned := some ⟨t, new⟩ } := by
  have same {x : ThreadId} (hx : ∃ progress, h.spawned = some ⟨x, progress⟩) : x = t := by
    obtain ⟨progress, hx⟩ := hx
    rw [hs] at hx
    cases hx
    rfl
  have hheld := ho.held
  exact { ho with
    untouched := fun hidle hl => by
      have := (ho.untouched hidle hl).1
      rw [hs] at this
      cases this
    held := by
      unfold Held at hheld ⊢
      cases hl : h.lock with
      | spawned c x =>
        simp only [hl] at hheld ⊢
        obtain ⟨hidle, hne, hx⟩ := hheld
        exact ⟨hidle, hne, new, by rw [same hx]⟩
      | free => trivial
      | starting | killing => simpa only [hl] using hheld
    own := fun x hx => ⟨new, by rw [same (ho.own x hx)]⟩ }

/-- The inline run of a handle, which is there, goes on. -/
theorem Ordered.withInline (ho : h.Ordered job) {t : ThreadId} {old new : Progress J}
    (hi : h.inline = some ⟨t, old⟩) {stored : Option J} {alive : Bool} :
    Ordered job { h with job := stored, alive, inline := some ⟨t, new⟩ } := by
  -- The handle left `idle` when the run began.
  have hne : h.stage ≠ .idle := fun hidle => by
    have := (ho.idle hidle).2.1
    rw [hi] at this
    cases this
  exact { ho with
    idle := fun hidle => absurd hidle hne
    untouched := fun hidle => absurd hidle hne
    held := ho.held }

/-! What each call does to an ordered handle. -/

theorem Ordered.start (ho : h.Ordered job) {c : ThreadId} (ha : h.admits c = true)
    (hs : h.stage = .idle) : Ordered job { h with lock := .starting c } :=
  have hl := lock_of_admits ha
  { ho with
    untouched := fun _ _ => ho.untouched hs (by simp [hl])
    held := hs
    joinable_iff := by simpa [hl] using ho.joinable_iff
    killed_iff := by simpa [hl] using ho.killed_iff }

theorem Ordered.grant (ho : h.Ordered job) {c t : ThreadId} (hl : h.lock = .starting c)
    (hne : t ≠ c) : Ordered job { h with lock := .spawned c t, spawned := some ⟨t, .created⟩ } := by
  have hs := ho.idle_of_starting hl
  exact { ho with
    untouched := fun _ h => absurd rfl (h _ _)
    held := ⟨hs, hne, .created, rfl⟩
    joinable_iff := by simpa [hl] using ho.joinable_iff
    own := fun x hx => by
      have hjoinable : h.joinable = some x := hx
      rw [(ho.idle hs).1] at hjoinable
      cases hjoinable
    killed_iff := by simpa [hl] using ho.killed_iff }

theorem Ordered.refuse (ho : h.Ordered job) {c : ThreadId} (hl : h.lock = .starting c) :
    Ordered job { h with lock := .free } :=
  { ho with
    untouched := fun hidle _ => ho.untouched hidle (by simp [hl])
    held := trivial
    joinable_iff := by simpa [hl] using ho.joinable_iff
    killed_iff := by simpa [hl] using ho.killed_iff }

theorem Ordered.started (ho : h.Ordered job) {c t : ThreadId} (hl : h.lock = .spawned c t) :
    Ordered job { h with stage := .running, joinable := some t, lock := .free } := by
  obtain ⟨hs, -, progress, hp⟩ := ho.of_spawned hl
  exact { ho with
    idle := nofun
    untouched := nofun
    held := trivial
    joinable_iff := by simp
    own := fun x hx => by
      cases hx
      exact ⟨progress, hp⟩
    killed_iff := by simpa [hs] using ho.killed_iff }

theorem Ordered.join (ho : h.Ordered job) {c : ThreadId} (ha : h.admits c = true)
    (hs : h.stage = .running) :
    Ordered job { h with stage := .joined, joinable := none, joiner := some c } :=
  have hl := lock_of_admits ha
  { ho with
    idle := nofun
    untouched := nofun
    held := by simp [Held, hl]
    joinable_iff := by simp [hl]
    own := nofun
    killed_iff := by simpa [hs] using ho.killed_iff }

theorem Ordered.runInline (ho : h.Ordered job) {c : ThreadId} (ha : h.admits c = true)
    (hs : h.stage = .idle) {stored : Option J} {inline : Option (Course J)} :
    Ordered job { h with stage := .joined, job := stored, inline } :=
  { ho with
    idle := nofun
    untouched := nofun
    held := by simp [Held, lock_of_admits ha]
    joinable_iff := by simpa [hs] using ho.joinable_iff
    killed_iff := by simpa [hs] using ho.killed_iff }

theorem Ordered.kill (ho : h.Ordered job) (hs : h.stage = .running) {c : ThreadId} :
    Ordered job { h with stage := .killed, lock := .killing c .raise } :=
  { ho with
    idle := nofun
    untouched := nofun
    held := rfl
    joinable_iff := by simpa [hs] using ho.joinable_iff
    killed_iff := by simpa [hs] using ho.killed_iff }

theorem Ordered.raise (ho : h.Ordered job) {c : ThreadId} (hl : h.lock = .killing c .raise) :
    Ordered job { h with killed := true, lock := .killing c .lower } :=
  have hs := ho.killed_of_killing hl
  { ho with
    untouched := fun hidle => by simp [hs] at hidle
    held := hs
    joinable_iff := by simpa [hl] using ho.joinable_iff
    killed_iff := by simp [hs] }

theorem Ordered.lower (ho : h.Ordered job) {c : ThreadId} (hl : h.lock = .killing c .lower) :
    Ordered job { h with alive := false, lock := .killing c .detach } :=
  have hs := ho.killed_of_killing hl
  { ho with
    untouched := fun hidle => by simp [hs] at hidle
    held := hs
    joinable_iff := by simpa [hl] using ho.joinable_iff
    killed_iff := by simpa [hl] using ho.killed_iff }

theorem Ordered.detach (ho : h.Ordered job) {c : ThreadId} (hl : h.lock = .killing c .detach) :
    Ordered job { h with joinable := none, lock := .free } :=
  have hs := ho.killed_of_killing hl
  { ho with
    idle := fun hidle => by simp [hs] at hidle
    untouched := fun hidle => by simp [hs] at hidle
    held := trivial
    joinable_iff := by simp [hs]
    own := nofun
    killed_iff := by simpa [hl] using ho.killed_iff }

/-- Every step keeps a handle ordered. -/
theorem Transition.ordered (ht : Transition h a e) (ho : h.Ordered job) : e.state.Ordered job := by
  cases ht with
  | start ha hs => exact ho.start ha hs
  | grant hl hne => exact ho.grant hl hne
  | refuse hl => exact ho.refuse hl
  | started hl => exact ho.started hl
  | join ha hs _ => exact ho.join ha hs
  | joined => exact { ho with idle := fun hs => by simp [ho.idle hs] }
  | kill _ hs => exact ho.kill hs
  | raise hl => exact ho.raise hl
  | lower hl => exact ho.lower hl
  | detach hl => exact ho.detach hl
  | runEmpty ha hs hn => simp [ho.job_of_admits ha hs] at hn
  | run ha hs _ => exact ho.runInline ha hs
  | advance hs _ => exact ho.withSpawned hs
  | advanceInline _ hi _ => exact ho.withInline hi
  | ended _ hs => exact ho.withSpawned hs
  | endedInline _ _ hi => exact ho.withInline hi
  | rename => exact { ho with }
  | dropWithJob | drop =>
    exact { ho with
      untouched := fun hidle hl =>
        have ⟨hs, halive, _⟩ := ho.untouched hidle hl
        ⟨hs, halive, nofun⟩ }
  | _ => exact ho

/-- A step leaves the stage, or changes it in one of the four ways. -/
theorem Transition.turn (ht : Transition h a e) (ho : h.Ordered job) :
    e.state.stage = h.stage ∨ h.Turn a e.state.stage := by
  cases ht with
  | started hl =>
    obtain ⟨hs, -, progress, hp⟩ := ho.of_spawned hl
    exact .inr (.started hs hl hp)
  | join ha hs hc =>
    refine .inr ?_
    -- A handle that runs has a thread, and the caller is another one.
    obtain ⟨t, hjoinable⟩ := Option.isSome_iff_exists.1 (ho.joinable_iff.2 (.inl hs))
    obtain ⟨progress, hp⟩ := ho.own t hjoinable
    refine .joined hs hp fun htc => ?_
    rw [isCurrent, hjoinable, htc, beq_self_eq_true] at hc
    cases hc
  | kill _ hs => exact .inr (.killed hs)
  | runEmpty ha hs hn => simp [ho.job_of_admits ha hs] at hn
  | run _ hs hj => exact .inr (.run hs (hj ▸ Option.some_ne_none _))
  | _ => exact .inl rfl

/-- One of the four ways, if it is open, is taken. -/
theorem Transition.of_turn (ht : Transition h a e) (ho : h.Ordered job) {s : Stage}
    (hturn : h.Turn a s) : e.state.stage = s := by
  cases hturn with
  | started hs hl _ => cases ht <;> simp_all
  | run hs hj => cases ht <;> simp_all
  | killed hs => cases ht <;> simp_all
  | joined hs hp hne =>
    cases ht with
    | join => rfl
    | joinIgnored _ hns => exact absurd hs hns
    | joinSelf _ _ hc =>
      -- A handle that is current has the thread of the caller.
      obtain ⟨progress, hown⟩ := ho.own _ (by simpa [isCurrent] using hc)
      rw [hp] at hown
      cases hown
      exact absurd rfl hne

/-- The switch, once raised, never drops. -/
theorem Transition.killed (ht : Transition h a e) (hk : h.killed = true) :
    e.state.killed = true := by
  cases ht <;> first | exact hk | rfl

/-- Between the beginning of a start and the answer of the operating system nothing happens. -/
theorem Transition.of_starting (ht : Transition h a e) (ho : h.Ordered job) {c : ThreadId}
    (hl : h.lock = .starting c) : ∃ answer, a = .spawn c answer := by
  have hs := ho.idle_of_starting hl
  obtain ⟨hspawned, -⟩ := ho.untouched hs (by simp [hl])
  obtain ⟨-, hinline, hjoiner⟩ := ho.idle hs
  cases ht with
  | grant hl' _ | refuse hl' =>
    rw [hl] at hl'
    cases hl'
    exact ⟨_, rfl⟩
  | startIgnored ha | start ha | joinIgnored ha | joinSelf ha | join ha | killIgnored ha
  | kill ha | runIgnored ha | runEmpty ha | run ha => simp [lock_of_admits ha] at hl
  | renameIgnored hu | rename hu | dropWithJob hu | drop hu => simp [lock_of_isUnused hu] at hl
  | _ => simp_all

/-- A join or kill of a handle that runs takes effect. -/
theorem Transition.ends (ht : Transition h a e) (hs : h.stage = .running)
    (ha : h.isEnding a = true) :
    (e.state.stage = .joined ∨ e.state.stage = .killed) ∧
      ending? (e.after a) = some e.state.stage := by
  cases ht with
  | join => exact ⟨.inl rfl, rfl⟩
  | kill => exact ⟨.inr rfl, rfl⟩
  | joinSelf _ _ hc => simp [isEnding, hc] at ha
  | joinIgnored _ hne | killIgnored _ hne => exact absurd hs hne
  | _ => cases ha

/-- Nothing but a join or a kill of a handle that runs takes effect. -/
theorem Transition.ending?_eq_none (ht : Transition h a e)
    (ha : h.stage ≠ .running ∨ h.isEnding a = false) : ending? (e.after a) = none := by
  cases ht with
  | join _ hs hc => simp [hs, isEnding, hc] at ha
  | kill _ hs => simp [hs, isEnding] at ha
  | _ => rfl

/-- Nothing but a join or a kill ends a handle that runs, or takes its thread. -/
theorem Transition.runs (ht : Transition h a e) (ho : h.Ordered job) (hs : h.stage = .running)
    (ha : h.isEnding a = false) :
    e.state.stage = .running ∧ e.state.joinable = h.joinable := by
  cases ht with
  | started hl => simp [(ho.of_spawned hl).1] at hs
  | detach hl => simp [ho.killed_of_killing hl] at hs
  | join _ _ hc => simp [isEnding, hc] at ha
  | kill => cases ha
  | runEmpty _ hidle | run _ hidle => simp [hs] at hidle
  | _ => exact ⟨hs, rfl⟩

end Step

/-! ## Runs -/

section Run

variable {name : ThreadName} {job : J} {h h' : Handle J} {es fs : History J}

theorem ordered_create (name : ThreadName) (job : J) : (create name job).Ordered job where
  idle _ := ⟨rfl, rfl, rfl⟩
  untouched _ _ := ⟨rfl, rfl, fun _ => rfl⟩
  held := trivial
  joinable_iff := by simp [create]
  own := nofun
  killed_iff := by simp [create]

theorem Ordered.run (ho : h.Ordered job) (hr : Run step h fs h') : h'.Ordered job :=
  hr.invariant (fun _ v => v.Ordered job) ho fun _ _ _ _ _ hv he =>
    (transition_of_step he).ordered hv

theorem IsRun.ordered (hr : IsRun name job es h) : h.Ordered job :=
  (ordered_create name job).run hr

/-- The stages that a handle does not leave. -/
theorem Ordered.stage_of_run (ho : h.Ordered job) (hr : Run step h fs h')
    (hs : h.stage = .joined ∨ h.stage = .killed) : h'.stage = h.stage := by
  refine (hr.invariant (fun _ v => v.Ordered job ∧ v.stage = h.stage) ⟨ho, rfl⟩
    fun _ v a e _ hv he => ?_).2
  have ht := transition_of_step he
  refine ⟨ht.ordered hv.1, ?_⟩
  rcases ht.turn hv.1 with heq | hturn
  · exact heq.trans hv.2
  · obtain ⟨hj, hk⟩ := hturn.stage_ne
    rw [hv.2] at hj hk
    exact absurd hs (not_or.2 ⟨hj, hk⟩)

theorem killed_of_run (hr : Run step h fs h') (hk : h.killed = true) : h'.killed = true :=
  hr.invariant (fun _ v => v.killed = true) hk fun _ _ _ _ _ hv he =>
    (transition_of_step he).killed hv

/-- A start under way stays where it is until the operating system answers. -/
theorem Ordered.starting_of_run (ho : h.Ordered job) {c : ThreadId} (hl : h.lock = .starting c)
    (hr : Run step h fs h') (hfs : ∀ o ∈ fs, ∀ x answer, o.action ≠ .spawn x answer) : h' = h := by
  refine hr.invariant_of_forall (P := fun a => ∀ x answer, a ≠ .spawn x answer) hfs (· = h) rfl ?_
  rintro gs v a e - rfl hother he
  obtain ⟨answer, ha⟩ := (transition_of_step he).of_starting ho hl
  exact absurd ha (hother c answer)

/-- A start that the operating system refuses leaves the handle as it was. -/
theorem Ordered.refused (ho : h.Ordered job) (hs : h.stage = .idle) {c d : ThreadId}
    {e f : Effect (Handle J) (Outcome J)} {refusal : Refusal} (he : h.step (.start c) = some e)
    (hr : Run step e.state fs h') (hfs : ∀ o ∈ fs, ∀ x answer, o.action ≠ .spawn x answer)
    (hf : h'.step (.spawn d (.error refusal)) = some f) :
    d = c ∧ f.state = h ∧ f.outcome = .returned (.error (.spawn h.name.text refusal)) := by
  have ht := transition_of_step he
  cases ht with
  | startIgnored _ hne => exact absurd hs hne
  | start ha _ =>
    have hstarting := (transition_of_step he).ordered ho
    obtain rfl := hstarting.starting_of_run rfl hr hfs
    have hl := lock_of_admits ha
    cases transition_of_step hf with
    | refuse hd =>
      cases hd
      exact ⟨rfl, by cases h; cases hl; rfl, rfl⟩

/-- A handle that ran is still running, or exactly one join or kill took effect. -/
theorem Ordered.contest (ho : h.Ordered job) (hs : h.stage = .running) (hr : Run step h fs h') :
    (h'.stage = .running ∧ h'.joinable = h.joinable ∧ endings fs = [] ∧
      ∀ o ∈ fs, h.isEnding o.action = false) ∨
    ((h'.stage = .joined ∨ h'.stage = .killed) ∧ endings fs = [h'.stage]) := by
  refine hr.invariant (fun gs v =>
    (v.stage = .running ∧ v.joinable = h.joinable ∧ endings gs = [] ∧
      ∀ o ∈ gs, h.isEnding o.action = false) ∨
    ((v.stage = .joined ∨ v.stage = .killed) ∧ endings gs = [v.stage]))
    (.inl ⟨hs, rfl, rfl, nofun⟩) fun gs v a e hgs hv he => ?_
  have hov := ho.run hgs
  have ht := transition_of_step he
  rw [endings_snoc]
  obtain ⟨hrunning, hjoinable, hnone, hall⟩ | ⟨hended, hone⟩ := hv
  · -- While the handle runs, the thread that cannot join it is the same.
    have hsame : v.isEnding a = h.isEnding a := by
      cases a <;> simp [isEnding, isCurrent, hjoinable]
    rw [hnone]
    cases ha : v.isEnding a with
    | true =>
      obtain ⟨hstage, hending⟩ := ht.ends hrunning ha
      exact .inr ⟨hstage, by rw [hending]; rfl⟩
    | false =>
      obtain ⟨hstage, hkeep⟩ := ht.runs hov hrunning ha
      refine .inl ⟨hstage, hkeep.trans hjoinable, by rw [ht.ending?_eq_none (.inr ha)]; rfl, ?_⟩
      intro o ho
      rcases List.mem_append.1 ho with ho | ho
      · exact hall o ho
      · obtain rfl := List.mem_singleton.1 ho
        exact hsame ▸ ha
  · -- Afterwards nothing takes effect, and the stage stays.
    have hkeep : e.state.stage = v.stage := hov.stage_of_run (.snoc .nil he) hended
    have hne : v.stage ≠ .running := by rcases hended with h | h <;> simp [h]
    rw [ht.ending?_eq_none (.inl hne), hkeep, hone]
    exact .inr ⟨hended, rfl⟩

/-- The lifecycle of a handle. Whoever finds the lock free finds the handle settled;
    the stage changes in the four ways, and in no other; a raised switch stays raised,
    and a handle that was joined or killed stays so; a start that the operating system
    refuses leaves the handle as it was; and of the joins and kills of a running
    handle, the joins by its own thread aside, exactly one takes effect. -/
theorem IsRun.lifecycle (hr : IsRun name job es h) :
    (h.isUnlocked = true → h.Settled job) ∧
    (∀ a e, h.step a = some e → h.Turn a e.state.stage ∨
      e.state.stage = h.stage ∧ ∀ s, ¬h.Turn a s) ∧
    (∀ fs h', Run step h fs h' → (h.killed = true → h'.killed = true) ∧
      (h.stage = .joined ∨ h.stage = .killed → h'.stage = h.stage)) ∧
    (∀ c d e fs h' refusal f, h.stage = .idle → h.step (.start c) = some e →
      Run step e.state fs h' → (∀ o ∈ fs, ∀ x answer, o.action ≠ .spawn x answer) →
      h'.step (.spawn d (.error refusal)) = some f →
      d = c ∧ f.state = h ∧ f.outcome = .returned (.error (.spawn h.name.text refusal))) ∧
    (∀ fs h', Run step h fs h' → h.stage = .running → (∃ o ∈ fs, h.isEnding o.action = true) →
      (h'.stage = .joined ∨ h'.stage = .killed) ∧ endings fs = [h'.stage]) := by
  have ho := hr.ordered
  refine ⟨fun hl => ho.settled (by simpa [isUnlocked] using hl), fun a e he => ?_,
    fun fs h' hrun => ⟨killed_of_run hrun, ho.stage_of_run hrun⟩,
    fun c d e fs h' refusal f hs he hrun hfs hf => ho.refused hs he hrun hfs hf,
    fun fs h' hrun hs hend => ?_⟩
  · have ht := transition_of_step he
    by_cases hopen : ∃ s, h.Turn a s
    · obtain ⟨s, hturn⟩ := hopen
      exact .inl (ht.of_turn ho hturn ▸ hturn)
    · have hclosed : ∀ s, ¬h.Turn a s := not_exists.1 hopen
      exact .inr ⟨(ht.turn ho).resolve_right (hclosed _), hclosed⟩
  · rcases ho.contest hs hrun with ⟨-, -, -, hall⟩ | hended
    · obtain ⟨o, hmem, ha⟩ := hend
      simp [hall o hmem] at ha
    · exact hended

/-- A handle whose first start was refused is started by the second one, and its closure
    begins. The threads `2` and `3` kill and join it, and the kill comes first. -/
theorem lifecycle_of_racing_kill_and_join :
    ∃ (es fs : History Nat) (h h' : Handle Nat), IsRun (.ofString "racer") 10 es h ∧
      Run step h fs h' ∧ h.Settled 10 ∧ h.stage = .running ∧
      (fs.countP fun o => h.isEnding o.action) = 2 ∧ h'.stage = .killed ∧
      endings fs = [.killed] := by
  obtain ⟨es, h, hplayed, hf⟩ := exists_run step (create (.ofString "racer") 10)
    [.start 1, .spawn 1 (.error (.system 11)), .start 1, .spawn 1 (.ok 5), .advance 5, .proceed 1,
      .advance 5, .advance 5]
    (fun _ h => (h.isUnlocked, h.stage,
      (play step h [.kill 2, .proceed 2, .proceed 2, .proceed 2, .join 3]).map fun x =>
        (x.1.countP fun o => h.isEnding o.action, x.2.stage)))
    (true, .running, some (2, .killed)) (by decide)
  simp only [Prod.mk.injEq] at hf
  obtain ⟨hl, hs, hf⟩ := hf
  obtain ⟨⟨fs, h'⟩, hplay, hf⟩ := Option.map_eq_some_iff.1 hf
  simp only [Prod.mk.injEq] at hf
  have hrun := run_of_play hplay
  have hr : IsRun (.ofString "racer") 10 es h := hplayed
  obtain ⟨o, ho, ha⟩ := List.countP_pos_iff.1 (Nat.lt_of_lt_of_eq (Nat.succ_pos 1) hf.1.symm)
  obtain ⟨hsettled, -, -, -, hrace⟩ := hr.lifecycle
  refine ⟨es, fs, h, h', hr, hrun, hsettled hl, hs, hf.1, hf.2, ?_⟩
  rw [(hrace fs h' hrun hs ⟨o, ho, ha⟩).2, hf.2]

end Run

end Threading.Handle

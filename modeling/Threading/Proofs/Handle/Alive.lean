import Threading.Proofs.Handle.Closure

/-!
# The alive flag

The thread that runs the closure raises the alive flag, looks for the switch, and
lowers the flag when the closure is over, or will not run: in between it is *lit*
(`Progress.isLit`). A kill lowers the flag, too, without waiting for the thread.

* Until a kill lowered the flag (`Dimmed`), it is up exactly while the thread is lit;
  from then on it is up only if the thread raised it in vain, and does not run the
  closure (`Lit`). Every step keeps this (`Transition.lit`).
* So a kill leaves no flag up for ever: the thread that raises it after the kill finds
  the switch raised, and lowers it again (`IsRun.alive_goes_with_closure`).

The laws are about steps that take effect in the order in which they are taken: the flag
and the switch are sequentially consistent here. The program only asks for release and
acquire, so the flag that a thread raised may show after the thread has looked for the
switch, and also after a kill lowered it. The laws do not speak of such orders.
-/

namespace Threading

variable {J : Type}

namespace Progress

/-- The thread raised the alive flag, and did not lower it since. -/
def isLit : Progress J → Bool
  | raised _ | inside | spared _ | ended _ => true
  | _ => false

/-- The thread raised the alive flag, and does not run the closure. -/
def isLitInVain : Progress J → Bool
  | raised _ | spared _ => true
  | _ => false

/-- The thread will not raise the alive flag again. -/
def isPast : Progress J → Bool
  | inside | unneeded _ | ended _ | lowered _ | exited _ => true
  | _ => false

end Progress

namespace Handle

/-- A kill lowered the alive flag. -/
def Dimmed (h : Handle J) : Prop :=
  h.stage = .killed ∧ ∀ c, h.lock ≠ .killing c .raise ∧ h.lock ≠ .killing c .lower

/-- How the alive flag goes with the thread that runs the closure. -/
structure Lit (h : Handle J) : Prop where
  lit : ¬h.Dimmed → h.alive = h.course?.any fun c => c.progress.isLit
  dimmed : h.Dimmed → h.alive = true → h.course?.any (fun c => c.progress.isLitInVain) = true

section Step

variable {h h' : Handle J} {a : Action} {e : Effect (Handle J) (Outcome J)} {job : J} {d : Deed J}

theorem not_dimmed_of_stage (hs : h.stage ≠ .killed) : ¬h.Dimmed := fun hd => hs hd.1

theorem dimmed_of_isUnlocked (hs : h.stage = .killed) (hl : h.isUnlocked = true) : h.Dimmed := by
  have hfree : h.lock = .free := by simpa [isUnlocked] using hl
  exact ⟨hs, by simp [hfree]⟩

theorem Lit.of_stage (hs : h.stage ≠ .killed)
    (ha : h.alive = h.course?.any fun c => c.progress.isLit) : h.Lit :=
  ⟨fun _ => ha, fun hd => absurd hd.1 hs⟩

/-- A thread that raised the flag and does not run the closure has it in its hands. -/
theorem Told.of_isLitInVain {t : ThreadId} {progress : Progress J} {stored : Option J} {gone : Bool}
    {is : List (ThreadId × J)} {cs : List (ThreadId × Bool)} {fs : List J}
    (ht : Told job (some ⟨t, progress⟩) stored gone is cs fs) (hv : progress.isLitInVain = true) :
    progress = .raised job ∨ progress = .spared job ∧ is = [] := by
  cases ht with
  | raised => exact .inl rfl
  | spared => exact .inr ⟨rfl, rfl⟩
  | _ => cases hv

/-- The alive flag before and after a step of the thread outside the closure. -/
theorem isLit_of_next {spare alive alive' : Bool} {stored stored' : Option J}
    {progress progress' : Progress J} {outcome : Outcome J}
    (hn : Progress.next spare stored alive progress = some (stored', alive', progress', outcome)) :
    (alive = progress.isLit → alive' = progress'.isLit) ∧
    (spare = true → (alive = true → progress.isLitInVain = true) →
      alive' = true → progress'.isLitInVain = true) := by
  cases progress with
  | created => cases stored <;> cases hn <;> simp_all [Progress.isLit, Progress.isLitInVain]
  | raised => cases spare <;> cases hn <;> simp_all [Progress.isLit, Progress.isLitInVain]
  | inside | exited => cases hn
  | _ =>
    cases hn
    simp_all [Progress.isLit, Progress.isLitInVain]

theorem isPast_of_next {spare alive alive' : Bool} {stored stored' : Option J}
    {progress progress' : Progress J} {outcome : Outcome J}
    (hn : Progress.next spare stored alive progress = some (stored', alive', progress', outcome))
    (hpast : progress.isPast = true) : progress'.isPast = true := by
  cases progress with
  | created | taken | raised | spared => cases hpast
  | inside | exited => cases hn
  | _ =>
    cases hn
    rfl

/-- Every step keeps the alive flag going with the thread. -/
theorem Transition.lit (ht : Transition h a e) (ho : h.Ordered job) (hp : h.Placed) (hl : h.Lit) :
    e.state.Lit := by
  cases ht with
  | start _ hs => exact .of_stage (by simp [hs]) (hl.lit (not_dimmed_of_stage (by simp [hs])))
  | grant hstarting =>
    have hs := ho.idle_of_starting hstarting
    exact .of_stage (by simp [hs]) (ho.untouched hs (by simp [hstarting])).2.1
  | refuse hstarting =>
    have hs := ho.idle_of_starting hstarting
    exact .of_stage (by simp [hs]) (hl.lit (not_dimmed_of_stage (by simp [hs])))
  | started hspawned =>
    have hs := (ho.of_spawned hspawned).1
    exact .of_stage nofun (hl.lit (not_dimmed_of_stage (by simp [hs])))
  | join _ hs => exact .of_stage nofun (hl.lit (not_dimmed_of_stage (by simp [hs])))
  | joined => exact ⟨hl.lit, hl.dimmed⟩
  | kill _ hs =>
    exact ⟨fun _ => hl.lit (not_dimmed_of_stage (by simp [hs])),
      fun hd => absurd rfl (hd.2 _).1⟩
  | raise hraise =>
    exact ⟨fun _ => hl.lit fun hd => absurd hraise (hd.2 _).1, fun hd => absurd rfl (hd.2 _).2⟩
  | @lower c hlower =>
    have hd : Dimmed { h with alive := false, lock := .killing c .detach } :=
      ⟨ho.killed_of_killing hlower, fun _ => ⟨nofun, nofun⟩⟩
    exact ⟨fun hn => absurd hd hn, nofun⟩
  | detach hdetach =>
    have hs := ho.killed_of_killing hdetach
    have hd : Dimmed { h with joinable := none, lock := .free } := ⟨hs, fun _ => ⟨nofun, nofun⟩⟩
    exact ⟨fun hn => absurd hd hn, fun _ => hl.dimmed ⟨hs, by simp [hdetach]⟩⟩
  | runEmpty ha hs hn => simp [ho.job_of_admits ha hs] at hn
  | run ha hs =>
    obtain ⟨hsp, halive, -⟩ := ho.untouched hs (by simp [lock_of_admits ha])
    exact .of_stage nofun (by simp [course?, hsp, halive, Progress.isLit])
  | advance hs hn =>
    have hc := course?_of_spawned hs
    refine ⟨fun hd => (isLit_of_next hn).1 ?_, fun hd => ?_⟩
    · rw [hl.lit hd, hc, Option.any_some]
    · -- A kill that lowered the flag raised the switch before.
      have hk : h.killed = true := ho.killed_iff.2 ⟨hd.1, fun c => (hd.2 c).1⟩
      refine (isLit_of_next hn).2 hk fun halive => ?_
      rw [← hl.dimmed hd halive, hc, Option.any_some]
  | advanceInline hs hi hn =>
    have hc := (course?_of_inline hs).trans hi
    have hne : h.stage ≠ .killed := by simp [(hp.inline _ hi).2.1]
    refine .of_stage hne (((isLit_of_next hn).1 ?_).trans ?_)
    · rw [hl.lit (not_dimmed_of_stage hne), hc, Option.any_some]
    · simp [course?, hs]
  | ended _ hs =>
    have hc := course?_of_spawned hs
    refine ⟨fun hd => ?_, fun hd halive => ?_⟩
    · exact (hl.lit hd).trans (by rw [hc]; rfl)
    · have := hl.dimmed hd halive
      rw [hc] at this
      cases this
  | endedInline _ hs hi =>
    have hc := (course?_of_inline hs).trans hi
    have hne : h.stage ≠ .killed := by simp [(hp.inline _ hi).2.1]
    refine .of_stage hne ((hl.lit (not_dimmed_of_stage hne)).trans ?_)
    rw [hc]
    simp [course?, hs, Progress.isLit]
  | rename | drop | dropWithJob => exact ⟨hl.lit, hl.dimmed⟩
  | _ => exact hl

/-- What a kill did stays done. -/
theorem Transition.dimmed (ht : Transition h a e) (ho : h.Ordered job) (hd : h.Dimmed) :
    e.state.Dimmed := by
  obtain ⟨hs, hl⟩ := hd
  cases ht with
  | start _ hidle | run _ hidle | runEmpty _ hidle => simp [hs] at hidle
  | grant hstarting => simp [ho.idle_of_starting hstarting] at hs
  | started hspawned => simp [(ho.of_spawned hspawned).1] at hs
  | join _ hrunning | kill _ hrunning => simp [hs] at hrunning
  | raise hraise => exact absurd hraise (hl _).1
  | lower hlower => exact absurd hlower (hl _).2
  | refuse | detach => exact ⟨hs, fun _ => ⟨nofun, nofun⟩⟩
  | _ => exact ⟨hs, hl⟩

/-- A thread that will not raise the alive flag again never does. -/
theorem Passage.past (hp : Passage h a h' d) {c : Course J} (hc : h.course? = some c)
    (hpast : c.progress.isPast = true) :
    ∃ c', h'.course? = some c' ∧ c'.progress.isPast = true := by
  cases hp with
  | made _ hn | taken _ hn => simp [hn] at hc
  | rest _ hsame | dropped _ _ _ hsame | released _ _ hsame => exact ⟨c, hsame.trans hc, hpast⟩
  | ended _ _ hnew => exact ⟨_, hnew, rfl⟩
  | goes _ hold hn hnew =>
    refine ⟨_, hnew, ?_⟩
    obtain rfl : c = _ := by simpa [hc] using hold
    exact isPast_of_next hn hpast

end Step

/-! ## Every moment -/

section Run

variable {name : ThreadName} {job : J} {es fs : History J} {h h' : Handle J}

theorem IsRun.lit (hr : IsRun name job es h) : h.Lit :=
  hr.invariant (fun _ v => v.Lit) ⟨fun _ => rfl, nofun⟩ fun _ _ _ _ hv ih he =>
    (transition_of_step he).lit (IsRun.ordered hv) (IsRun.placed hv) ih

theorem IsRun.past_of_run (hr : IsRun name job es h) {c : Course J} (hc : h.course? = some c)
    (hpast : c.progress.isPast = true) (hf : Run step h fs h') :
    ∃ c', h'.course? = some c' ∧ c'.progress.isPast = true :=
  hf.invariant (fun _ v => ∃ c', v.course? = some c' ∧ c'.progress.isPast = true) ⟨c, hc, hpast⟩
    fun _ _ _ _ hv ⟨_, hc', hpast'⟩ he => ((hr.append hv).passage he).past hc' hpast'

theorem IsRun.dimmed_of_run (hr : IsRun name job es h) (hd : h.Dimmed) (hf : Run step h fs h') :
    h'.Dimmed :=
  hf.invariant (fun _ v => v.Dimmed) hd fun _ _ _ _ hv ih he =>
    (transition_of_step he).dimmed (hr.append hv).ordered ih

/-- The alive flag is down for good once a kill lowered it and the thread is past raising it. -/
theorem IsRun.alive_of_past (hr : IsRun name job es h) (hd : h.Dimmed) {c : Course J}
    (hc : h.course? = some c) (hpast : c.progress.isPast = true) : h.alive = false := by
  rw [← Bool.not_eq_true]
  intro halive
  have hvain := hr.lit.dimmed hd halive
  rw [hc, Option.any_some] at hvain
  cases hp : c.progress <;> simp_all [Progress.isPast, Progress.isLitInVain]

/-- Whose alive flag is up after a kill: that of a thread which the kill forestalled. -/
theorem IsRun.of_alive_dimmed (hr : IsRun name job es h) (hd : h.Dimmed) (ha : h.alive = true) :
    (∃ t, h.spawned = some ⟨t, .raised job⟩ ∨ h.spawned = some ⟨t, .spared job⟩) ∧
      Forestalled name job es h := by
  obtain ⟨⟨t, progress⟩, hc, hvain⟩ := (Option.any_eq_true _ _).1 (hr.lit.dimmed hd ha)
  have hk : h.killed = true := hr.ordered.killed_iff.2 ⟨hd.1, fun c => (hd.2 c).1⟩
  have hs : h.spawned = some ⟨t, progress⟩ := by
    rcases hr.placed.of_course? hc with ⟨hs, -⟩ | ⟨-, hi⟩
    · exact hs
    · have hstage := hd.1
      simp [(hr.placed.inline _ hi).2.1] at hstage
  have ht := hr.told
  rw [Traced, hc] at ht
  rcases ht.of_isLitInVain hvain with rfl | ⟨rfl, hi⟩
  · exact ⟨⟨t, .inl hs⟩, es, [], h, _, (List.append_nil es).symm, hr, .nil, hk, hs, rfl⟩
  · exact ⟨⟨t, .inr hs⟩, hr.forestalled hc rfl hi⟩

/-- When the alive flag is up. -/
structure AliveWithClosure (name : ThreadName) (job : J) (es : History J) (h : Handle J) : Prop where
  /-- There is one thread at most that runs the closure. -/
  one : h.spawned = none ∨ h.inline = none
  /-- Until a kill takes effect, the flag is up from when that thread raises it until the thread
      lowers it, -/
  lit : h.stage ≠ .killed → (h.alive = true ↔ ∃ c, h.course? = some c ∧ c.progress.isLit = true)
  /-- so also from when the closure is invoked until it is over. -/
  inside : h.stage ≠ .killed → invocations es ≠ [] → closings es = [] → h.alive = true
  /-- After a kill the flag can be up only because of a thread that the kill forestalled, which
      raised it and did not lower it yet; the closure is never invoked then. -/
  in_vain : h.stage = .killed → h.isUnlocked = true → h.alive = true →
    (∃ t, h.spawned = some ⟨t, .raised job⟩ ∨ h.spawned = some ⟨t, .spared job⟩) ∧
    Forestalled name job es h ∧ ∀ fs h', Run step h fs h' → invocations (es ++ fs) = []
  /-- It is down for ever if the thread is inside the closure by then, or gone. -/
  down : h.stage = .killed → h.isUnlocked = true → ∀ c, h.spawned = some c →
    c.progress.isInside = true ∨ c.progress.isOver = true →
    ∀ fs h', Run step h fs h' → h'.alive = false

/-- The alive flag is up while the closure runs, if no kill takes effect. -/
theorem IsRun.alive_inside (hr : IsRun name job es h) (hs : h.stage ≠ .killed)
    (hi : invocations es ≠ []) (hopen : closings es = []) : h.alive = true := by
  -- A closure that began and is not over is running.
  obtain ⟨⟨t, x⟩, hmem⟩ := List.exists_mem_of_ne_nil _ hi
  obtain ⟨-, progress, hc⟩ := hr.told.of_invoked hmem
  have ht := hr.told
  rw [Traced, hc] at ht
  rw [hr.lit.lit (not_dimmed_of_stage hs), hc, ht.of_open hi hopen]
  rfl

/-- The alive flag goes with the closure: with the thread that runs it, until a kill takes effect;
    and a kill leaves the flag down, unless it forestalled a thread that is about to lower it. -/
theorem IsRun.alive_goes_with_closure (hr : IsRun name job es h) :
    AliveWithClosure name job es h where
  one := by
    cases hi : h.inline with
    | none => exact .inr rfl
    | some c => exact .inl (hr.placed.inline c hi).1
  lit hs := by rw [hr.lit.lit (not_dimmed_of_stage hs), Option.any_eq_true]
  inside hs hi hopen := hr.alive_inside hs hi hopen
  in_vain hs hl halive := by
    obtain ⟨hthread, hforestalled⟩ := hr.of_alive_dimmed (dimmed_of_isUnlocked hs hl) halive
    exact ⟨hthread, hforestalled, fun fs h' hf => (hforestalled.append hf).never_invoked.2.2⟩
  down hs hl c hc hor fs h' hf := by
    -- From inside the closure on, the thread does not raise the flag.
    have hpast : c.progress.isPast = true := by
      rcases hor with hin | hover <;> cases hp : c.progress <;>
        simp_all [Progress.isInside, Progress.isOver, Progress.isPast]
    obtain ⟨c', hc', hpast'⟩ := hr.past_of_run (course?_of_spawned hc) hpast hf
    have hd := hr.dimmed_of_run (dimmed_of_isUnlocked hs hl) hf
    exact (hr.append hf).alive_of_past hd hc' hpast'

/-- The first handle is killed before its thread raises the flag, which is up after the kill; its
    closure is never invoked. The second one is killed inside the closure, and its flag is down for
    ever. The third one is run inline, and its flag is up inside the closure. -/
theorem alive_after_two_kills :
    ∃ (es fs gs : History Nat) (h h' h'' : Handle Nat),
      (IsRun (.ofString "early") 10 es h ∧ h.alive = true ∧
        Forestalled (.ofString "early") 10 es h) ∧
      (IsRun (.ofString "late") 11 fs h' ∧ h'.spawned = some ⟨5, .inside⟩ ∧
        ∀ fs' v, Run step h' fs' v → v.alive = false) ∧
      (IsRun (.ofString "inline") 12 gs h'' ∧ h''.inline = some ⟨1, .inside⟩ ∧
        h''.alive = true) := by
  obtain ⟨es, h, hrun, hf⟩ := exists_run step (create (.ofString "early") 10)
    [.start 1, .spawn 1 (.ok 5), .proceed 1, .advance 5, .kill 1, .proceed 1, .proceed 1, .proceed 1,
      .advance 5]
    (fun _ h => (h.stage, h.isUnlocked, h.alive)) (.killed, true, true) (by decide)
  obtain ⟨fs, h', hrun', hf'⟩ := exists_run step (create (.ofString "late") 11)
    [.start 1, .spawn 1 (.ok 5), .proceed 1, .advance 5, .advance 5, .advance 5, .kill 1, .proceed 1,
      .proceed 1, .proceed 1]
    (fun _ h => (h.stage, h.isUnlocked, h.spawned)) (.killed, true, some ⟨5, .inside⟩) (by decide)
  obtain ⟨gs, h'', hrun'', hf''⟩ := exists_run step (create (.ofString "inline") 12)
    [.run 1, .advance 1, .advance 1]
    (fun _ h => (h.stage, h.spawned, h.inline)) (.joined, none, some ⟨1, .inside⟩) (by decide)
  simp only [Prod.mk.injEq] at hf hf' hf''
  have hr : IsRun (.ofString "early") 10 es h := hrun
  have hr' : IsRun (.ofString "late") 11 fs h' := hrun'
  have hr'' : IsRun (.ofString "inline") 12 gs h'' := hrun''
  have hc : h''.course? = some ⟨1, .inside⟩ := (course?_of_inline hf''.2.1).trans hf''.2.2
  exact ⟨es, fs, gs, h, h', h'',
    ⟨hr, hf.2.2, (hr.alive_goes_with_closure.in_vain hf.1 hf.2.1 hf.2.2).2.1⟩,
    ⟨hr', hf'.2.2, hr'.alive_goes_with_closure.down hf'.1 hf'.2.1 _ hf'.2.2 (.inl rfl)⟩,
    ⟨hr'', hf''.2.2, (hr''.alive_goes_with_closure.lit (by simp [hf''.1])).2 ⟨_, hc, rfl⟩⟩⟩

end Run

end Handle

end Threading

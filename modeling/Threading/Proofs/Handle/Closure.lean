import Threading.Proofs.Handle.Course

/-!
# The closure is used once

The closure of a handle is kept, then invoked or freed, once; it is never lost. On
its way a thread is early until it looked for the switch (`Progress.isEarly`), which
takes it as many steps as it has ahead (`Progress.ahead`). Looking for the switch and
beginning the closure are one step, since nothing that others can see lies between. A
kill that raises the switch before that has forestalled the closure (`Forestalled`): it
is never invoked.

* `IsRun.forestalled`, `Forestalled.never_invoked`: the closure is in vain in the hands
  of a thread exactly if it was forestalled.
* `IsRun.ahead_of_run`: only the thread itself shortens the way that is ahead of it.
* `IsRun.closure_used_once` puts the laws together.
-/

namespace Threading

variable {J : Type}

namespace Progress

/-- The thread did not look for the switch yet. -/
def isEarly : Progress J → Bool
  | created | taken _ | raised _ => true
  | _ => false

/-- The steps that the thread has ahead of it until it looked for the switch. -/
def ahead : Progress J → Nat
  | created => 3
  | taken _ => 2
  | raised _ => 1
  | _ => 0

theorem isEarly_eq_false_iff {progress : Progress J} :
    progress.isEarly = false ↔ progress.ahead = 0 := by
  cases progress <;> simp [isEarly, ahead]

end Progress

namespace Handle

/-- The steps that the thread `t` took outside the closure. -/
def advances (t : ThreadId) (es : History J) : Nat := es.countP fun o => o.action.isAdvance t

theorem advances_snoc (t : ThreadId) (es : History J) (o : Occurrence Action (Outcome J)) :
    advances t (es ++ [o]) = advances t es + (o.action.isAdvance t).toNat := by
  rw [advances, List.countP_append, List.countP_singleton, advances]
  cases o.action.isAdvance t <;> rfl

/-- The action makes a thread for the closure, takes it to run it inline, or lets go of
    the handle. -/
def Action.isTaking : Action → Bool
  | .spawn _ (.ok _) | .run _ | .drop => true
  | _ => false

/-- A kill raised the switch before the thread of the handle looked for it: the run came
    past a moment at which the switch was raised, and the thread was early. -/
def Forestalled (name : ThreadName) (job : J) (es : History J) (h : Handle J) : Prop :=
  ∃ fs gs v c, es = fs ++ gs ∧ IsRun name job fs v ∧ Run step v gs h ∧
    v.killed = true ∧ v.spawned = some c ∧ c.progress.isEarly = true

/-! ## What the table says -/

section Table

variable {job : J} {course : Option (Course J)} {stored : Option J} {gone : Bool}
  {is : List (ThreadId × J)} {cs : List (ThreadId × Bool)} {fs : List J} {t : ThreadId}
  {progress : Progress J}

/-- The closure is kept, was invoked, or was freed. -/
theorem Told.once (ht : Told job course stored gone is cs fs) :
    (stored.or (course.bind fun c => c.progress.job?)).toList ++ is.map Prod.snd ++ fs = [job] := by
  cases ht <;> rfl

/-- Without a thread, the closure goes with the last reference. -/
theorem Told.of_none (ht : Told job none stored gone is cs fs) :
    stored = (if gone then none else some job) ∧ fs = if gone then [job] else [] := by
  cases ht <;> exact ⟨rfl, rfl⟩

/-- The closure was invoked on the thread that runs it. -/
theorem Told.of_invoked (ht : Told job course stored gone is cs fs) {x : J} (hi : (t, x) ∈ is) :
    x = job ∧ ∃ progress, course = some ⟨t, progress⟩ := by
  cases ht with
  | inside | ended | lowered | exited =>
    obtain ⟨rfl, rfl⟩ : t = _ ∧ x = _ := by simpa using hi
    exact ⟨rfl, _, rfl⟩
  | _ => cases hi

/-- The closure did not begin on a thread that is early. -/
theorem Told.of_isEarly (ht : Told job (some ⟨t, progress⟩) stored gone is cs fs)
    (he : progress.isEarly = true) : is = [] ∧ cs = [] ∧ fs = [] := by
  cases ht with
  | created | taken | raised => exact ⟨rfl, rfl, rfl⟩
  | _ => cases he

/-- The closure began, unless it is in vain in the hands of the thread. -/
theorem Told.of_not_isEarly (ht : Told job (some ⟨t, progress⟩) stored gone is cs fs)
    (he : progress.isEarly = false) : is = [] ∨ is = [(t, job)] ∧ fs = [] := by
  cases ht with
  | inside | ended | lowered | exited => exact .inr ⟨rfl, rfl⟩
  | _ => exact .inl rfl

/-- A thread that is gone left the closure behind. -/
theorem Told.of_isOver (ht : Told job (some ⟨t, progress⟩) stored gone is cs fs)
    (ho : progress.isOver = true) : is = [(t, job)] ∧ fs = [] ∨ is = [] ∧ fs = [job] := by
  cases ht with
  | exited => exact .inl ⟨rfl, rfl⟩
  | exitedSpared => exact .inr ⟨rfl, rfl⟩
  | _ => cases ho

/-- A thread that is gone ran the closure to its end, or did not begin it. -/
theorem Told.of_exited {panicked : Bool}
    (ht : Told job (some ⟨t, .exited panicked⟩) stored gone is cs fs) :
    cs = [(t, panicked)] ∨ is = [] := by
  cases ht with
  | exited => exact .inl rfl
  | exitedSpared => exact .inr rfl

/-- A closure that began and is not over is running. -/
theorem Told.of_open (ht : Told job (some ⟨t, progress⟩) stored gone is cs fs) (hi : is ≠ [])
    (hc : cs = []) : progress = .inside := by
  cases ht with
  | inside => rfl
  | ended | lowered | exited => cases hc
  | _ => exact absurd rfl hi

/-- A closure that was freed went with the handle, or in the hands of its thread. -/
theorem Told.of_freed (ht : Told job course stored gone is cs fs) (hf : fs ≠ []) :
    is = [] ∧ (course = none ∧ gone = true ∨
      ∃ t progress, course = some ⟨t, progress⟩ ∧ progress.isEarly = false) := by
  cases ht with
  | dropped => exact ⟨rfl, .inl ⟨rfl, rfl⟩⟩
  | loweredSpared | exitedSpared => exact ⟨rfl, .inr ⟨_, _, rfl, rfl⟩⟩
  | _ => exact absurd rfl hf

/-- A thread that goes on outside the closure is one step further on. -/
theorem Told.ahead_next {progress' : Progress J} {spare alive alive' : Bool} {stored' : Option J}
    {outcome : Outcome J} (ht : Told job (some ⟨t, progress⟩) stored gone is cs fs)
    (hn : Progress.next spare stored alive progress = some (stored', alive', progress', outcome)) :
    progress'.ahead = progress.ahead - 1 := by
  cases ht with
  | raised => cases spare <;> cases hn <;> rfl
  | inside | exited | exitedSpared => cases hn
  | _ =>
    cases hn
    rfl

/-- A thread that does not find the switch raised begins the closure. -/
theorem Told.began_of_next {progress' : Progress J} {alive alive' : Bool} {stored' : Option J}
    {outcome : Outcome J} (ht : Told job (some ⟨t, progress⟩) stored gone is cs fs)
    (hn : Progress.next false stored alive progress = some (stored', alive', progress', outcome))
    (he : progress.isEarly = true) (he' : progress'.isEarly = false) :
    outcome = .invoked job := by
  cases ht with
  | raised =>
    cases hn
    rfl
  | created | taken =>
    cases hn
    cases he'
  | _ => cases he

/-- A thread that finds the switch raised does not begin the closure. -/
theorem not_invoked_of_next {progress' : Progress J} {alive alive' : Bool} {stored' : Option J}
    {outcome : Outcome J}
    (hn : Progress.next true stored alive progress = some (stored', alive', progress', outcome))
    (x : J) : outcome ≠ .invoked x := by
  cases progress with
  | created => cases stored <;> cases hn <;> exact nofun
  | _ => cases hn <;> exact nofun

end Table

/-! ## One step -/

section Step

variable {h h' : Handle J} {a : Action} {e : Effect (Handle J) (Outcome J)} {job : J}
  {es : History J} {t : ThreadId} {progress : Progress J} {d : Deed J}

/-- The thread of the handle runs the closure, or else an inline run. -/
theorem Placed.of_course? (hp : h.Placed) {c : Course J} (hc : h.course? = some c) :
    h.spawned = some c ∧ h.inline = none ∨ h.spawned = none ∧ h.inline = some c := by
  rcases Option.or_eq_some_iff.1 hc with hs | ⟨hs, hi⟩
  · refine .inl ⟨hs, Option.eq_none_iff_forall_ne_some.2 fun x hx => ?_⟩
    simp [(hp.inline x hx).1] at hs
  · exact .inr ⟨hs, hi⟩

/-- A thread outside the closure, which is not gone, can go on. -/
theorem Placed.exists_advance (hp : h.Placed) (hc : h.course? = some ⟨t, progress⟩)
    (hin : progress.isInside = false) (hover : progress.isOver = false) :
    ∃ e, h.step (.advance t) = some e := by
  have possible (spare : Bool) : (Progress.next spare h.job h.alive progress).isSome = true := by
    cases progress with
    | created => cases hj : h.job <;> rfl
    | raised => cases spare <;> rfl
    | inside => cases hin
    | exited => cases hover
    | _ => rfl
  rw [step, ← Option.isSome_iff_exists, Option.isSome_map, advance]
  rcases hp.of_course? hc with ⟨hs, -⟩ | ⟨hs, hi⟩
  · simpa [hs] using possible _
  · simpa [hs, hi] using possible _

/-- Only the thread that runs the closure shortens the way ahead of it. -/
theorem Passage.ahead (hp : Passage h a h' d) (ht : Traced job es h)
    (hc : h.course? = some ⟨t, progress⟩) :
    ∃ progress', h'.course? = some ⟨t, progress'⟩ ∧
      progress'.ahead = progress.ahead - (a.isAdvance t).toNat := by
  have still (ha : ∀ x, a.isAdvance x = false) : (a.isAdvance t).toNat = 0 := by
    rw [ha t, Bool.toNat_false]
  cases hp with
  | made _ hn | taken _ hn => simp [hn] at hc
  | rest ha hc' | dropped ha _ _ hc' | released ha _ hc' =>
    exact ⟨progress, hc'.trans hc, by rw [still ha, Nat.sub_zero]⟩
  | ended ha hin hc' =>
    obtain ⟨rfl, rfl⟩ : _ = t ∧ _ = progress := by simpa [hc] using hin.symm
    exact ⟨_, hc', by simp [Progress.ahead]⟩
  | goes ha hc' hn hnew =>
    obtain ⟨rfl, rfl⟩ : _ = t ∧ _ = progress := by simpa [hc] using hc'.symm
    rw [Traced, hc] at ht
    exact ⟨_, hnew, by rw [ht.ahead_next hn, ha]; simp [Action.isAdvance]⟩

/-- A thread that the closure gets is early. -/
theorem Passage.isEarly_of_new (hp : Passage h a h' d) {c : Course J} (hn : h.course? = none)
    (hc : h'.course? = some c) : c.progress.isEarly = true := by
  cases hp with
  | made _ _ _ hnew | taken _ _ _ hnew =>
    obtain rfl : c = _ := by simpa [hc] using hnew
    rfl
  | rest _ hsame | dropped _ _ _ hsame | released _ _ hsame => simp [hc, hn] at hsame
  | goes _ hold | ended _ hold => simp [hn] at hold

/-- A thread that looks for the switch begins the closure, or finds the switch raised. -/
theorem Passage.of_isEarly (hp : Passage h a h' d) (ht : Traced job es h) {c c' : Course J}
    (hc : h.course? = some c) (hc' : h'.course? = some c') (he : c.progress.isEarly = true)
    (he' : c'.progress.isEarly = false) :
    (∃ t, d = .began t job) ∨ h.killed = true ∧ h.spawned = some c := by
  cases hp with
  | made _ hn | taken _ hn => simp [hn] at hc
  | rest _ hsame | dropped _ _ _ hsame | released _ _ hsame =>
    obtain rfl : c' = c := by simpa [hc, hc'] using hsame
    simp [he] at he'
  | ended _ hin =>
    obtain rfl : c = _ := by simpa [hc] using hin
    cases he
  | @goes t progress progress' outcome ha hold hn hnew =>
    obtain rfl : c = _ := by simpa [hc] using hold
    obtain rfl : c' = _ := by simpa [hc'] using hnew
    rw [Traced, hc] at ht
    cases hspare : h.killed && h.spawned.isSome with
    | false =>
      rw [hspare] at hn
      refine .inl ⟨t, ?_⟩
      rw [ha, ht.began_of_next hn he he', deed]
    | true =>
      obtain ⟨hk, hs⟩ := Bool.and_eq_true_iff.1 hspare
      obtain ⟨x, hx⟩ := Option.isSome_iff_exists.1 hs
      exact .inr ⟨hk, hx.trans ((course?_of_spawned hx).symm.trans hc)⟩

/-- A raised switch keeps the thread of the handle from the closure. -/
theorem Passage.not_began (hp : Passage h a h' d) (hk : h.killed = true) (hs : h.spawned ≠ none)
    (t : ThreadId) (x : J) : d ≠ .began t x := by
  cases hp with
  | @goes y progress _ outcome ha _ hn _ =>
    rw [hk, Option.isSome_iff_ne_none.2 hs] at hn
    have hne := not_invoked_of_next hn
    subst ha
    cases outcome with
    | invoked job => exact absurd rfl (hne job)
    | _ => exact nofun
  | _ => exact nofun

/-- An idle handle stays idle unless somebody takes the closure. -/
theorem Transition.untaken (ht : Transition h a e) (ho : h.Ordered job)
    (ha : a.isTaking = false) (hs : h.stage = .idle) (hc : h.course? = none)
    (hd : h.dropped = false) :
    e.state.stage = .idle ∧ e.state.course? = none ∧ e.state.dropped = false := by
  have hnone := Option.or_eq_none_iff.1 hc
  cases ht with
  | grant | run | runEmpty | dropWithJob | drop => cases ha
  | started hl =>
    obtain ⟨-, -, progress, hsp⟩ := ho.of_spawned hl
    simp [hnone.1] at hsp
  | join _ hr | kill _ hr => simp [hs] at hr
  | advance hsp | ended _ hsp => simp [hnone.1] at hsp
  | advanceInline _ hi | endedInline _ _ hi => simp [hnone.2] at hi
  | _ => exact ⟨hs, hc, hd⟩

/-- The handle keeps its thread. -/
theorem Transition.spawned (ht : Transition h a e) (hs : h.spawned ≠ none) :
    e.state.spawned ≠ none := by
  cases ht with
  | grant | advance | ended => exact Option.some_ne_none _
  | _ => exact hs

end Step

/-! ## Every moment -/

section Run

variable {name : ThreadName} {job : J} {es fs : History J} {h h' : Handle J} {t : ThreadId}
  {progress : Progress J}

theorem Forestalled.append (hforestalled : Forestalled name job es h) (hf : Run step h fs h') :
    Forestalled name job (es ++ fs) h' := by
  obtain ⟨before, after, v, c, rfl, hv, hrun, hk, hs, hearly⟩ := hforestalled
  exact ⟨before, after ++ fs, v, c, List.append_assoc .., hv, Run.append hrun hf, hk, hs, hearly⟩

/-- A closure that its thread did not begin when it looked for the switch was forestalled. -/
theorem IsRun.forestalled (hr : IsRun name job es h) {c : Course J} (hc : h.course? = some c)
    (he : c.progress.isEarly = false) (hi : invocations es = []) : Forestalled name job es h := by
  refine hr.invariant (fun fs v => ∀ c, v.course? = some c → c.progress.isEarly = false →
    invocations fs = [] → Forestalled name job fs v) nofun (fun fs v a e hv ih hstep => ?_) c hc he hi
  intro c' hc' he' hi'
  have hv : IsRun name job fs v := hv
  have hp := hv.passage hstep
  rw [invocations_snoc] at hi'
  obtain ⟨hi, hnew⟩ := List.append_eq_nil_iff.1 hi'
  cases hc : v.course? with
  | none => simp [hp.isEarly_of_new hc hc'] at he'
  | some c =>
    have hone : Run step v [e.after a] e.state := Run.snoc .nil hstep
    cases hearly : c.progress.isEarly with
    | false => exact (ih c hc hearly hi).append hone
    | true =>
      rcases hp.of_isEarly hv.told hc hc' hearly he' with ⟨t, hd⟩ | ⟨hk, hs⟩
      · rw [hd] at hnew
        cases hnew
      · -- This is the moment: the thread is about to find the switch raised.
        have hnow : Forestalled name job fs v :=
          ⟨fs, [], v, c, (List.append_nil fs).symm, hv, .nil, hk, hs, hearly⟩
        exact hnow.append hone

/-- A closure that was forestalled is not invoked. -/
theorem Forestalled.never_invoked (hf : Forestalled name job es h) :
    h.killed = true ∧ h.spawned ≠ none ∧ invocations es = [] := by
  obtain ⟨fs, gs, v, c, rfl, hv, hrun, hk, hs, hearly⟩ := hf
  have hnone : invocations fs = [] := by
    have ht := hv.told
    rw [Traced, course?_of_spawned hs] at ht
    exact (ht.of_isEarly hearly).1
  refine hrun.invariant (fun gs w => w.killed = true ∧ w.spawned ≠ none ∧
    invocations (fs ++ gs) = []) ⟨hk, by simp [hs], by rw [List.append_nil, hnone]⟩ ?_
  rintro gs w a e hw ⟨hk, hs, hi⟩ he
  have ht := transition_of_step he
  refine ⟨ht.killed hk, ht.spawned hs, ?_⟩
  have hne := ((hv.append hw).passage he).not_began hk hs
  rw [← List.append_assoc, invocations_snoc, hi]
  cases hd : deed (e.after a) with
  | began t x => exact absurd hd (hne t x)
  | _ => rfl

theorem spawned_of_run (hf : Run step h fs h') (hs : h.spawned ≠ none) : h'.spawned ≠ none :=
  hf.invariant (fun _ v => v.spawned ≠ none) hs fun _ _ _ _ _ hv he =>
    (transition_of_step he).spawned hv

/-- The way ahead of the thread that runs the closure gets shorter with each of its steps, and
    with no other. -/
theorem IsRun.ahead_of_run (hr : IsRun name job es h) (hc : h.course? = some ⟨t, progress⟩)
    (hf : Run step h fs h') : ∃ progress', h'.course? = some ⟨t, progress'⟩ ∧
      progress'.ahead = progress.ahead - advances t fs := by
  refine hf.invariant (fun fs v => ∃ progress', v.course? = some ⟨t, progress'⟩ ∧
    progress'.ahead = progress.ahead - advances t fs) ⟨progress, hc, rfl⟩ ?_
  intro gs v a e hv ⟨p, hp, hahead⟩ he
  have hrv := hr.append hv
  obtain ⟨p', hp', hahead'⟩ := (hrv.passage he).ahead hrv.told hp
  refine ⟨p', hp', ?_⟩
  rw [advances_snoc, hahead', hahead, Nat.sub_sub]
  rfl

/-- As long as nobody takes the closure, the handle stays idle, and keeps it. -/
theorem IsRun.kept (hr : IsRun name job es h) (hes : ∀ o ∈ es, o.action.isTaking = false) :
    h.stage = .idle ∧ h.job = some job := by
  obtain ⟨hs, hc, hd⟩ : h.stage = .idle ∧ h.course? = none ∧ h.dropped = false := by
    refine hr.invariant_of_forall (P := fun a => a.isTaking = false) hes
      (fun v => v.stage = .idle ∧ v.course? = none ∧ v.dropped = false) ⟨rfl, rfl, rfl⟩ ?_
    intro fs v a e hv ⟨hs, hc, hd⟩ ha he
    exact (transition_of_step he).untaken (IsRun.ordered hv) ha hs hc hd
  have ht := hr.told
  rw [Traced, hc, hd] at ht
  exact ⟨hs, ht.of_none.1⟩

/-- Anybody can start or run an idle handle, unless its lock is held. -/
theorem IsRun.admits_of_idle (hr : IsRun name job es h) (hs : h.stage = .idle)
    (hl : h.isUnlocked = true) (hd : h.dropped = false) (c : ThreadId) : h.admits c = true := by
  have ho := hr.ordered
  have hfree : h.lock = .free := by simpa [isUnlocked] using hl
  obtain ⟨-, hi, hj⟩ := ho.idle hs
  simp [admits, hl, hd, hi, hj, (ho.untouched hs (by simp [hfree])).1]

/-- Once a thread has no way ahead, it began the closure, or the closure was forestalled. -/
theorem IsRun.begun (hr : IsRun name job es h) (hc : h.course? = some ⟨t, progress⟩)
    (hf : Run step h fs h') (hn : progress.ahead ≤ advances t fs) :
    (t, job) ∈ invocations (es ++ fs) ∨ Forestalled name job (es ++ fs) h' := by
  obtain ⟨progress', hc', hahead⟩ := hr.ahead_of_run hc hf
  -- Nothing is ahead of the thread, so it looked for the switch.
  have he := Progress.isEarly_eq_false_iff.2 (hahead.trans (Nat.sub_eq_zero_of_le hn))
  have hr' := hr.append hf
  have ht := hr'.told
  rw [Traced, hc'] at ht
  rcases ht.of_not_isEarly he with hnone | ⟨hi, -⟩
  · exact .inr (hr'.forestalled hc' he hnone)
  · exact .inl (by simp [hi])

/-- A run of an idle handle takes the closure, and its caller begins it. -/
theorem IsRun.run_idle (hr : IsRun name job es h) (hs : h.stage = .idle)
    (hl : h.isUnlocked = true) (hd : h.dropped = false) (c : ThreadId) :
    ∃ e, h.step (.run c) = some e ∧ ∀ fs h', Run step e.state fs h' → 2 ≤ advances c fs →
      (c, job) ∈ invocations (es ++ e.after (.run c) :: fs) := by
  have ha := hr.admits_of_idle hs hl hd c
  have hj := hr.ordered.job_of_admits ha hs
  have hstep : h.step (.run c) = some {
      state := { h with stage := .joined, job := none, inline := some ⟨c, .taken job⟩ }
      outcome := .moved } := by
    simp [step, ha, hs, hj]
  refine ⟨_, hstep, fun fs h' hf hn => ?_⟩
  have hsp := (hr.ordered.untouched hs (by simp [lock_of_admits ha])).1
  have hrun := hr.snoc hstep
  rcases hrun.begun (course?_of_inline hsp) hf hn with hbegun | hforestalled
  · rwa [List.append_assoc] at hbegun
  · -- The handle is joined, so no kill takes effect.
    have hstage := hrun.ordered.stage_of_run hf (.inl rfl)
    have hkilled := ((hrun.append hf).ordered.killed_iff.1 hforestalled.never_invoked.1).1
    rw [hstage] at hkilled
    cases hkilled

/-- A start of an idle handle, for which the operating system makes a thread, begins the
    closure, unless a kill raises the switch before. -/
theorem IsRun.start_idle (hr : IsRun name job es h) (hs : h.stage = .idle)
    (hl : h.isUnlocked = true) (hd : h.dropped = false) {c : ThreadId} (ht : t ≠ c) :
    ∃ e f, h.step (.start c) = some e ∧ e.state.step (.spawn c (.ok t)) = some f ∧
      ∀ fs h', Run step f.state fs h' → 3 ≤ advances t fs →
        (t, job) ∈ invocations (es ++ e.after (.start c) :: f.after (.spawn c (.ok t)) :: fs) ∨
        Forestalled name job (es ++ e.after (.start c) :: f.after (.spawn c (.ok t)) :: fs) h' := by
  have ha := hr.admits_of_idle hs hl hd c
  have hstart : h.step (.start c) = some {
      state := { h with lock := .starting c }
      outcome := .moved } := by
    simp [step, ha, hs]
  have hspawn : ({ h with lock := .starting c } : Handle J).step (.spawn c (.ok t)) = some {
      state := { h with lock := .spawned c t, spawned := some ⟨t, .created⟩ }
      outcome := .moved } := by
    simp [step, ht]
  refine ⟨_, _, hstart, hspawn, fun fs h' hf hn => ?_⟩
  have hbegun := ((hr.snoc hstart).snoc hspawn).begun (course?_of_spawned rfl) hf hn
  rwa [List.append_assoc, List.append_assoc] at hbegun

/-- What becomes of the closure `job` of a handle. -/
structure UsedOnce (name : ThreadName) (job : J) (es : History J) (h : Handle J) : Prop where
  /-- The closure is kept, or it was invoked once, or it was freed once. -/
  once : h.closure?.toList ++ (invocations es).map Prod.snd ++ freed es = [job]
  /-- It is invoked on the thread of the handle, or by the caller of an inline run, and
      there are never both. -/
  on_thread : ∀ t x, (t, x) ∈ invocations es → ∃ progress,
    h.spawned = some ⟨t, progress⟩ ∧ h.inline = none ∨
    h.spawned = none ∧ h.inline = some ⟨t, progress⟩
  /-- Nothing holds up a thread that has the closure, or was made for it. -/
  goes_on : ∀ c, h.course? = some c → c.progress.isInside = false → c.progress.isOver = false →
    ∃ e, h.step (.advance c.thread) = some e
  /-- However many starts the operating system refused, the closure is still there, -/
  kept : (∀ o ∈ es, o.action.isTaking = false) → h.stage = .idle ∧ h.job = some job
  /-- and a later run begins it, by the second step of its caller, -/
  run : h.stage = .idle → h.isUnlocked = true → h.dropped = false → ∀ c,
    ∃ e, h.step (.run c) = some e ∧ ∀ fs h', Run step e.state fs h' → 2 ≤ advances c fs →
      (c, job) ∈ invocations (es ++ e.after (.run c) :: fs)
  /-- or a later start, by the third step of the new thread, unless a kill forestalls it. -/
  start : h.stage = .idle → h.isUnlocked = true → h.dropped = false → ∀ c t, t ≠ c →
    ∃ e f, h.step (.start c) = some e ∧ e.state.step (.spawn c (.ok t)) = some f ∧
      ∀ fs h', Run step f.state fs h' → 3 ≤ advances t fs →
        (t, job) ∈ invocations (es ++ e.after (.start c) :: f.after (.spawn c (.ok t)) :: fs) ∨
        Forestalled name job (es ++ e.after (.start c) :: f.after (.spawn c (.ok t)) :: fs) h'
  /-- It is freed only with an idle handle, or because a kill forestalled it. -/
  freed_only : freed es ≠ [] → h.dropped = true ∧ h.stage = .idle ∨ Forestalled name job es h
  dropped : h.dropped = true → h.stage = .idle → freed es = [job]
  /-- The last reference to an idle handle can go, and this frees it. -/
  drop : h.stage = .idle → h.isUnlocked = true → h.dropped = false →
    ∃ e, h.step .drop = some e ∧ freed (es ++ [e.after .drop]) = [job]
  forestalled : Forestalled name job es h →
    invocations es = [] ∧ (h.hasExited = true → freed es = [job])
  /-- A thread that finds the switch down invokes the closure, and whatever is done to the
      handle afterwards, the closure runs until it is over. -/
  passed : ∀ t x e, h.spawned = some ⟨t, .raised x⟩ → h.killed = false →
    h.step (.advance t) = some e → ∀ fs h', Run step e.state fs h' →
      invocations (es ++ e.after (.advance t) :: fs) = [(t, job)] ∧
      (closings (es ++ e.after (.advance t) :: fs) = [] → h'.spawned = some ⟨t, .inside⟩)

/-- The closure is freed with an idle handle, when the last reference to that goes. -/
theorem IsRun.freed_of_dropped (hr : IsRun name job es h) (hd : h.dropped = true)
    (hs : h.stage = .idle) : freed es = [job] := by
  have hl := (hr.placed.dropped hd).1
  have ht := hr.told
  rw [Traced, hr.ordered.course?_eq_none hs (by simp [hl]), hd] at ht
  exact ht.of_none.2

/-- The last reference to an idle handle can go, since no call of it is under way. -/
theorem IsRun.drop_idle (hr : IsRun name job es h) (hs : h.stage = .idle)
    (hl : h.isUnlocked = true) (hd : h.dropped = false) :
    ∃ e, h.step .drop = some e ∧ freed (es ++ [e.after .drop]) = [job] := by
  have hfree : h.lock = .free := by simpa [isUnlocked] using hl
  obtain ⟨-, hi, hj⟩ := hr.ordered.idle hs
  obtain ⟨hsp, -, hjob⟩ := hr.ordered.untouched hs (by simp [hfree])
  have hunused : h.isUnused = true := by simp [isUnused, hl, hi, hj]
  have hstep : h.step .drop = some {
      state := { h with job := none, dropped := true }
      outcome := .freed job } := by
    simp [step, hunused, hd, hsp, hjob hd]
  exact ⟨_, hstep, (hr.snoc hstep).freed_of_dropped rfl hs⟩

/-- Why a closure is freed. -/
theorem IsRun.of_freed (hr : IsRun name job es h) (hf : freed es ≠ []) :
    h.dropped = true ∧ h.stage = .idle ∨ Forestalled name job es h := by
  obtain ⟨hi, ⟨hc, hd⟩ | ⟨t, progress, hc, he⟩⟩ := hr.told.of_freed hf
  · exact .inl ⟨hd, Decidable.not_not.1 fun hs => hr.placed.used hs hc⟩
  · exact .inr (hr.forestalled hc he hi)

/-- A forestalled closure is freed by the thread that was made for it. -/
theorem IsRun.freed_of_forestalled (hr : IsRun name job es h)
    (hf : Forestalled name job es h) (hx : h.hasExited = true) : freed es = [job] := by
  obtain ⟨c, hs, hover⟩ := (Option.any_eq_true _ _).1 hx
  have ht := hr.told
  rw [Traced, course?_of_spawned hs] at ht
  rcases ht.of_isOver hover with ⟨hi, -⟩ | ⟨-, hfreed⟩
  · simp [hf.never_invoked.2.2] at hi
  · exact hfreed

/-- A thread that finds the switch down invokes the closure. -/
theorem IsRun.passed (hr : IsRun name job es h) {x : J} (hs : h.spawned = some ⟨t, .raised x⟩)
    (hk : h.killed = false) {e : Effect (Handle J) (Outcome J)} (he : h.step (.advance t) = some e)
    (hf : Run step e.state fs h') :
    invocations (es ++ e.after (.advance t) :: fs) = [(t, job)] ∧
    (closings (es ++ e.after (.advance t) :: fs) = [] → h'.spawned = some ⟨t, .inside⟩) := by
  have hc := course?_of_spawned hs
  have hp := hr.passage he
  obtain ⟨progress, hc', hahead⟩ := hp.ahead hr.told hc
  have hlate : progress.ahead = 0 := by simpa [Progress.ahead, Action.isAdvance] using hahead
  -- The step begins the closure, since no kill raised the switch.
  have hbegan : invocations (es ++ [e.after (.advance t)]) ≠ [] := by
    rcases hp.of_isEarly hr.told hc hc' rfl (Progress.isEarly_eq_false_iff.2 hlate) with
      ⟨y, hd⟩ | ⟨hkilled, -⟩
    · simp [invocations_snoc, hd]
    · simp [hk] at hkilled
  have hstep := hr.snoc he
  obtain ⟨progress', hc'', hahead'⟩ := hstep.ahead_of_run hc' hf
  have hr' := hstep.append hf
  have ht := hr'.told
  have hne : invocations (es ++ [e.after (.advance t)] ++ fs) ≠ [] := by
    rw [invocations_append]
    exact List.append_ne_nil_of_left_ne_nil hbegan _
  rw [List.append_cons]
  rw [Traced, hc''] at ht
  refine ⟨?_, fun hopen => ?_⟩
  · have hlate' : progress'.ahead = 0 := by rw [hahead', hlate, Nat.zero_sub]
    exact ((ht.of_not_isEarly (Progress.isEarly_eq_false_iff.2 hlate')).resolve_left hne).1
  · rw [ht.of_open hne hopen] at hc''
    have hthread := spawned_of_run hf ((transition_of_step he).spawned (by simp [hs]))
    exact ((hr'.placed.of_course? hc'').resolve_right fun hnone => hthread hnone.1).1

/-- The closure of a handle is used once. It is invoked at most once, on the thread of the handle
    or on that of a caller of `run`; it is not lost to starts that the operating system refuses;
    it is freed if the handle goes while idle, or if a kill forestalls it, and in no other case. -/
theorem IsRun.closure_used_once (hr : IsRun name job es h) : UsedOnce name job es h where
  once := hr.told.once
  on_thread t x hi := by
    obtain ⟨-, progress, hc⟩ := hr.told.of_invoked hi
    exact ⟨progress, hr.placed.of_course? hc⟩
  goes_on _ hc hin hover := hr.placed.exists_advance hc hin hover
  kept := hr.kept
  run hs hl hd c := hr.run_idle hs hl hd c
  start hs hl hd _ _ ht := hr.start_idle hs hl hd ht
  freed_only := hr.of_freed
  dropped := hr.freed_of_dropped
  drop := hr.drop_idle
  forestalled hf := ⟨hf.never_invoked.2.2, hr.freed_of_forestalled hf⟩
  passed _ _ _ hs hk he _ _ hf := hr.passed hs hk he hf

/-- The first handle is started at the second attempt, and killed and dropped while its closure
    runs, which panics at last. The second one is killed before its thread does anything. -/
theorem closure_used_once_of_two_kills :
    ∃ (es fs : History Nat) (h h' : Handle Nat),
      IsRun (.ofString "late") 10 es h ∧ h.dropped = true ∧ h.stage = .killed ∧
      invocations es = [(5, 10)] ∧ UsedOnce (.ofString "late") 10 es h ∧
      IsRun (.ofString "soon") 11 fs h' ∧ invocations fs = [] ∧ freed fs = [11] ∧
      Forestalled (.ofString "soon") 11 fs h' := by
  obtain ⟨es, h, hrun, hf⟩ := exists_run step (create (.ofString "late") 10)
    [.start 1, .spawn 1 (.error (.system 11)), .start 1, .spawn 1 (.ok 5), .advance 5, .proceed 1,
      .advance 5, .advance 5, .kill 2, .proceed 2, .proceed 2, .proceed 2, .drop, .ended 5 true,
      .advance 5, .advance 5]
    (fun es h => (invocations es, h.dropped, h.stage)) ([(5, 10)], true, .killed) (by decide)
  obtain ⟨fs, h', hrun', hf'⟩ := exists_run step (create (.ofString "soon") 11)
    [.start 1, .spawn 1 (.ok 5), .proceed 1, .kill 1, .proceed 1, .advance 5, .proceed 1, .advance 5,
      .advance 5, .proceed 1, .advance 5, .advance 5, .advance 5]
    (fun es h => (freed es, h.stage)) ([11], .killed) (by decide)
  simp only [Prod.mk.injEq] at hf hf'
  have hr : IsRun (.ofString "late") 10 es h := hrun
  have hr' : IsRun (.ofString "soon") 11 fs h' := hrun'
  have hforestalled : Forestalled (.ofString "soon") 11 fs h' :=
    (hr'.closure_used_once.freed_only (by simp [hf'.1])).resolve_left (by simp [hf'.2])
  exact ⟨es, fs, h, h', hr, hf.2.1, hf.2.2, hf.1, hr.closure_used_once, hr',
    (hr'.closure_used_once.forestalled hforestalled).1, hf'.1, hforestalled⟩

end Run

end Handle

end Threading

import Threading.Proofs.Handle.Finished
import Threading.Proofs.JobPool.Progress

/-!
# Submits wait for no job

A submit holds the lock of the pool while it goes through the list, and joins the threads
that are gone. Each handle of the pool lives as any other handle does (`IsRun.handle`), so
it is finished for good once it is finished, and a join of it then waits for nothing.

* Whatever the jobs do, the next step of a submit that holds the lock is possible, every
  step of its own brings it nearer to its end (`Submitting.remaining`), and no step of
  anybody else moves it (`Unhindered`).
* So it ends after at most as many steps of its own as remain (`Unhindered.of_run`), also if
  nobody else ever takes a step (`IsRun.alone`).
-/

namespace Threading

/-- The steps that a submit takes at most until it ends. -/
def Submitting.remaining : Submitting → Nat
  | .pruning _ rest => 2 * rest.length + 2
  | .collecting _ _ rest => 2 * rest.length + 3
  | .creating => 1

namespace JobPool

variable {τ : Type}

/-- The action is a step of the submit of `c`, after it took the lock. -/
def isSubmitStep (c : ThreadId) : Action τ → Bool
  | .prune x _ | .create x _ => x == c
  | _ => false

/-- The steps of submits of `c`, after they took the lock. -/
def submitSteps (c : ThreadId) (es : History τ) : Nat :=
  es.countP fun o => isSubmitStep c o.action

/-- The submit of `c` ends with this occurrence. -/
def EndsSubmit (c : ThreadId) (o : Occurrence (Action τ) (Outcome τ)) : Prop :=
  isSubmitStep c o.action = true ∧
    (o.outcome = .accepted ∨ ∃ error job, o.outcome = .rejected error job)

/-- A submit is over with this outcome. -/
def Outcome.isAnswer : Outcome τ → Bool
  | .accepted | .rejected _ _ => true
  | _ => false

theorem endsSubmit_iff {c : ThreadId} {o : Occurrence (Action τ) (Outcome τ)} :
    EndsSubmit c o ↔ isSubmitStep c o.action = true ∧ o.outcome.isAnswer = true := by
  rw [EndsSubmit]
  cases o.outcome <;> simp [Outcome.isAnswer]

instance (c : ThreadId) (o : Occurrence (Action τ) (Outcome τ)) : Decidable (EndsSubmit c o) :=
  decidable_of_iff _ endsSubmit_iff.symm

/-- The submit `s`, which holds the lock of `p`, goes on whatever others do. -/
structure Unhindered (p : JobPool τ) (s : Submit τ) : Prop where
  /-- The thread it waits for is gone, and so its job is over. -/
  waits : ∀ kept i rest, s.stage = .collecting kept i rest →
    ∃ j, p.threads[i]? = some j ∧ j.handle.hasExited = true ∧ j.isOver = true
  goes_on : s.stage ≠ .creating → ∀ memory, ∃ e, p.step (.prune s.caller memory) = some e
  /-- The operating system may answer as it likes. -/
  answered : s.stage = .creating →
    (∀ refusal, ∃ e, p.step (.create s.caller (.error refusal)) = some e) ∧
      ∀ t, p.isFresh t = true → ∃ e, p.step (.create s.caller (.ok t)) = some e
  nearer : ∀ a e, p.step a = some e → isSubmitStep s.caller a = true →
    (EndsSubmit s.caller (e.after a) ∧ e.state.submitting = none) ∨
    (e.outcome = .moved ∧ ∃ stage, e.state.submitting = some { s with stage } ∧
      stage.remaining < s.stage.remaining)
  untouched : ∀ a e, p.step a = some e → isSubmitStep s.caller a = false →
    e.state.submitting = some s

/-- No submit waits for a job. -/
structure WaitsForNoJob (p : JobPool τ) : Prop where
  handles : ∀ j ∈ p.threads, j.handle.FinishedForGood
  /-- Only another submit keeps a submit from beginning. -/
  begins : ∀ c job, p.submitting = none → p.abandoned = false → p.isCalling c = false →
    (∀ j ∈ p.threads, j.thread? = some c → j.isWorking = true) →
    ∃ e, p.step (.submit c job) = some e
  unhindered : ∀ s, p.submitting = some s → p.Unhindered s
  /-- A submit ends after a number of steps of its own that depends on the list only. -/
  bounded : ∀ s fs q, p.submitting = some s → Run step p fs q →
    (∃ stage, q.submitting = some { s with stage } ∧
      stage.remaining + submitSteps s.caller fs ≤ s.stage.remaining) ∨
    ∃ gs o hs, fs = gs ++ o :: hs ∧ EndsSubmit s.caller o ∧
      submitSteps s.caller gs < s.stage.remaining
  /-- It ends if nobody else takes a step. -/
  alone : ∀ s, p.submitting = some s → ∃ fs o q, Run step p (fs ++ [o]) q ∧
    (∀ x ∈ fs, isSubmitStep s.caller x.action = true) ∧ fs.length < s.stage.remaining ∧
    EndsSubmit s.caller o ∧ q.submitting = none

/-! ## The handles of a pool -/

section Handles

/-- The thread of a handle goes on by a step of the handle. -/
theorem exists_run_advance {h : Handle τ} {t : ThreadId} {progress progress' : Progress τ}
    {job : Option τ} {alive : Bool} {outcome : Handle.Outcome τ}
    (hs : h.spawned = some ⟨t, progress⟩) (hn : Handle.Progress.next h.killed h.job h.alive progress =
      some (job, alive, progress', outcome)) :
    ∃ fs, Run Handle.step h fs { h with job, alive, spawned := some ⟨t, progress'⟩ } := by
  have he : h.step (.advance t) = some
      { state := { h with job, alive, spawned := some ⟨t, progress'⟩ }, outcome } := by
    simp [Handle.step, Handle.advance, hs, hn]
  exact ⟨_, .snoc .nil he⟩

/-- What a step of a pool does to a handle, steps of the handle do. -/
theorem Changes.run {p : JobPool τ} {a : Action τ} {i : Nat} {j j' : JobThread τ}
    (hc : Changes p a i j j') (hs : j.Sound) : ∃ fs, Run Handle.step j.handle fs j'.handle := by
  have hjoined := hs.onlyJoined
  cases hc with
  | same | takes | sleeps | ends => exact ⟨[], .nil⟩
  | moves _ m =>
    cases m with
    | begin _ hsp hjob => exact exists_run_advance hsp (by rw [hjob]; rfl)
    | raise _ hsp | lower _ hsp | exit _ hsp => exact exists_run_advance hsp rfl
    | arrive _ hsp => exact exists_run_advance hsp (by rw [hjoined.not_killed]; rfl)
  | @givesBack t panicked _ hsp =>
    have he : j.handle.step (.ended t panicked) = some
        { state := { j.handle with spawned := some ⟨t, .ended panicked⟩ }, outcome := .moved } := by
      simp [Handle.step, Handle.closureEnded, hsp, hjoined.isCalling hsp]
    exact ⟨_, .snoc .nil he⟩
  | @marked c hr hcur =>
    obtain ⟨t, progress, hsp, -⟩ := hs.inside_iff
    have ha : j.handle.admits c = true :=
      hjoined.admits hs.kept (by simp [hjoined.joiner_of_running hr]) hsp fun htc =>
        absurd htc (hjoined.ne_of_not_isCurrent hr hcur hsp)
    have he : j.handle.step (.join c) = some
        { state := j.handle.marked c, outcome := .moved } := by
      simp [Handle.step, ha, hr, hcur, Handle.marked]
    exact ⟨_, .snoc .nil he⟩
  | collected hg =>
    cases hjoiner : j.handle.joiner with
    | none =>
      have hsame : j.collected.handle = j.handle := by
        rw [JobThread.collected, Handle.collected, ← hjoiner]
      exact ⟨[], hsame ▸ .nil⟩
    | some c =>
      obtain ⟨result, he⟩ := exists_collect hs hjoiner hg
      exact ⟨_, .snoc .nil he⟩

/-- A handle that was made and started is one that a start took its steps on. -/
theorem exists_isRun_createStarted (name : ThreadName) (job : τ) (t : ThreadId) :
    ∃ fs, Handle.IsRun name job fs (.createStarted name job t) := by
  have hstart := Handle.start_create name job (Nat.ne_of_lt (Nat.lt_succ_self t))
  obtain ⟨e, he, hstart⟩ := Option.bind_eq_some_iff.1 hstart
  obtain ⟨f, hf, hg⟩ := Option.bind_eq_some_iff.1 hstart
  exact ⟨_, .snoc (.snoc (.snoc .nil he) hf) hg⟩

/-- A handle of a pool lives as any other handle does. -/
theorem IsRun.handle {permits : UInt32} {es : History τ} {p : JobPool τ} (h : IsRun permits es p)
    {j : JobThread τ} (hj : j ∈ p.threads) :
    ∃ job fs, Handle.IsRun jobName job fs j.handle := by
  revert j
  refine h.induction (fun _ p => ∀ {j}, j ∈ p.threads → ∃ job fs, Handle.IsRun jobName job fs j.handle)
    (fun _ j hj => absurd hj List.not_mem_nil) fun es p a e hp ht ih j' hj' => ?_
  rcases ht.mem_changed hj' with ⟨i, j, hj, hc⟩ | ⟨t, hnew⟩
  · obtain ⟨job, fs, hrun⟩ := ih (List.mem_of_getElem? hj)
    obtain ⟨gs, hgs⟩ := hc.run (hp.sound_at hj)
    exact ⟨job, fs ++ gs, hrun.append hgs⟩
  · -- The handle was started by the submit that made it.
    obtain ⟨-, -, -, -⟩ := hnew
    exact ⟨_, exists_isRun_createStarted ..⟩

end Handles

/-! ## Submits -/

section Submits

variable {permits : UInt32} {es fs : History τ} {p q : JobPool τ} {s : Submit τ} {a : Action τ}
  {e : Effect (JobPool τ) (Outcome τ)}

theorem remaining_pos (stage : Submitting) : 0 < stage.remaining := by
  cases stage <;> simp [Submitting.remaining]

theorem submitSteps_snoc (c : ThreadId) (es : History τ) (o : Occurrence (Action τ) (Outcome τ)) :
    submitSteps c (es ++ [o]) = submitSteps c es + (isSubmitStep c o.action).toNat :=
  countP_snoc _ es o

/-- A step of a submit brings it nearer to its end. -/
theorem Transition.nearer (ht : Transition p a e) (hsub : p.submitting = some s)
    (ha : isSubmitStep s.caller a = true) :
    (EndsSubmit s.caller (e.after a) ∧ e.state.submitting = none) ∨
    (e.outcome = .moved ∧ ∃ stage, e.state.submitting = some { s with stage } ∧
      stage.remaining < s.stage.remaining) := by
  cases ht with
  | keep hsub' hst | forget hsub' hst | pruneMark hsub' hst | pruneCollect hsub' hst
  | makeRoom hsub' hst =>
    obtain rfl := Option.some.inj (hsub.symm.trans hsub')
    refine .inr ⟨rfl, _, rfl, ?_⟩
    simp only [hst, Submitting.remaining, List.length_cons, List.length_nil]
    omega
  | noRoom => exact .inl ⟨⟨ha, .inr ⟨_, _, rfl⟩⟩, rfl⟩
  | accept => exact .inl ⟨⟨ha, .inl rfl⟩, rfl⟩
  | decline => exact .inl ⟨⟨ha, .inr ⟨_, _, rfl⟩⟩, rfl⟩
  | _ => cases ha

/-- Nobody else moves a submit. -/
theorem Transition.untouched (ht : Transition p a e) (ho : Orderly p)
    (hsub : p.submitting = some s) (ha : isSubmitStep s.caller a = false) :
    e.state.submitting = some s := by
  cases ht with
  | keep hsub' | forget hsub' | pruneMark hsub' | pruneCollect hsub' | noRoom hsub'
  | makeRoom hsub' | accept hsub' | decline hsub' =>
    obtain rfl := Option.some.inj (hsub.symm.trans hsub')
    simp [isSubmitStep] at ha
  | submit hadmits | call hadmits => simp [(isCalling_of_admits hadmits).1] at hsub
  | pass hd | mark hd | collect hd => simp [(ho.of_destroying hd).2.2] at hsub
  | abandon _ _ hnone => simp [hnone] at hsub
  | _ => exact hsub

theorem IsRun.unhindered (h : IsRun permits es p) (hsub : p.submitting = some s) :
    p.Unhindered s where
  waits kept i rest hst := by
    obtain ⟨j, hj, hg⟩ := h.pruned hsub hst
    exact ⟨j, hj, hg, (h.sound_at hj).isOver_of_hasExited hg⟩
  goes_on hne := h.exists_prune hsub hne
  answered hst := by
    refine ⟨fun refusal => ?_, fun t hfresh => ?_⟩ <;> simp [step, createThread, *]
  nearer _ _ he := (transition_of_step h.sound he).nearer hsub
  untouched _ _ he := (transition_of_step h.sound he).untouched h.orderly hsub

/-- A submit is under way, with fewer steps left for every step it took, or it ended. -/
theorem IsRun.submit_of_run (h : IsRun permits es p) (hsub : p.submitting = some s)
    (hf : Run step p fs q) :
    (∃ stage, q.submitting = some { s with stage } ∧
      stage.remaining + submitSteps s.caller fs ≤ s.stage.remaining) ∨
    ∃ gs o hs, fs = gs ++ o :: hs ∧ EndsSubmit s.caller o ∧
      submitSteps s.caller gs < s.stage.remaining := by
  refine hf.invariant (fun fs q => (∃ stage, q.submitting = some { s with stage } ∧
      stage.remaining + submitSteps s.caller fs ≤ s.stage.remaining) ∨
    ∃ gs o hs, fs = gs ++ o :: hs ∧ EndsSubmit s.caller o ∧
      submitSteps s.caller gs < s.stage.remaining)
    (.inl ⟨s.stage, hsub, Nat.le_refl _⟩) fun fs q a e hrun ih he => ?_
  rcases ih with ⟨stage, hq, hle⟩ | ⟨gs, o, hs, rfl, hends, hlt⟩
  · have hunhindered := (h.append hrun).unhindered hq
    rw [submitSteps_snoc]
    cases ha : isSubmitStep s.caller a with
    | true =>
      rcases hunhindered.nearer a e he ha with ⟨hends, -⟩ | ⟨-, stage', hq', hlt⟩
      · refine .inr ⟨fs, _, [], rfl, hends, ?_⟩
        have := remaining_pos stage
        omega
      · refine .inl ⟨stage', hq', ?_⟩
        dsimp only at hlt
        simp only [Effect.after, ha, Bool.toNat_true]
        omega
    | false =>
      refine .inl ⟨stage, hunhindered.untouched a e he ha, ?_⟩
      simpa [Effect.after, ha] using hle
  · exact .inr ⟨gs, o, hs ++ [e.after a], by simp, hends, hlt⟩

/-- A submit ends by steps of its own. -/
theorem IsRun.alone (h : IsRun permits es p) (hsub : p.submitting = some s) :
    ∃ fs o q, Run step p (fs ++ [o]) q ∧
      (∀ x ∈ fs, isSubmitStep s.caller x.action = true) ∧ fs.length < s.stage.remaining ∧
      EndsSubmit s.caller o ∧ q.submitting = none := by
  induction hn : s.stage.remaining using Nat.strongRecOn generalizing es p s with
  | ind n ih =>
    have hunhindered := h.unhindered hsub
    obtain ⟨a, e, ha, he⟩ : ∃ a e, isSubmitStep s.caller a = true ∧ p.step a = some e := by
      by_cases hst : s.stage = .creating
      · obtain ⟨e, he⟩ := (hunhindered.answered hst).1 (.other "")
        exact ⟨_, e, beq_self_eq_true _, he⟩
      · obtain ⟨e, he⟩ := hunhindered.goes_on hst true
        exact ⟨_, e, beq_self_eq_true _, he⟩
    rcases hunhindered.nearer a e he ha with ⟨hends, hnone⟩ | ⟨-, stage, hsub', hlt⟩
    · exact ⟨[], _, _, .snoc .nil he, nofun, hn ▸ remaining_pos _, hends, hnone⟩
    · obtain ⟨fs, o, q, hrun, hown, hlen, hends, hnone⟩ := ih _ (hn ▸ hlt) (h.snoc he) hsub' rfl
      dsimp only at hown hlen hends
      refine ⟨e.after a :: fs, o, q, .cons he hrun, List.forall_mem_cons.2 ⟨ha, hown⟩, ?_, hends,
        hnone⟩
      rw [List.length_cons]
      omega

/-- Submits wait for no job: neither the handles that they join nor the lock that they hold
    keeps them, or others, waiting. -/
theorem IsRun.waitsForNoJob (h : IsRun permits es p) : p.WaitsForNoJob where
  handles j hj := by
    obtain ⟨job, fs, hrun⟩ := h.handle hj
    exact hrun.finishedForGood
  begins c job hsub hopen hidle hworking := by
    have ha : p.admits c = true := by
      simp only [admits, hopen, hsub, hidle, Bool.not_false, Option.isNone_none, Bool.true_and,
        List.all_eq_true, Bool.or_eq_true, bne_iff_ne]
      exact fun j hj => Classical.or_iff_not_imp_left.2 fun ht => hworking j hj (by simpa using ht)
    simp only [step, ha, Bool.not_true, Bool.false_eq_true, if_false]
    split <;> exact ⟨_, rfl⟩
  unhindered _ := h.unhindered
  bounded _ _ _ := h.submit_of_run
  alone _ := h.alone

/-- A handle that is finished is so for good: it was unfinished only while it was idle, or ran
    and its thread was not gone, and no later join waits for the closure. So a submit, which
    joins finished handles only, waits for no job, though it holds the lock of the pool. -/
theorem IsRun.prunes_without_waiting {J : Type} {name : ThreadName} {job : J}
    {gs : Handle.History J} {k : Handle J} (hk : Handle.IsRun name job gs k)
    (h : IsRun permits es p) : k.FinishedForGood ∧ p.WaitsForNoJob :=
  ⟨hk.finishedForGood, h.waitsForNoJob⟩

/-- The thread `2` kills a handle while its closure is running. In the pool the first of two jobs
    panicked, and the second is running: a submit that waits for the thread of the first one
    ends in fewer than five more steps, all of its own. -/
theorem prunes_without_waiting_beside_a_job :
    ∃ (gs : Handle.History Nat) (k : Handle Nat) (es : History Nat) (p : JobPool Nat),
      Handle.IsRun (.ofString "stray") 10 gs k ∧ k.spawned = some ⟨5, .inside⟩ ∧ k.NeverWaits ∧
      IsRun 2 es p ∧ p.submitting = some ⟨8, 12, .collecting [] 0 [1]⟩ ∧
      p.threads.map JobThread.isWorking = [false, true] ∧
      ∃ fs o q, Run step p (fs ++ [o]) q ∧ (∀ x ∈ fs, isSubmitStep 8 x.action = true) ∧
        fs.length < 5 ∧ EndsSubmit 8 o ∧ q.submitting = none := by
  obtain ⟨gs, k, hplayed, hk⟩ := exists_run Handle.step (Handle.create (.ofString "stray") 10)
    [.start 1, .spawn 1 (.ok 5), .proceed 1, .advance 5, .advance 5, .advance 5, .kill 2, .proceed 2]
    (fun _ k => (k.spawned, k.isFinished)) (some ⟨5, .inside⟩, true) (by decide)
  obtain ⟨es, p, h, hf⟩ := exists_isRun 2
    [.submit 7 10, .prune 7 true, .create 7 (.ok 1), .submit 7 11, .prune 7 true, .prune 7 true,
      .create 7 (.ok 2), .advance 0 none, .advance 0 none, .advance 0 none, .advance 0 none,
      .advance 1 none, .advance 1 none, .advance 1 none, .advance 1 none, .jobEnded 0 true,
      .advance 0 none, .advance 0 none, .advance 0 none, .submit 8 12, .prune 8 true]
    (fun _ p => (p.submitting.map fun s => (s.caller, s.job, s.stage),
      p.threads.map JobThread.isWorking))
    (some (8, 12, .collecting [] 0 [1]), [false, true]) (by decide)
  simp only [Prod.mk.injEq] at hk hf
  have hr : Handle.IsRun (.ofString "stray") 10 gs k := hplayed
  obtain ⟨⟨c, job, stage⟩, hsub, hs⟩ := Option.map_eq_some_iff.1 hf.1
  cases hs
  obtain ⟨hforever, hpool⟩ := h.prunes_without_waiting hr
  exact ⟨gs, k, es, p, hr, hk.1, hforever.ever_after hk.2 [] k .nil, h, hsub, hf.2,
    hpool.alone _ hsub⟩

end Submits

end JobPool

end Threading

import Threading.Proofs.JobPool.Conservation
import Threading.Proofs.JobPool.Interleaving

/-!
# Submits that fail

A submit fails at once if the pool is shut down, and then nothing has changed. Otherwise it goes
through the list, joins the threads that it sees to be gone, and may fail after that: because
there is no memory for the list to grow, or because the operating system makes no thread.
Then the job goes back, and the pool is as if the call had done nothing but forget these
threads (`FailedSubmit`, `IsRun.failedSubmit`).

From there everything goes on as it would in the pool that was only pruned. Whoever submits a
job later gets a thread for it, if there is memory and the operating system makes one, and the
job runs (`TakesJobs`, `IsRun.takesJobs`).
-/

namespace Threading.JobPool

variable {τ : Type}

/-- What happens from the moment at which a submit of `job` by `c` takes the lock to the step `o`
    that ends it. -/
def attempt (c : ThreadId) (job : τ) (fs : History τ) (o : Occurrence (Action τ) (Outcome τ)) :
    History τ :=
  ⟨.submit c job, .moved, []⟩ :: (fs ++ [o])

/-- The thread `i` is gone. -/
def isGone (p : JobPool τ) (i : Nat) : Bool := p.threads[i]?.any fun j => j.handle.hasExited

/-- A submit to the pool `p`, after `es`, is accepted if it finds memory and the operating system
    makes its thread. -/
structure TakesJobs (es : History τ) (p : JobPool τ) : Prop where
  /-- Whoever may submit a job comes to the point where the thread is made, by steps of its own. -/
  reached : ∀ c job t, p.shutdown = false → p.admits c = true → p.isFresh t = true → t ≠ c →
    ∃ fs q e, Run step p (⟨.submit c job, .moved, []⟩ :: fs) q ∧
      (∀ o ∈ fs, o.action = .prune c true) ∧
      q.step (.create c (.ok t)) = some e ∧ e.outcome = .accepted ∧ q.pending = some job
  not_rejected : ∀ c a e error back, a = .prune c true ∨ (∃ t, a = .create c (.ok t)) →
    p.step a = some e → e.outcome ≠ .rejected error back
  /-- The job runs, once: when nobody can go on, no job is running, and no thread is held by the
      operating system, it has begun on its thread, and is over. -/
  runs : ∀ c job t e, p.pending = some job → p.step (.create c (.ok t)) = some e →
    ∀ fs q, Run step e.state fs q → q.Quiescent → (∀ j ∈ q.threads, j.isWorking = false) →
      (∀ j ∈ q.threads, j.isHeld = false) →
      ofThread p.threads.length (begun (es ++ e.after (.create c (.ok t)) :: fs)) = [job] ∧
      ofThread p.threads.length (finished (es ++ e.after (.create c (.ok t)) :: fs)) = [job]

/-- After `es`, a submit of `job` by `c` took the lock of the pool `p`, held it while `fs` happened,
    and failed with `error` by the step `o`. Now the pool is `q`, and without the call it would
    be `u`. -/
structure FailedSubmit (permits : UInt32) (es : History τ) (p : JobPool τ) (c : ThreadId) (job : τ)
    (fs : History τ) (o : Occurrence (Action τ) (Outcome τ)) (error : Error)
    (q u : JobPool τ) : Prop extends Undone p c job fs o error q u where
  /-- The job goes back to be dropped, once, and gets no thread. -/
  dropped : ∀ gs, rejected (es ++ attempt c job fs o ++ gs) = rejected es ++ job :: rejected gs
  not_accepted : accepted (es ++ attempt c job fs o) = accepted es
  /-- If no job is handed in twice, this one is dropped once and never begins. -/
  once : ∀ gs r, IsRun permits (es ++ attempt c job fs o ++ gs) r →
    (submitted (es ++ attempt c job fs o ++ gs)).Nodup →
    (rejected (es ++ attempt c job fs o ++ gs)).Nodup ∧
      job ∉ (begun (es ++ attempt c job fs o ++ gs)).map Prod.snd
  /-- Whatever the submit saw was so, -/
  saw : ∀ m ∈ moments step (p.locked c job) fs, ∀ i b, look? m = some (i, b) → m.1.isGone i = b
  /-- and the list is the old one without the threads that were gone, in the same order. -/
  listed : q.listed = p.listed.filter fun i => i ∉ gone (survey p c job fs)
  /-- Whatever was gone before the call is forgotten, and whatever is forgotten is gone. -/
  forgotten : ∀ i ∈ p.listed,
    (p.isGone i = true → i ∉ q.listed) ∧ (i ∉ q.listed → q.isGone i = true)
  /-- No thread was made, the permits are where they would be without the call, and the pool takes
      jobs as before. -/
  spared : q.threads.length = p.threads.length ∧ q.permits = u.permits ∧
    q.shutdown = p.shutdown ∧ q.submitting = none
  /-- If nobody else took a step, the pool without the call is the one before it. -/
  alone : others c fs = [] → u = p
  /-- Later the same can happen as in the pool that was only pruned, with the same answers and to
      the same end, but for room. It is so if memory is found, and in any case if the room is the
      same. -/
  as_if : ∀ gs (r : JobPool τ),
    q.capacity = p.capacity ∨ (∀ x ∈ gs, findsMemory x.action = true) →
    ((∃ n, Run step q gs (r.withRoom n)) ↔
      ∃ n, Run step (u.forgetting (gone (survey p c job fs))) gs (r.withRoom n))
  later : ∀ gs r, Run step q gs r → TakesJobs (es ++ attempt c job fs o ++ gs) r

/-- What comes of a submit that fails, in the pool `p` after `es`. -/
structure FailsCleanly (permits : UInt32) (es : History τ) (p : JobPool τ) : Prop where
  /-- A submit that is told of the shutdown changes nothing. -/
  shut_down : ∀ a e job, p.step a = some e → e.outcome = .rejected .shutDown job →
    e = { state := p, outcome := .rejected .shutDown job } ∧
    (∃ c, a = .submit c job) ∧ p.shutdown = true ∧
    ∀ fs q, IsRun permits (es ++ e.after a :: fs) q ↔ IsRun permits (es ++ fs) q
  /-- No step of a submit takes a permit or gives one back, shuts the pool down, or moves a job,
      unless it makes the thread. -/
  spares : ∀ c a e, p.step a = some e → isSubmitStep c a = true →
    e.state.permits = p.permits ∧ e.state.shutdown = p.shutdown ∧
      e.state.destroys = p.destroys ∧ (e.outcome = .accepted ∨ e.state.jobs = p.jobs)
  failed : ∀ c job e fs v a f error back, p.step (.submit c job) = some e → e.outcome = .moved →
    Run step e.state fs v → (∀ o ∈ fs, ¬EndsSubmit c o) → v.step a = some f →
    isSubmitStep c a = true → f.outcome = .rejected error back →
    ∃ u, FailedSubmit permits es p c job fs (f.after a) error f.state u

section Step

variable {p : JobPool τ} {a : Action τ} {e : Effect (JobPool τ) (Outcome τ)} {s : Submit τ}
  {c t : ThreadId}

/-- The steps of a submit leave the permits and the jobs alone, until it makes the thread. -/
theorem Transition.spares (ht : Transition p a e) (ha : isSubmitStep c a = true) :
    e.state.permits = p.permits ∧ e.state.shutdown = p.shutdown ∧
      e.state.destroys = p.destroys ∧ (e.outcome = .accepted ∨ e.state.jobs = p.jobs) := by
  cases ht with
  | keep | forget | noRoom | makeRoom | decline => exact ⟨rfl, rfl, rfl, .inr rfl⟩
  | pruneMark _ _ hj | pruneCollect _ _ hj =>
    exact ⟨rfl, rfl, rfl, .inr (map_set_whereabouts hj rfl)⟩
  | accept => exact ⟨rfl, rfl, rfl, .inl rfl⟩
  | _ => cases ha

/-- A submit that fails makes no thread. -/
theorem Transition.length_of_rejected (ht : Transition p a e) (ha : isSubmitStep c a = true)
    {error : Error} {back : τ} (ho : e.outcome = .rejected error back) :
    e.state.threads.length = p.threads.length := by
  rcases (ht.spares ha).2.2.2 with haccepted | hjobs
  · rw [ho] at haccepted
    cases haccepted
  · have hsame := congrArg List.length hjobs
    rwa [jobs, jobs, List.length_map, List.length_map] at hsame

/-- A submit that has memory and a thread is not rejected. -/
theorem Transition.not_rejected (ht : Transition p a e)
    (ha : a = .prune c true ∨ ∃ t, a = .create c (.ok t)) (error : Error) (back : τ) :
    e.outcome ≠ .rejected error back := by
  intro ho
  cases ht with
  | noRoom _ _ hfull =>
    obtain ⟨-, rfl⟩ := reserveOne_eq_none_iff.1 hfull
    rcases ha with ha | ⟨t, ha⟩ <;> cases ha
  | refuse | decline => rcases ha with ha | ⟨t, ha⟩ <;> cases ha
  | move _ m => cases m <;> cases ho
  | _ => cases ho

theorem Transition.outcome_of_refusal {refusal : Refusal}
    (ht : Transition p (.create c (.error refusal)) e) :
    ∃ back, e.outcome = .rejected (.spawn jobName.text refusal) back := by
  cases ht with
  | decline => exact ⟨_, rfl⟩

/-- A job is accepted when its thread is made. -/
theorem Transition.creating_of_accepted (ht : Transition p a e) (ho : e.outcome = .accepted)
    (hsub : p.submitting = some s) : s.stage = .creating := by
  cases ht with
  | accept hsub' hst =>
    obtain rfl := Option.some.inj (hsub.symm.trans hsub')
    exact hst
  | move _ m => rcases m.not_a_job with rfl | rfl <;> cases ho
  | _ => cases ho

/-- While a submit holds the lock, no job goes back and none gets a thread. -/
theorem Transition.not_answered (ht : Transition p a e) (hsub : p.submitting = some s)
    (hends : ¬EndsSubmit s.caller (e.after a)) :
    rejected [e.after a] = [] ∧ deed (e.after a) ≠ .accepted := by
  cases ht with
  | refuse hadmits => simp [(isCalling_of_admits hadmits).1] at hsub
  | noRoom hsub' | accept hsub' | decline hsub' =>
    obtain rfl := Option.some.inj (hsub.symm.trans hsub')
    exact absurd ⟨beq_self_eq_true _, by simp [Effect.after]⟩ hends
  | move _ m => rcases m.not_a_job with rfl | rfl <;> exact ⟨rfl, by simp [deed, Effect.after]⟩
  | _ => exact ⟨rfl, by simp [deed, Effect.after]⟩

theorem isFresh_iff : p.isFresh t = true ↔
    p.isCalling t = false ∧ ∀ j ∈ p.threads, j.thread? ≠ some t := by
  simp [isFresh]

/-- A number stays fresh while a submit goes through the list. -/
theorem Transition.isFresh {memory : Bool} (ht : Transition p (.prune c memory) e)
    (h : p.isFresh t = true) : e.state.isFresh t = true := by
  obtain ⟨hcalling, hthreads⟩ := isFresh_iff.1 h
  refine isFresh_iff.2 ⟨?_, fun j' hj' => ?_⟩
  · by_contra hc
    rcases ht.isCalling (by simpa using hc) with hc | ⟨-, ha | ⟨job, ha⟩⟩
    · rw [hcalling] at hc
      cases hc
    · cases ha
    · cases ha
  · rcases ht.mem_changed hj' with ⟨i, j, hj, hchanges⟩ | ⟨x, hmakes⟩
    · rw [hchanges.thread?]
      exact hthreads j (List.mem_of_getElem? hj)
    · cases hmakes

theorem isGone_iff {i : Nat} :
    p.isGone i = true ↔ ∃ j, p.threads[i]? = some j ∧ j.handle.hasExited = true := by
  simp [isGone, Option.any_eq_true]

theorem Transition.isGone (ht : Transition p a e) (hs : ∀ j ∈ p.threads, j.Sound) {i : Nat}
    (hg : p.isGone i = true) : e.state.isGone i = true := by
  obtain ⟨j, hj, hg⟩ := isGone_iff.1 hg
  obtain ⟨j', hj', hc⟩ := ht.changes hj
  exact isGone_iff.2 ⟨j', hj', hc.hasExited (hs j (List.mem_of_getElem? hj)) hg⟩

end Step

/-! ## Submits that succeed -/

section TakesJobs

variable {permits : UInt32} {es fs : History τ} {p q : JobPool τ} {s : Submit τ} {c t : ThreadId}
  {job : τ}

/-- No accepted job is forgotten. -/
theorem IsRun.accepted_prefix (h : IsRun permits es p) (hf : Run step p fs q) :
    accepted es <+: accepted (es ++ fs) := by
  refine hf.invariant (fun fs _ => accepted es <+: accepted (es ++ fs))
    (by simp) fun gs v a e hrun ih _ => ?_
  rw [← List.append_assoc, (h.append hrun).accounted.accepted_snoc]
  exact ih.trans (List.prefix_append _ _)

/-- A submit that finds memory comes to the point where the thread is made. -/
theorem IsRun.exists_creating (h : IsRun permits es p) (hsub : p.submitting = some s)
    (hfresh : p.isFresh t = true) : ∃ fs q, Run step p fs q ∧
      (∀ o ∈ fs, o.action = .prune s.caller true) ∧
      q.submitting = some { s with stage := .creating } ∧ q.isFresh t = true := by
  induction hn : s.stage.remaining using Nat.strongRecOn generalizing es p s with
  | ind n ih =>
    by_cases hst : s.stage = .creating
    · exact ⟨[], p, .nil, by simp, by rw [hsub, ← hst], hfresh⟩
    · obtain ⟨e, he⟩ := (h.unhindered hsub).goes_on hst true
      have ht := transition_of_step h.sound he
      rcases ht.nearer hsub (beq_self_eq_true _) with ⟨hends, -⟩ | ⟨-, stage, hsub', hlt⟩
      · -- There is memory, so the submit does not end here.
        rcases hends.2 with ho | ⟨error, back, ho⟩
        · exact absurd (ht.creating_of_accepted ho hsub) hst
        · exact absurd ho (ht.not_rejected (.inl rfl) error back)
      · obtain ⟨fs, q, hrun, hall, hq⟩ := ih _ (hn ▸ hlt) (h.snoc he) hsub' (ht.isFresh hfresh) rfl
        exact ⟨e.after _ :: fs, q, .cons he hrun, List.forall_mem_cons.2 ⟨rfl, hall⟩, hq⟩

/-- Whoever submits a job gets a thread for it, if there is memory and the operating system makes
    one, and the job runs. -/
theorem IsRun.takesJobs (h : IsRun permits es p) : TakesJobs es p where
  reached c job t hopen ha hfresh hne := by
    have he : p.step (.submit c job) = some { state := p.locked c job, outcome := .moved } := by
      simp [step, ha, hopen, locked]
    have hfresh' : (p.locked c job).isFresh t = true := by
      obtain ⟨hcalling, hthreads⟩ := isFresh_iff.1 hfresh
      refine isFresh_iff.2 ⟨?_, hthreads⟩
      rw [isCalling, Bool.or_eq_false_iff] at hcalling ⊢
      exact ⟨hcalling.1, by simp [locked, Ne.symm hne]⟩
    obtain ⟨fs, q, hrun, hall, hsub, hfresh'⟩ := (h.snoc he).exists_creating rfl hfresh'
    exact ⟨fs, q, _, .cons he hrun, hall, createThread_of_isFresh hsub rfl hfresh', rfl,
      by rw [pending, hsub, Option.map_some]⟩
  not_rejected c a e error back ha he := (transition_of_step h.sound he).not_rejected ha error back
  runs c job t e hpending he fs q hf hq hworking hheld := by
    have hr := h.snoc he
    have hjob : (accepted (es ++ [e.after (.create c (.ok t))]))[p.threads.length]? = some job := by
      have hdeed : deed (e.after (.create c (.ok t))) = .accepted := by
        cases transition_of_step h.sound he with
        | accept => rfl
      have hlen : p.threads.length = (accepted es).length := by
        rw [← h.accounted.length, jobs, List.length_map]
      rw [h.accounted.accepted_snoc, hdeed, hpending, hlen]
      exact List.getElem?_concat_length
    obtain ⟨later, hlater⟩ := hr.accepted_prefix hf
    rw [List.append_cons]
    refine (hr.append hf).complete hq hworking hheld ?_
    rw [← hlater, List.getElem?_append_left (List.getElem?_eq_some_iff.1 hjob).1, hjob]

end TakesJobs

/-! ## Submits that fail -/

section Failed

variable {permits : UInt32} {es fs : History τ} {p q v : JobPool τ} {a : Action τ}
  {e f : Effect (JobPool τ) (Outcome τ)} {c : ThreadId} {job : τ}

/-- A thread that is gone stays gone. -/
theorem IsRun.isGone (h : IsRun permits es p) (hf : Run step p fs q) {i : Nat}
    (hg : p.isGone i = true) : q.isGone i = true :=
  hf.invariant (fun _ q => q.isGone i = true) hg fun _ _ _ _ hrun ih he =>
    (transition_of_step (h.append hrun).sound he).isGone (h.append hrun).sound ih

/-- While a submit holds the lock, no job goes back and none gets a thread. -/
theorem IsRun.not_answered (h : IsRun permits es (p.locked c job))
    (hf : Run step (p.locked c job) fs v) (hopen : ∀ o ∈ fs, ¬EndsSubmit c o) :
    rejected fs = [] ∧ accepted (es ++ fs) = accepted es := by
  refine hf.invariant (fun fs _ => (∀ o ∈ fs, ¬EndsSubmit c o) →
    rejected fs = [] ∧ accepted (es ++ fs) = accepted es)
    (fun _ => ⟨rfl, by rw [List.append_nil]⟩) (fun gs v a e hrun ih he hall => ?_) hopen
  obtain ⟨hbefore, hlast⟩ := List.forall_mem_append.1 hall
  obtain ⟨hrejected, haccepted⟩ := ih hbefore
  obtain ⟨-, stage, hsub, -⟩ := h.surveyed rfl hrun hbefore
  have hr := h.append hrun
  obtain ⟨hback, hdeed⟩ := (transition_of_step hr.sound he).not_answered hsub
    (hlast _ (List.mem_singleton_self _))
  refine ⟨by rw [rejected_append, hrejected, hback]; rfl, ?_⟩
  rw [← List.append_assoc, hr.accounted.accepted_snoc, haccepted]
  split
  · next hd => exact absurd hd hdeed
  · exact List.append_nil _

/-- No job goes back twice, if none is handed in twice. -/
theorem Accounted.nodup_rejected (h : Accounted es p) (hdistinct : (submitted es).Nodup) :
    (rejected es).Nodup :=
  (List.nodup_append.1 (List.nodup_append.1 (h.answered.nodup_iff.1 hdistinct)).1).2.1

/-- The threads on the list are different. -/
theorem IsRun.nodup_listed (h : IsRun permits es p) (hidle : p.submitting = none) :
    p.listed.Nodup := by
  rw [← known_of_not_submitting hidle, h.custody.known_eq]
  exact List.nodup_range.filter _

/-- Whatever a submit sees is so. -/
theorem IsRun.saw (h : IsRun permits es q) (hf : Run step q fs v) {m : Moment τ}
    (hm : m ∈ moments step q fs) {i : Nat} {b : Bool} (hlook : look? m = some (i, b)) :
    m.1.isGone i = b := by
  obtain ⟨gs, hgs⟩ := hf.of_mem_moments hm
  obtain ⟨j, hj, hg⟩ := (h.append hgs).look_true hlook
  rw [JobPool.isGone, hj, Option.any_some, hg]

/-- A submit that looks at a thread which was gone before sees that it is gone. -/
theorem IsRun.mem_gone (h : IsRun permits es (p.locked c job))
    (hf : Run step (p.locked c job) fs v) {i : Nat} (hi : i ∈ (survey p c job fs).map Prod.fst)
    (hg : p.isGone i = true) : i ∈ gone (survey p c job fs) := by
  obtain ⟨⟨k, b⟩, hmem, rfl⟩ := List.mem_map.1 hi
  obtain ⟨m, hm, hlook⟩ := List.mem_filterMap.1 hmem
  obtain ⟨gs, hgs⟩ := hf.of_mem_moments hm
  obtain rfl : b = true := (h.saw hf hm hlook).symm.trans (h.isGone hgs hg)
  exact List.mem_map.2 ⟨_, List.mem_filter.2 ⟨hmem, rfl⟩, rfl⟩

/-- A submit that fails answers its own job, and no other. -/
theorem IsRun.answered_attempt (h : IsRun permits (es ++ [⟨.submit c job, .moved, []⟩])
      (p.locked c job)) (hf : Run step (p.locked c job) fs v)
    (hopen : ∀ o ∈ fs, ¬EndsSubmit c o) {o : Occurrence (Action τ) (Outcome τ)} {error : Error}
    (hback : o.outcome = .rejected error job) (ha : isSubmitStep c o.action = true) :
    rejected (attempt c job fs o) = [job] ∧ accepted (es ++ attempt c job fs o) = accepted es := by
  obtain ⟨hrejected, haccepted⟩ := h.not_answered hf hopen
  obtain ⟨action, outcome, notices⟩ := o
  cases hback
  have hdeed : deed ⟨action, .rejected error job, notices⟩ = .declined job := by
    cases action <;> first | rfl | cases ha
  constructor
  · rw [attempt, ← List.singleton_append, rejected_append, rejected_append, hrejected]
    rfl
  · rw [attempt, List.append_cons, ← List.append_assoc, (h.append hf).accounted.accepted_snoc,
      haccepted, hdeed, List.append_nil, accepted, desk_snoc]
    rfl

namespace Undone

variable {o : Occurrence (Action τ) (Outcome τ)} {error : Error} {u : JobPool τ}

/-- The list is the old one without the threads that were gone. -/
theorem listed_eq (h : Undone p c job fs o error q u) :
    q.listed = p.listed.filter fun i => i ∉ gone (survey p c job fs) := by
  rw [← h.list.1]
  exact congrArg JobPool.listed h.pruned

theorem not_mem_listed (h : Undone p c job fs o error q u) {i : Nat} (hi : i ∈ p.listed) :
    i ∉ q.listed ↔ i ∈ gone (survey p c job fs) := by
  simp [h.listed_eq, hi]

/-- The submit did nothing to the threads but join those that were gone. -/
theorem isGone_eq (h : Undone p c job fs o error q u) (i : Nat) : q.isGone i = u.isGone i := by
  have hthreads : q.threads = u.threads.mapIdx fun i j =>
      if i ∈ gone (survey p c job fs) then j.joined else j := congrArg JobPool.threads h.pruned
  rw [isGone, hthreads, List.getElem?_mapIdx, Option.any_map]
  refine congrArg (Option.any · _) (funext fun j => ?_)
  split <;> rfl

theorem isGone_of_mem (h : Undone p c job fs o error q u) {i : Nat} (hi : i < q.threads.length)
    (hgone : i ∈ gone (survey p c job fs)) : q.isGone i = true := by
  have hlen : q.threads.length = u.threads.length := by
    rw [congrArg JobPool.threads h.pruned]
    exact List.length_mapIdx
  have hj := List.getElem?_eq_getElem (hlen ▸ hi)
  exact (h.isGone_eq i).trans (isGone_iff.2 ⟨_, hj, h.exited i hgone _ hj⟩)

/-- What happens later happens in the pool that was only pruned, but for room. -/
theorem as_if (h : Undone p c job fs o error q u) {gs : History τ} {r : JobPool τ}
    (hroom : q.capacity = p.capacity ∨ (∀ x ∈ gs, findsMemory x.action = true)) :
    (∃ n, Run step q gs (r.withRoom n)) ↔
      ∃ n, Run step (u.forgetting (gone (survey p c job fs))) gs (r.withRoom n) := by
  rw [h.pruned]
  rcases hroom with hsame | hmemory
  · have hnothing : (u.forgetting (gone (survey p c job fs))).withRoom q.capacity =
        u.forgetting (gone (survey p c job fs)) := by
      rw [hsame, ← h.list.2]
      rfl
    rw [hnothing]
  · exact exists_run_withRoom_iff hmemory q.capacity

end Undone

/-- What a submit leaves that took the lock and failed. -/
theorem IsRun.failedSubmit (h : IsRun permits es p) (he : p.step (.submit c job) = some e)
    (hmoved : e.outcome = .moved) (hf : Run step e.state fs v)
    (hopen : ∀ o ∈ fs, ¬EndsSubmit c o) (hlast : v.step a = some f)
    (ha : isSubmitStep c a = true) {error : Error} {back : τ}
    (ho : f.outcome = .rejected error back) :
    ∃ u, FailedSubmit permits es p c job fs (f.after a) error f.state u := by
  have hr := h.snoc he
  rcases submit_cases he with ⟨-, rfl⟩ | ⟨hunshut, hidle, rfl⟩
  · cases hmoved
  obtain ⟨u, hundone⟩ := hr.undone hidle (h.nodup_listed hidle) hf hopen hlast ho
  obtain ⟨hrejected, haccepted⟩ := IsRun.answered_attempt hr hf hopen hundone.back ha
  have hwhole : IsRun permits (es ++ attempt c job fs (f.after a)) f.state := by
    have hwhole := (hr.append hf).snoc hlast
    simpa [attempt, Effect.after] using hwhole
  have hdropped (gs : History τ) : rejected (es ++ attempt c job fs (f.after a) ++ gs) =
      rejected es ++ job :: rejected gs := by
    rw [rejected_append, rejected_append, hrejected, List.append_assoc, List.singleton_append]
  obtain ⟨hlen, stage, hsub, -⟩ := hr.surveyed rfl hf hopen
  have hv := hr.append hf
  have ht := transition_of_step hv.sound hlast
  obtain ⟨-, hshutdown, -, -⟩ := ht.spares ha
  have hlength : f.state.threads.length = p.threads.length := (ht.length_of_rejected ha ho).trans hlen
  exact ⟨u, { hundone with
    dropped := hdropped
    not_accepted := haccepted
    once := fun gs r hgs hdistinct => by
      refine ⟨hgs.accounted.nodup_rejected hdistinct, (hgs.accounted.distinct hdistinct).2 job ?_⟩
      rw [hdropped]
      exact List.mem_append_right _ List.mem_cons_self
    saw := fun m hm i b hlook => IsRun.saw hr hf hm hlook
    listed := hundone.listed_eq
    forgotten := fun i hi => by
      rw [hundone.not_mem_listed hi]
      refine ⟨IsRun.mem_gone hr hf (hundone.looked.symm ▸ hi), hundone.isGone_of_mem ?_⟩
      exact hlength ▸ h.orderly.known_lt i (by rwa [known_of_not_submitting hidle])
    spared := ⟨hlength, (congrArg JobPool.permits hundone.pruned).trans rfl,
      by rw [hshutdown, (hv.orderly.of_submitting hsub).1, hunshut],
      (congrArg JobPool.submitting hundone.pruned).trans hundone.idle⟩
    alone := fun hnone => Run.of_nil (hnone ▸ hundone.without)
    as_if := fun gs r hroom => hundone.as_if hroom
    later := fun gs r hgs => (hwhole.append hgs).takesJobs }⟩

/-- A step that changed nothing need not have been taken. -/
theorem IsRun.forget (h : IsRun permits es p) (he : p.step a = some e) (hsame : e.state = p) :
    IsRun permits (es ++ e.after a :: fs) q ↔ IsRun permits (es ++ fs) q := by
  obtain ⟨new, hnew, hrun⟩ := h
  refine exists_congr fun x => and_congr_right fun hx => ?_
  obtain rfl := Except.ok.inj (hnew.symm.trans hx)
  exact hrun.forget he hsame

/-- Submits that fail leave the pool as it was, up to the threads that were gone: whether the pool
    is shut down, or there is no memory, or the operating system makes no thread. -/
theorem IsRun.fails_cleanly (h : IsRun permits es p) : FailsCleanly permits es p where
  shut_down a e job he ho := by
    cases transition_of_step h.sound he with
    | refuse _ hshut =>
      cases ho
      exact ⟨rfl, ⟨_, rfl⟩, hshut, fun fs q => h.forget he rfl⟩
    | move _ m => cases m <;> cases ho
    | _ => cases ho
  spares c a e he ha := (transition_of_step h.sound he).spares ha
  failed c job e fs v a f error back he hmoved hf hopen hlast ha ho :=
    h.failedSubmit he hmoved hf hopen hlast ha ho

/-- Of two jobs the first panicked and its thread is gone, and the second is running. A submit
    joins the first thread and keeps the second one, whose job ends meanwhile, and then the
    operating system makes no thread. -/
theorem fails_cleanly_beside_a_job :
    ∃ (es : History Nat) (p : JobPool Nat), IsRun 2 es p ∧ p.listed = [0, 1] ∧
      FailsCleanly 2 es p ∧ ∃ fs o error q u, FailedSubmit 2 es p 8 12 fs o error q u ∧
        (others 8 fs).length = 1 ∧ q.listed = [1] ∧ q.permits.count = 1 := by
  obtain ⟨es, p, h, hf⟩ := exists_isRun 2
    [.submit 7 10, .prune 7 true, .create 7 (.ok 1), .submit 7 11, .prune 7 true, .prune 7 true,
      .create 7 (.ok 2), .advance 0 none, .advance 0 none, .advance 0 none, .advance 0 none,
      .advance 1 none, .advance 1 none, .advance 1 none, .advance 1 none, .jobEnded 0 true,
      .advance 0 none, .advance 0 none, .advance 0 none]
    (fun _ p => p.listed == [0, 1] && !p.shutdown && (p.step (.submit 8 12)).any fun e =>
      (play step e.state [.prune 8 true, .jobEnded 1 false, .prune 8 true, .prune 8 true,
        .prune 8 true]).any fun (x : History Nat × JobPool Nat) =>
      decide (∀ o ∈ x.1, ¬EndsSubmit 8 o) && (others 8 x.1).length == 1 &&
      (x.2.step (.create 8 (.error (.other "")))).any fun f =>
      f.state.listed == [1] && f.state.permits.count == 1)
    true (by decide)
  simp only [Bool.and_eq_true, Bool.not_eq_true', beq_iff_eq, Option.any_eq_true,
    decide_eq_true_eq] at hf
  obtain ⟨⟨hlisted, hunshut⟩, e, he, ⟨fs, v⟩, hplay, ⟨hopen, hothers⟩, f, hlast, hend⟩ := hf
  have hmoved : e.outcome = .moved := by
    rcases submit_cases he with ⟨hshut, -⟩ | ⟨-, -, rfl⟩
    · rw [hunshut] at hshut
      cases hshut
    · rfl
  have hanswer : v.createThread 8 (.error (.other "")) = some f := hlast
  obtain ⟨back, hback⟩ := (transition_of_create hanswer).outcome_of_refusal
  have hclean := h.fails_cleanly
  obtain ⟨u, hfailed⟩ := hclean.failed 8 12 e fs v _ f _ back he hmoved (run_of_play hplay) hopen
    hlast rfl hback
  exact ⟨es, p, h, hlisted, hclean, fs, _, _, f.state, u, hfailed, hothers, hend⟩

end Failed

end Threading.JobPool

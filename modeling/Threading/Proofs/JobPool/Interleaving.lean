import Mathlib.Data.List.Nodup
import Threading.Proofs.JobPool.Listing
import Threading.Proofs.JobPool.Locality

/-!
# Submits among the steps of others

While a submit holds the lock of a pool, the threads of the pool go on. Whatever they do they
could do as well if the call had not been made: the submit does nothing to a thread that is
still there, and a thread looks at nothing that a submit changes. So at every moment the pool
is the one to which the steps of the others alone would have led, but for the list, for the
threads that the submit saw to be gone, and for room (`Beside`, `IsRun.beside`).

If the submit fails, the lock is free again, and nothing is left of the call but that these
threads are joined and forgotten (`forgetting`, `IsRun.undone`).
-/

namespace Threading

/-- The thread, joined by somebody who is done waiting for it. -/
def JobThread.joined {τ : Type} (j : JobThread τ) : JobThread τ :=
  { j with handle := { j.handle with stage := .joined, joinable := none, joiner := none } }

namespace JobPool

variable {τ : Type}

/-- The threads that were gone when a submit looked. -/
def gone (seen : List (Nat × Bool)) : List Nat := (seen.filter Prod.snd).map Prod.fst

/-- The pool, with these threads joined and forgotten. -/
def forgetting (p : JobPool τ) (is : List Nat) : JobPool τ :=
  { p with
    threads := p.threads.mapIdx fun i j => if i ∈ is then j.joined else j
    listed := p.listed.filter fun i => i ∉ is }

/-- The pool, when a submit of `job` by `c` has just taken the lock. -/
def locked (p : JobPool τ) (c : ThreadId) (job : τ) : JobPool τ :=
  { p with submitting := some ⟨c, job, .pruning [] p.listed⟩ }

/-- What a submit of `job` by `c` to the pool `p` saw while `fs` happened. -/
def survey (p : JobPool τ) (c : ThreadId) (job : τ) (fs : History τ) : List (Nat × Bool) :=
  looks (moments step (p.locked c job) fs)

/-- What others did while the submit of `c` held the lock. -/
def others (c : ThreadId) (fs : History τ) : History τ :=
  fs.filter fun o => !isSubmitStep c o.action

/-- What a submit of `c` that saw that the threads `is` are gone, and waits for the thread
    `awaited`, did to the thread `i`. -/
def touched (c : ThreadId) (is : List Nat) (awaited : Option Nat) (i : Nat) (j : JobThread τ) :
    JobThread τ :=
  if i ∈ is then if awaited = some i then j.marked c else j.joined else j

/-- The pool `v`, in which a submit of `job` by `c` came to this stage and saw that the threads
    `is` are gone, is `u` but for what the submit did. -/
structure Beside (p u : JobPool τ) (c : ThreadId) (job : τ) (is : List Nat)
    (stage : Submitting) (v : JobPool τ) : Prop where
  idle : u.submitting = none
  submitting : v.submitting = some ⟨c, job, stage⟩
  permits : v.permits = u.permits
  calls : v.shutdown = u.shutdown ∧ v.destroys = u.destroys ∧ v.abandoned = u.abandoned
  threads : v.threads = u.threads.mapIdx (touched c is stage.awaited)
  list : u.listed = p.listed ∧ u.capacity = p.capacity
  room : stage = .creating ∨ v.capacity = p.capacity
  awaited : ∀ i, stage.awaited = some i → i ∈ is
  exited : ∀ i ∈ is, ∀ j, u.threads[i]? = some j → j.handle.hasExited = true

/-- A submit of `job` by `c` took the lock of the pool `p`, held it while `fs` happened, and failed
    with `error` by the step `o`. Now the pool is `q`, and without the call it would be `u`. -/
structure Undone (p : JobPool τ) (c : ThreadId) (job : τ) (fs : History τ)
    (o : Occurrence (Action τ) (Outcome τ)) (error : Error) (q u : JobPool τ) : Prop where
  /-- There is no memory for a full list to grow, or the operating system makes no thread. -/
  cause : (error = .allocation .exhausted ∧ o.action = .prune c false ∧
      q.capacity ≤ q.listed.length ∧ q.capacity = p.capacity) ∨
    ∃ refusal, error = .spawn jobName.text refusal ∧ o.action = .create c (.error refusal)
  back : o.outcome = .rejected error job
  /-- The submit looked at every thread on the list, in order. -/
  looked : (survey p c job fs).map Prod.fst = p.listed
  /-- What the others did, they could do without the call, -/
  without : Run step p (others c fs) u
  /-- and it leads to the same pool, but for the threads that were gone, and for room. -/
  pruned : q = (u.forgetting (gone (survey p c job fs))).withRoom q.capacity
  list : u.listed = p.listed ∧ u.capacity = p.capacity
  idle : u.submitting = none
  exited : ∀ i ∈ gone (survey p c job fs), ∀ j, u.threads[i]? = some j → j.handle.hasExited = true

/-! ## What a submit saw -/

section Seen

variable {seen : List (Nat × Bool)} {i : Nat}

theorem gone_append (seen new : List (Nat × Bool)) :
    gone (seen ++ new) = gone seen ++ gone new := by
  rw [gone, List.filter_append, List.map_append, gone, gone]

/-- The threads that a submit keeps are those on the list that were not gone. -/
theorem there_eq_filter (hn : (seen.map Prod.fst).Nodup) :
    there seen = (seen.map Prod.fst).filter fun i => i ∉ gone seen := by
  rw [there, List.filter_map]
  refine congrArg (List.map Prod.fst) (List.filter_congr fun x hx => ?_)
  have hiff : x.1 ∈ gone seen ↔ x.2 = true := by
    rw [gone, List.mem_map]
    constructor
    · rintro ⟨y, hy, heq⟩
      obtain ⟨hy, hgone⟩ := List.mem_filter.1 hy
      -- A thread is looked at once.
      obtain rfl := List.inj_on_of_nodup_map hn hy hx heq
      exact hgone
    · exact fun hgone => ⟨x, List.mem_filter.2 ⟨hx, hgone⟩, rfl⟩
  simp only [Function.comp_apply, hiff]
  cases x.2 <;> rfl

end Seen

/-! ## One step -/

section Step

variable {permits : UInt32} {es fs : History τ} {p q u v : JobPool τ} {a : Action τ}
  {e : Effect (JobPool τ) (Outcome τ)} {c : ThreadId} {job : τ} {is : List Nat}
  {stage : Submitting} {i : Nat} {j j' : JobThread τ}
  {ms : List (Moment τ)}

theorem hasExited_touched (awaited : Option Nat) (j : JobThread τ) :
    (touched c is awaited i j).handle.hasExited = j.handle.hasExited := by
  rw [touched]
  split
  · split <;> rfl
  · rfl

/-- A thread in the closure is not gone. -/
theorem hasExited_of_place (hs : ∀ j ∈ p.threads, j.Sound) (hj : p.threads[i]? = some j)
    (hp : j.place ≠ .outside) : j.handle.hasExited = false := by
  by_contra hg
  exact hp ((hs j (List.mem_of_getElem? hj)).outside_of_hasExited (by simpa using hg))

/-- A thread that is gone takes no step, -/
theorem Transition.hasExited_of_advance {chosen : Option ThreadId} (hs : ∀ j ∈ p.threads, j.Sound)
    (ht : Transition p (.advance i chosen) e) :
    ∃ j, p.threads[i]? = some j ∧ j.handle.hasExited = false := by
  cases ht with
  | @move i chosen j j' o hj m =>
    exact ⟨j, hj, by cases m <;> simp_all [Handle.hasExited, Progress.isOver]⟩
  | take hj _ ha | sleep hj _ ha =>
    refine ⟨_, hj, hasExited_of_place hs hj ?_⟩
    rcases place_of_asks ha with hp | hp <;> simp [hp]
  | giveBack hj hp => exact ⟨_, hj, hasExited_of_place hs hj (by simp [hp])⟩

/-- and is in no job. -/
theorem Transition.hasExited_of_jobEnded {panicked : Bool} (hs : ∀ j ∈ p.threads, j.Sound)
    (ht : Transition p (.jobEnded i panicked) e) :
    ∃ j, p.threads[i]? = some j ∧ j.handle.hasExited = false := by
  cases ht with
  | finish hj hp => exact ⟨_, hj, hasExited_of_place hs hj (by simp [hp])⟩

/-- While a submit holds the lock, the others are threads. -/
theorem Transition.of_other {s : Submit τ} (ht : Transition p a e) (ho : Orderly p)
    (hsub : p.submitting = some s) (ha : isSubmitStep s.caller a = false) :
    (∃ i chosen, a = .advance i chosen) ∨ (∃ i panicked, a = .jobEnded i panicked) ∨
      ∃ t, a = .stir t := by
  cases ht with
  | keep hsub' | forget hsub' | pruneMark hsub' | pruneCollect hsub' | noRoom hsub'
  | makeRoom hsub' | accept hsub' | decline hsub' =>
    obtain rfl := Option.some.inj (hsub.symm.trans hsub')
    simp [isSubmitStep] at ha
  | refuse hadmits | submit hadmits | call hadmits => simp [(isCalling_of_admits hadmits).1] at hsub
  | pass hd | mark hd | collect hd | finishDestroy hd => simp [(ho.of_destroying hd).2.2] at hsub
  | abandon _ _ hnone => simp [hnone] at hsub
  | move | take | sleep | giveBack => exact .inl ⟨_, _, rfl⟩
  | finish => exact .inr (.inl ⟨_, _, rfl⟩)
  | stir => exact .inr (.inr ⟨_, rfl⟩)

/-- A submit does nothing to a thread that is still there. -/
theorem touched_of_not_gone (hi : i ∉ is) (awaited : Option Nat) (j : JobThread τ) :
    touched c is awaited i j = j := if_neg hi

namespace Beside

theorem getElem?_eq (h : Beside p u c job is stage v) (i : Nat) :
    v.threads[i]? = u.threads[i]?.map (touched c is stage.awaited i) := by
  rw [h.threads, List.getElem?_mapIdx]

/-- A thread that is still there is not one that the submit saw to be gone. -/
theorem not_gone (h : Beside p u c job is stage v) (hj : v.threads[i]? = some j)
    (hg : j.handle.hasExited = false) : i ∉ is ∧ u.threads[i]? = some j := by
  rw [h.getElem?_eq, Option.map_eq_some_iff] at hj
  obtain ⟨j₀, hj₀, rfl⟩ := hj
  have hi : i ∉ is := by
    intro hi
    rw [hasExited_touched, h.exited i hi j₀ hj₀] at hg
    cases hg
  exact ⟨hi, by rw [touched_of_not_gone hi, hj₀]⟩

/-- A thread that is still there changes in both pools. -/
theorem set (h : Beside p u c job is stage v) (hi : i ∉ is) (permits : Semaphore)
    (j' : JobThread τ) :
    Beside p { u with permits, threads := u.threads.set i j' } c job is stage
      { v with permits, threads := v.threads.set i j' } where
  idle := h.idle
  submitting := h.submitting
  permits := rfl
  calls := h.calls
  threads := by
    dsimp only
    rw [h.threads, List.mapIdx_set, touched_of_not_gone hi]
  list := h.list
  room := h.room
  awaited := h.awaited
  exited k hk v hv := by
    have hik : i ≠ k := fun hik => hi (hik ▸ hk)
    exact h.exited k hk v (by rwa [List.getElem?_set_ne hik] at hv)

/-- What others do while the submit holds the lock, they can do without it. -/
theorem other (h : Beside p u c job is stage v) (ho : Orderly v)
    (hs : ∀ j ∈ v.threads, j.Sound) (he : v.step a = some e) (ha : isSubmitStep c a = false) :
    ∃ f, u.step a = some f ∧ f.after a = e.after a ∧
      Beside p f.state c job is stage e.state := by
  have ht := transition_of_step hs he
  rcases ht.of_other ho h.submitting ha with ⟨i, chosen, rfl⟩ | ⟨i, panicked, rfl⟩ | ⟨t, rfl⟩
  · obtain ⟨j, hj, hg⟩ := ht.hasExited_of_advance hs
    obtain ⟨hi, hj'⟩ := h.not_gone hj hg
    obtain ⟨permits, j', hstate, hu⟩ := advance_elsewhere hj hj' h.permits.symm he
    exact ⟨_, hu, rfl, hstate ▸ h.set hi permits j'⟩
  · obtain ⟨j, hj, hg⟩ := ht.hasExited_of_jobEnded hs
    obtain ⟨hi, hj'⟩ := h.not_gone hj hg
    have hcalling (t : ThreadId) (hc : u.isCalling t = true) : v.isCalling t = true := by
      simp only [JobPool.isCalling, destroying, h.idle, h.calls.2.1, Option.any_none, Bool.or_false,
        Bool.or_eq_true] at hc ⊢
      exact .inl hc
    obtain ⟨permits, j', hstate, hu⟩ := jobEnded_elsewhere hj hj' h.permits.symm hcalling he
    exact ⟨_, hu, rfl, hstate ▸ h.set hi permits j'⟩
  · obtain ⟨permits, hstate, hu⟩ := stir_elsewhere h.permits.symm he
    exact ⟨_, hu, rfl, hstate ▸ { h with permits := rfl }⟩

/-- A submit that does something to one thread does nothing to the others. -/
theorem set_touched (h : Beside p u c job is stage v) (is' : List Nat) (awaited : Option Nat)
    (hj : u.threads[i]? = some j) (hother : ∀ k (x : JobThread τ), k ≠ i →
      touched c is' awaited k x = touched c is stage.awaited k x) :
    v.threads.set i (touched c is' awaited i j) = u.threads.mapIdx (touched c is' awaited) := by
  refine List.ext_getElem? fun k => ?_
  rw [List.getElem?_mapIdx]
  by_cases hik : k = i
  · subst hik
    rw [getElem?_set_self_of_some (by rw [h.getElem?_eq, hj, Option.map_some]), hj, Option.map_some]
  · rw [List.getElem?_set_ne (Ne.symm hik), h.getElem?_eq]
    exact congrArg (Option.map · _) (funext fun x => (hother k x hik).symm)

theorem mark {kept rest : List Nat} (h : Beside p u c job is (.pruning kept (i :: rest)) v)
    (hj : v.threads[i]? = some j) (hr : j.handle.stage = .running)
    (hg : j.handle.hasExited = true) :
    Beside p u c job (is ++ [i]) (.collecting kept i rest)
      { v with
        threads := v.threads.set i (j.marked c)
        submitting := some ⟨c, job, .collecting kept i rest⟩ } := by
  obtain ⟨j₀, hj₀, htouched⟩ := Option.map_eq_some_iff.1 ((h.getElem?_eq i).symm.trans hj)
  -- The submit did nothing to the thread yet, since it can still be joined.
  have hi : i ∉ is := by
    intro hi
    obtain rfl : j₀.joined = j := by simpa [touched, hi, Submitting.awaited] using htouched
    cases hr
  obtain rfl : j₀ = j := (touched_of_not_gone hi _ _).symm.trans htouched
  have hset := h.set_touched (is ++ [i]) (some i) hj₀ fun k x hk => by
    simp [touched, hk, Ne.symm hk, Submitting.awaited]
  have hmarked : touched c (is ++ [i]) (some i) i j₀ = j₀.marked c := by simp [touched]
  exact { h with
    submitting := rfl
    threads := hmarked ▸ hset
    room := .inr (h.room.resolve_left (by simp))
    awaited := by simp [Submitting.awaited]
    exited := fun k hk x hx => by
      rcases List.mem_append.1 hk with hk | hk
      · exact h.exited k hk x hx
      · obtain rfl := List.mem_singleton.1 hk
        obtain rfl := Option.some.inj (hj₀.symm.trans hx)
        exact hg }

theorem collect {kept rest : List Nat} (h : Beside p u c job is (.collecting kept i rest) v)
    (hj : v.threads[i]? = some j) :
    Beside p u c job is (.pruning kept rest)
      { v with
        threads := v.threads.set i j.collected
        submitting := some ⟨c, job, .pruning kept rest⟩ } := by
  obtain ⟨j₀, hj₀, htouched⟩ := Option.map_eq_some_iff.1 ((h.getElem?_eq i).symm.trans hj)
  have hi := h.awaited i rfl
  obtain rfl : j₀.marked c = j := by simpa [touched, hi, Submitting.awaited] using htouched
  have hset := h.set_touched is none hj₀ fun k x hk => by
    simp [touched, Ne.symm hk, Submitting.awaited]
  have hcollected : touched c is none i j₀ = (j₀.marked c).collected := by
    rw [touched, if_pos hi, if_neg (by simp)]
    rfl
  exact { h with
    submitting := rfl
    threads := hcollected ▸ hset
    room := .inr (h.room.resolve_left (by simp))
    awaited := by simp [Submitting.awaited] }

/-- A submit that goes on changes its list and its stage, and the threads that it saw to be
    gone. -/
theorem own (h : Beside p u c job is stage v) (hc : Custody es ms v)
    (hs : ∀ j ∈ v.threads, j.Sound) (ht : Transition v a e) (ha : isSubmitStep c a = true)
    (hends : ¬EndsSubmit c (e.after a)) :
    ∃ stage' new, gone (look? (v, e.after a)).toList = new ∧
      Beside p u c job (is ++ new) stage' e.state := by
  cases ht with
  | @keep s memory kept rest i j hsub hst hj hr hg =>
    obtain rfl := Option.some.inj (h.submitting.symm.trans hsub)
    obtain rfl : stage = .pruning kept (i :: rest) := hst
    refine ⟨.pruning (kept ++ [i]) rest, [], ?_, ?_⟩
    · rw [look?_of_running rfl hsub rfl hj (hs j (List.mem_of_getElem? hj)) hr, hg]
      rfl
    · rw [List.append_nil]
      exact { h with
        submitting := rfl
        room := .inr (h.room.resolve_left (by simp))
        awaited := by simp [Submitting.awaited] }
  | forget hsub hst hj hr =>
    obtain rfl := Option.some.inj (h.submitting.symm.trans hsub)
    exact absurd (hc.running_of_pruning hsub hst hj) hr
  | @pruneMark s memory kept rest i j hsub hst hj hr hg hcur =>
    obtain rfl := Option.some.inj (h.submitting.symm.trans hsub)
    obtain rfl : stage = .pruning kept (i :: rest) := hst
    refine ⟨.collecting kept i rest, [i], ?_, h.mark hj hr hg⟩
    rw [look?_of_running rfl hsub rfl hj (hs j (List.mem_of_getElem? hj)) hr, hg]
    rfl
  | @pruneCollect s memory kept rest i j result hsub hst hj hjoiner hg =>
    obtain rfl := Option.some.inj (h.submitting.symm.trans hsub)
    obtain rfl : stage = .collecting kept i rest := hst
    refine ⟨.pruning kept rest, [], by simp [look?, errand?, Effect.after, hsub, gone], ?_⟩
    rw [List.append_nil]
    exact h.collect hj
  | @makeRoom s memory kept capacity hsub hst hroom =>
    obtain rfl := Option.some.inj (h.submitting.symm.trans hsub)
    obtain rfl : stage = .pruning kept [] := hst
    refine ⟨.creating, [], by simp [look?, errand?, Effect.after, hsub, gone], ?_⟩
    rw [List.append_nil]
    exact { h with submitting := rfl, room := .inl rfl, awaited := by simp [Submitting.awaited] }
  | noRoom | decline => exact absurd ⟨ha, .inr ⟨_, _, rfl⟩⟩ hends
  | accept => exact absurd ⟨ha, .inl rfl⟩ hends
  | _ => cases ha

/-- When the lock is free again, nothing is left of the submit but what it did to its list and to
    the threads that it saw to be gone. -/
theorem unlocked (h : Beside p u c job is stage v) (hst : stage.awaited = none)
    {kept : List Nat} (hkept : kept = p.listed.filter fun i => i ∉ is) :
    ({ v with listed := kept, submitting := none } : JobPool τ) =
      (u.forgetting is).withRoom v.capacity := by
  have hthreads : v.threads = u.threads.mapIdx fun i j => if i ∈ is then j.joined else j := by
    rw [h.threads, hst]
    rfl
  obtain ⟨hshutdown, hdestroys, habandoned⟩ := h.calls
  simp only [forgetting, withRoom, JobPool.mk.injEq, true_and]
  exact ⟨h.permits, hthreads, h.list.1 ▸ hkept, hshutdown, h.idle.symm, hdestroys, habandoned⟩

end Beside

end Step

/-! ## A whole submit -/

section Submit

variable {permits : UInt32} {es fs : History τ} {p q u v : JobPool τ} {a : Action τ}
  {e f : Effect (JobPool τ) (Outcome τ)} {c : ThreadId} {job : τ}

/-- A submit is refused at once, or takes the lock. -/
theorem submit_cases (he : p.step (.submit c job) = some e) :
    (p.shutdown = true ∧ e = { state := p, outcome := .rejected .shutDown job }) ∨
    (p.shutdown = false ∧ p.submitting = none ∧
      e = { state := p.locked c job, outcome := .moved }) := by
  cases transition_of_submit he with
  | refuse _ hshut => exact .inl ⟨hshut, rfl⟩
  | submit ha hopen => exact .inr ⟨hopen, (isCalling_of_admits ha).1, rfl⟩

theorem others_snoc (c : ThreadId) (fs : History τ) (o : Occurrence (Action τ) (Outcome τ)) :
    others c (fs ++ [o]) = others c fs ++ if isSubmitStep c o.action then [] else [o] := by
  rw [others, List.filter_append, List.filter_singleton]
  cases isSubmitStep c o.action <;> rfl

/-- What others do while a submit holds the lock, they can do without it, to the same end but for
    what the submit did. -/
theorem IsRun.beside (h : IsRun permits es (p.locked c job)) (hidle : p.submitting = none)
    (hf : Run step (p.locked c job) fs v) (hopen : ∀ o ∈ fs, ¬EndsSubmit c o) :
    ∃ u stage, Run step p (others c fs) u ∧
      Beside p u c job (gone (survey p c job fs)) stage v := by
  refine hf.invariant (fun fs v => (∀ o ∈ fs, ¬EndsSubmit c o) → ∃ u stage,
    Run step p (others c fs) u ∧ Beside p u c job (gone (survey p c job fs)) stage v)
    (fun _ => ⟨p, .pruning [] p.listed, .nil, ?_⟩) (fun gs v a e hrun ih he hall => ?_) hopen
  · exact {
      idle := hidle
      submitting := rfl
      permits := rfl
      calls := ⟨rfl, rfl, rfl⟩
      threads := by
        refine List.ext_getElem? fun i => ?_
        rw [List.getElem?_mapIdx]
        cases hi : p.threads[i]? <;> simp [locked, hi, touched, survey, moments, looks, gone]
      list := ⟨rfl, rfl⟩
      room := .inr rfl
      awaited := by simp [Submitting.awaited]
      exited := fun i hi => absurd hi List.not_mem_nil }
  · obtain ⟨hbefore, hlast⟩ := List.forall_mem_append.1 hall
    obtain ⟨u, stage, hu, hbeside⟩ := ih hbefore
    have hr := h.append hrun
    have ht := transition_of_step hr.sound he
    rw [survey, hrun.moments_snoc, looks, filterMap_snoc, gone_append, others_snoc]
    cases ha : isSubmitStep c a with
    | true =>
      obtain ⟨stage', new, hnew, hbeside'⟩ :=
        hbeside.own hr.custody hr.sound ht ha (hlast _ (List.mem_singleton_self _))
      refine ⟨u, stage', ?_, hnew.symm ▸ hbeside'⟩
      rw [Effect.after, if_pos ha, List.append_nil]
      exact hu
    | false =>
      obtain ⟨g, hg, hsame, hbeside'⟩ := hbeside.other hr.orderly hr.sound he ha
      refine ⟨g.state, stage, ?_, ?_⟩
      · rw [Effect.after, if_neg (by simp [ha]), ← Effect.after, ← hsame]
        exact hu.snoc hg
      · rw [ht.look?_eq_none hbeside.submitting ha]
        simpa [gone, survey, looks] using hbeside'

/-- A submit that looked at the whole list and failed leaves nothing but what it did to the list
    and to the threads that it saw to be gone. -/
theorem Beside.undone {stage : Submitting} {kept : List Nat} {error : Error}
    {o : Occurrence (Action τ) (Outcome τ)}
    (h : Beside p u c job (gone (survey p c job fs)) stage v) (hu : Run step p (others c fs) u)
    (hst : stage.awaited = none) (hnodup : p.listed.Nodup)
    (hseen : (survey p c job fs).map Prod.fst = p.listed)
    (hkept : kept = there (survey p c job fs)) (hback : o.outcome = .rejected error job)
    (hcause : (error = .allocation .exhausted ∧ o.action = .prune c false ∧
        v.capacity ≤ kept.length ∧ v.capacity = p.capacity) ∨
      ∃ refusal, error = .spawn jobName.text refusal ∧ o.action = .create c (.error refusal)) :
    Undone p c job fs o error { v with listed := kept, submitting := none } u where
  cause := hcause
  back := hback
  looked := hseen
  without := hu
  pruned := h.unlocked hst (by rw [hkept, there_eq_filter (hseen ▸ hnodup), hseen])
  list := h.list
  idle := h.idle
  exited := h.exited

/-- A submit that fails after it took the lock leaves the pool to which the steps of the others
    lead, without the threads that it saw to be gone. -/
theorem IsRun.undone (h : IsRun permits es (p.locked c job)) (hidle : p.submitting = none)
    (hnodup : p.listed.Nodup) (hf : Run step (p.locked c job) fs v)
    (hopen : ∀ o ∈ fs, ¬EndsSubmit c o) (he : v.step a = some e) {error : Error} {back : τ}
    (ho : e.outcome = .rejected error back) :
    ∃ u, Undone p c job fs (e.after a) error e.state u := by
  obtain ⟨u, stage, hu, hbeside⟩ := h.beside hidle hf hopen
  obtain ⟨-, stage', hsub, hsurveyed⟩ := h.surveyed rfl hf hopen
  obtain rfl : stage = stage' := by
    have hsame := hbeside.submitting.symm.trans hsub
    cases hsame
    rfl
  cases transition_of_step (h.append hf).sound he with
  | @noRoom s memory kept hsub' hst hfull =>
    cases ho
    obtain rfl := Option.some.inj (hsub.symm.trans hsub')
    obtain rfl : stage = .pruning kept [] := hst
    obtain ⟨hseen, hkept⟩ := hsurveyed
    rw [List.append_nil] at hseen
    obtain ⟨hlen, rfl⟩ := reserveOne_eq_none_iff.1 hfull
    have hcapacity : v.capacity = p.capacity := hbeside.room.resolve_left (by simp)
    exact ⟨u, hbeside.undone hu rfl hnodup hseen hkept rfl (.inl ⟨rfl, rfl, hlen, hcapacity⟩)⟩
  | @decline s refusal hsub' hst =>
    cases ho
    obtain rfl := Option.some.inj (hsub.symm.trans hsub')
    obtain rfl : stage = .creating := hst
    obtain ⟨hseen, hkept⟩ := hsurveyed
    exact ⟨u, hbeside.undone hu rfl hnodup hseen hkept rfl (.inr ⟨refusal, rfl, rfl⟩)⟩
  | refuse hadmits => simp [(isCalling_of_admits hadmits).1] at hsub
  | move _ m => cases m <;> cases ho
  | _ => cases ho

end Submit

end JobPool

end Threading

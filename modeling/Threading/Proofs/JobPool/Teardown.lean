import Threading.Proofs.JobPool.Callers

/-!
# What a destroy leaves behind

The first destroy takes the list of the pool, and every later one finds it empty
and returns at once, whether or not the first one is done. So a thread is left
behind by a destroy that returns if the first destroy has still to join it, or if
the first destroy was called on it, which does not wait for itself (`Teardown`).

If the first destroy was called outside the jobs, then all jobs are over when a
destroy returns, from the moment when the first one did
(`IsRun.over_when_destroyed`). A destroy that returns before finds them running
(`working_when_second_destroy_returned`).
-/

namespace Threading.JobPool

variable {τ : Type}

/-! ## What happened -/

/-- The thread that calls a destroy. -/
def destroyer? (o : Occurrence (Action τ) (Outcome τ)) : Option ThreadId :=
  match o.action with
  | .destroy c => some c
  | _ => none

/-- The thread that called the first destroy. -/
def firstDestroyer (es : History τ) : Option ThreadId := es.findSome? destroyer?

/-- The thread whose destroy returns. -/
def returned? (o : Occurrence (Action τ) (Outcome τ)) : Option ThreadId :=
  match o.action, o.outcome with
  | .proceed c, .returned => some c
  | _, _ => none

/-- The threads whose destroys returned, in order. -/
def returns (es : History τ) : List ThreadId := es.filterMap returned?

/-- A job was accepted. -/
def isAccepted (o : Occurrence (Action τ) (Outcome τ)) : Bool :=
  match o.outcome with
  | .accepted => true
  | _ => false

/-- The thread whose job is over. -/
def ended? (o : Occurrence (Action τ) (Outcome τ)) : Option Nat :=
  match o.action with
  | .jobEnded i _ => some i
  | _ => none

/-- The threads whose jobs returned or panicked, in order. -/
def ended (es : History τ) : List Nat := es.filterMap ended?

section History

variable (es : History τ) (o : Occurrence (Action τ) (Outcome τ))

theorem firstDestroyer_snoc :
    firstDestroyer (es ++ [o]) = (firstDestroyer es).or (destroyer? o) := by
  rw [firstDestroyer, List.findSome?_append, firstDestroyer]
  cases ho : destroyer? o <;> simp [ho]

theorem returns_snoc : returns (es ++ [o]) = returns es ++ (returned? o).toList :=
  filterMap_snoc returned? es o

theorem ended_snoc : ended (es ++ [o]) = ended es ++ (ended? o).toList :=
  filterMap_snoc ended? es o

end History

/-- Where the threads are that nobody has joined yet. -/
structure Teardown (es : History τ) (p : JobPool τ) : Prop where
  unshut : p.shutdown = false → firstDestroyer es = none ∧ returns es = []
  shut : p.shutdown = true → firstDestroyer es ≠ none
  /-- Only the first destroy has anything to join. -/
  busy : ∀ c d, p.destroying c = some d → d.left ≠ [] →
    firstDestroyer es = some c ∧ c ∉ returns es
  /-- A thread that is there is on the list, or is left to a destroy, or called the
      first one. -/
  covered : ∀ i j, p.threads[i]? = some j → j.handle.hasExited = true ∨ i ∈ p.known ∨
    (∃ c d, p.destroying c = some d ∧ i ∈ d.left) ∨
    ∃ c, j.thread? = some c ∧ firstDestroyer es = some c

section Step

variable {p : JobPool τ} {a : Action τ} {e : Effect (JobPool τ) (Outcome τ)} {es : History τ}

theorem returned?_after (ht : Transition p a e) {c : ThreadId}
    (hr : returned? (e.after a) = some c) : p.destroying c = some (.joining []) := by
  cases ht <;> simp_all [returned?, Effect.after]

theorem firstDestroyer_keep {c : ThreadId} (hf : firstDestroyer es = some c) :
    firstDestroyer (es ++ [e.after a]) = some c := by
  rw [firstDestroyer_snoc, hf, Option.some_or]

theorem Transition.teardown_unshut (ht : Transition p a e) (ho : Orderly p) (h : Teardown es p)
    (hs : e.state.shutdown = false) :
    firstDestroyer (es ++ [e.after a]) = none ∧ returns (es ++ [e.after a]) = [] := by
  cases ht with
  | call => cases hs
  | finishDestroy hd => exact absurd ((ho.of_destroying hd).1.symm.trans hs) nofun
  | _ =>
    obtain ⟨hf, hr⟩ := h.unshut hs
    rw [firstDestroyer_snoc, returns_snoc, hf, hr]
    exact ⟨rfl, rfl⟩

theorem Transition.teardown_shut (ht : Transition p a e) (h : Teardown es p)
    (hs : e.state.shutdown = true) : firstDestroyer (es ++ [e.after a]) ≠ none := by
  have kept (hs : p.shutdown = true) : firstDestroyer (es ++ [e.after a]) ≠ none := by
    obtain ⟨c, hc⟩ := Option.ne_none_iff_exists'.1 (h.shut hs)
    rw [firstDestroyer_keep hc]
    exact Option.some_ne_none c
  cases ht with
  | call =>
    rw [firstDestroyer_snoc]
    cases firstDestroyer es <;> simp [destroyer?, Effect.after]
  | _ => exact kept hs

/-- Only the first destroy has anything to join, and as long as it did not return. -/
theorem Transition.busy (ht : Transition p a e) (ho : Orderly p) (h : Teardown es p)
    {c : ThreadId} {d' : Joining} (hd' : e.state.destroying c = some d') (hne : d'.left ≠ []) :
    firstDestroyer (es ++ [e.after a]) = some c ∧ c ∉ returns (es ++ [e.after a]) := by
  obtain ⟨o, hd, hg⟩ := ht.goes_to hd'
  rcases hg.left with ⟨d, rfl, hleft⟩ | ⟨rfl, rfl⟩
  · obtain ⟨i, hi⟩ := List.exists_mem_of_ne_nil _ hne
    have hnonempty : d.left ≠ [] := List.ne_nil_of_mem (hleft i hi)
    obtain ⟨hf, hr⟩ := h.busy c d hd hnonempty
    refine ⟨firstDestroyer_keep hf, ?_⟩
    rw [returns_snoc, List.mem_append]
    rintro (hmem | hlast)
    · exact hr hmem
    · -- A destroy that returns has nothing left.
      rw [returned?_after ht (by simpa using hlast)] at hd
      cases hd
      exact hnonempty rfl
  · -- The list is empty once a destroy was called.
    have hopen : p.shutdown = false := by
      by_contra hs
      exact hne (ho.shut (by simpa using hs)).1
    obtain ⟨hf, hr⟩ := h.unshut hopen
    rw [firstDestroyer_snoc, returns_snoc, hf, hr]
    exact ⟨rfl, by simp [returned?, Effect.after]⟩

/-- A thread that cannot be joined is gone, or somebody waits for it. -/
theorem Orderly.exited_or_awaited (ho : Orderly p) {i : Nat} {j : JobThread τ} (hs : j.Sound)
    (hj : p.threads[i]? = some j) (hr : j.handle.stage ≠ .running) :
    j.handle.hasExited = true ∨ ∃ x, p.awaits x = some i := by
  obtain ⟨t, progress, ht, -⟩ := hs.inside_iff
  cases hjoiner : j.handle.joiner with
  | none =>
    rw [JobThread.hasExited_eq ht]
    exact .inl (hs.onlyJoined.hasExited_of_joiner hr hjoiner ht)
  | some x => exact .inr ⟨x, (ho.awaits_iff x i).2 ((joinerAt_of_getElem? hj).trans hjoiner)⟩

/-- A thread leaves the list when it is gone, or goes to a destroy with it. -/
theorem Transition.known_kept (ht : Transition p a e) (ho : Orderly p)
    (hs : ∀ j ∈ p.threads, j.Sound) {i : Nat} (hi : i ∈ p.known) :
    i ∈ e.state.known ∨ (∃ j, p.threads[i]? = some j ∧ j.handle.hasExited = true) ∨
      ∃ c d, e.state.destroying c = some d ∧ i ∈ d.left := by
  cases ht with
  | submit ha =>
    exact .inl (by simpa [known, Submitting.known, (isCalling_of_admits ha).1] using hi)
  | keep hsub hst | pruneMark hsub hst =>
    exact .inl (by simpa [known, setSubmitting, Submitting.known, hsub, hst] using hi)
  | @forget s _ kept rest k j hsub hst hj hr =>
    simp only [known, hsub, hst, Submitting.known, List.mem_append, List.mem_cons] at hi
    by_cases hik : i = k
    · subst hik
      refine .inr (.inl ⟨j, hj, ?_⟩)
      refine (ho.exited_or_awaited (hs j (List.mem_of_getElem? hj)) hj hr).resolve_right ?_
      rintro ⟨x, hx⟩
      simp [awaits, hsub, hst, Submitting.awaited] at hx
    · exact .inl (by simpa [known, setSubmitting, Submitting.known, hik] using hi)
  | @pruneCollect s _ kept rest k j _ hsub hst hj _ hg _ =>
    simp only [known, hsub, hst, Submitting.known, List.mem_append, List.mem_cons] at hi
    by_cases hik : i = k
    · subst hik
      exact .inr (.inl ⟨j, hj, hg⟩)
    · exact .inl (by simpa [known, Submitting.known, hik] using hi)
  | noRoom hsub hst | makeRoom hsub hst | decline hsub hst =>
    exact .inl (by simpa [known, setSubmitting, Submitting.known, hsub, hst] using hi)
  | accept hsub hst =>
    exact .inl (List.mem_append_left _ (by simpa [known, Submitting.known, hsub, hst] using hi))
  | @call c ha =>
    obtain ⟨hsub, hd, -⟩ := isCalling_of_admits ha
    rw [known_of_not_submitting hsub] at hi
    exact .inr (.inr ⟨c, .joining p.listed, (Calls.lookup_begin hd).trans (if_pos rfl), hi⟩)
  | _ => exact .inl hi

/-- A destroy is done with a thread when that is gone, or is the one that called it. -/
theorem Transition.left_kept (ht : Transition p a e) (ho : Orderly p)
    (hs : ∀ j ∈ p.threads, j.Sound) {c : ThreadId} {d : Joining} {i : Nat}
    (hd : p.destroying c = some d) (hi : i ∈ d.left) :
    (∃ c d, e.state.destroying c = some d ∧ i ∈ d.left) ∨
      ∃ j, p.threads[i]? = some j ∧ (j.handle.hasExited = true ∨ j.thread? = some c) := by
  obtain ⟨o, he, hg⟩ := ht.goes_from hd
  cases hg with
  | same => exact .inl ⟨c, d, he, hi⟩
  | @passes k rest j ha hj hr =>
    rcases List.mem_cons.1 hi with rfl | hi
    · have hsj := hs j (List.mem_of_getElem? hj)
      rcases hr with hr | hc
      · rcases ho.exited_or_awaited hsj hj hr with hg | ⟨x, hx⟩
        · exact .inr ⟨j, hj, .inl hg⟩
        · -- Another destroy waits for the thread, and does not move.
          rw [awaits_of_not_submitting (ho.of_destroying hd).2.2, Option.bind_eq_some_iff] at hx
          obtain ⟨f, hf, haw⟩ := hx
          obtain ⟨o', he', hg'⟩ := ht.goes_from hf
          have hxc : c ≠ x := by
            rintro rfl
            rw [hd] at hf
            cases hf
            cases haw
          rw [hg'.eq_some (by simp [ha, hxc])] at he'
          cases f with
          | joining rest => cases haw
          | collecting k rest =>
            cases haw
            exact .inl ⟨x, _, he', List.mem_cons_self⟩
      · exact .inr ⟨j, hj, .inr (JobThread.thread?_eq_some_iff.2 (hsj.onlyJoined.of_isCurrent hc))⟩
    · exact .inl ⟨c, _, he, hi⟩
  | marks => exact .inl ⟨c, _, he, hi⟩
  | @collects k rest j _ hj hg =>
    rcases List.mem_cons.1 hi with rfl | hi
    · exact .inr ⟨j, hj, .inl hg⟩
    · exact .inl ⟨c, _, he, hi⟩
  | ends => cases hi

/-- Every step keeps the threads that are there in sight. -/
theorem Transition.covered (ht : Transition p a e) (ho : Orderly p) (hs : ∀ j ∈ p.threads, j.Sound)
    (h : Teardown es p) {i : Nat} {j' : JobThread τ} (hj' : e.state.threads[i]? = some j') :
    j'.handle.hasExited = true ∨ i ∈ e.state.known ∨
      (∃ c d, e.state.destroying c = some d ∧ i ∈ d.left) ∨
      ∃ c, j'.thread? = some c ∧ firstDestroyer (es ++ [e.after a]) = some c := by
  rcases ht.changed hj' with ⟨j, hj, hc⟩ | ⟨rfl, t, ⟨hsub, hcaller, -, -⟩⟩
  · have hsj := hs j (List.mem_of_getElem? hj)
    have gone {v : JobThread τ} (hv : p.threads[i]? = some v) (hg : v.handle.hasExited = true) :
        j'.handle.hasExited = true := by
      obtain rfl := Option.some.inj (hj.symm.trans hv)
      exact hc.hasExited hsj hg
    rcases h.covered i j hj with hg | hknown | ⟨c, d, hd, hi⟩ | ⟨c, htc, hf⟩
    · exact .inl (gone hj hg)
    · rcases ht.known_kept ho hs hknown with hknown | ⟨v, hv, hg⟩ | hleft
      · exact .inr (.inl hknown)
      · exact .inl (gone hv hg)
      · exact .inr (.inr (.inl hleft))
    · rcases ht.left_kept ho hs hd hi with hleft | ⟨v, hv, hg | htc⟩
      · exact .inr (.inr (.inl hleft))
      · exact .inl (gone hv hg)
      · -- The destroy that had something left to join was the first one.
        obtain rfl := Option.some.inj (hj.symm.trans hv)
        have hf := (h.busy c d hd (List.ne_nil_of_mem hi)).1
        exact .inr (.inr (.inr ⟨c, hc.thread?.trans htc, firstDestroyer_keep hf⟩))
    · exact .inr (.inr (.inr ⟨c, hc.thread?.trans htc, firstDestroyer_keep hf⟩))
  · -- A new thread is the last one on the list.
    cases ht with
    | accept => exact .inr (.inl (List.mem_append_right _ (List.mem_singleton_self _)))

end Step

section IsRun

variable {permits : UInt32} {es : History τ} {p : JobPool τ}

theorem IsRun.teardown (h : IsRun permits es p) : Teardown es p := by
  refine h.induction Teardown (fun _ => ?_) fun fs q a e hq ht ih => ?_
  · exact ⟨fun _ => ⟨rfl, rfl⟩, nofun, nofun, fun i j hj => by simp at hj⟩
  · exact {
      unshut := ht.teardown_unshut hq.orderly ih
      shut := ht.teardown_shut ih
      busy := fun _ _ hd hne => ht.busy hq.orderly ih hd hne
      covered := fun _ _ hj => ht.covered hq.orderly hq.sound ih hj }

/-- A thread that is there, in a pool that is shut down, is left to the first destroy
    or is the one that called it. -/
theorem IsRun.left_to_first (h : IsRun permits es p) {f : ThreadId}
    (hf : firstDestroyer es = some f) {i : Nat} {j : JobThread τ} (hj : p.threads[i]? = some j) :
    j.handle.hasExited = true ∨ j.thread? = some f ∨
      ∃ d, p.destroying f = some d ∧ i ∈ d.left := by
  have hshut : p.shutdown = true := by
    by_contra hs
    rw [(h.teardown.unshut (by simpa using hs)).1] at hf
    cases hf
  obtain ⟨hlisted, hsub⟩ := h.orderly.shut hshut
  rcases h.teardown.covered i j hj with hg | hknown | ⟨c, d, hd, hi⟩ | ⟨c, htc, hc⟩
  · exact .inl hg
  · rw [known_of_not_submitting hsub, hlisted] at hknown
    cases hknown
  · obtain rfl := Option.some.inj ((h.teardown.busy c d hd (List.ne_nil_of_mem hi)).1.symm.trans hf)
    exact .inr (.inr ⟨d, hd, hi⟩)
  · obtain rfl := Option.some.inj (hc.symm.trans hf)
    exact .inr (.inl htc)

/-- Every accepted job has a thread. -/
theorem IsRun.countP_isAccepted (h : IsRun permits es p) :
    es.countP isAccepted = p.threads.length := by
  refine h.induction (fun es p => es.countP isAccepted = p.threads.length) (fun _ => rfl)
    fun fs q a e _ ht ih => ?_
  rw [List.countP_append, ih, List.countP_singleton]
  cases ht with
  | move _ m => cases m <;> simp [isAccepted, Effect.after]
  | mark | collect => simp [isAccepted, Effect.after, setDestroying]
  | _ => simp [isAccepted, Effect.after, setSubmitting, setDestroying]

/-- A job is over once it returned or panicked, and not before. -/
theorem Changes.of_isOver {a : Action τ} {i : Nat} {j j' : JobThread τ} (hc : Changes p a i j j')
    (ho : j'.isOver = true) : j.isOver = true ∨ ∃ panicked, a = .jobEnded i panicked := by
  cases hc with
  | moves _ m => cases m <;> simp_all [JobThread.isOver]
  | takes | sleeps => cases ho
  | givesBack hp => exact .inl (by rw [JobThread.isOver, hp])
  | ends ha => exact .inr ⟨_, ha⟩
  | _ => exact .inl ho

/-- A job that is over returned or panicked. -/
theorem IsRun.mem_ended (h : IsRun permits es p) {i : Nat} {j : JobThread τ}
    (hj : p.threads[i]? = some j) (ho : j.isOver = true) : i ∈ ended es := by
  revert i j
  refine h.induction (fun es p => ∀ {i j}, p.threads[i]? = some j → j.isOver = true → i ∈ ended es)
    (fun _ i j hj => by simp at hj) fun fs q a e _ ht ih => ?_
  intro i j' hj' ho
  rw [ended_snoc, List.mem_append]
  rcases ht.changed hj' with ⟨j, hj, hc⟩ | ⟨-, t, ⟨-, -, -, -⟩⟩
  · rcases hc.of_isOver ho with ho | ⟨panicked, rfl⟩
    · exact .inl (ih hj ho)
    · exact .inr (by simp [ended?, Effect.after])
  · cases ho

/-- A destroy returns, whoever called it. Then a thread that is still there is left to the first
    destroy, or is the one that called it; so if the first destroy was called outside the jobs,
    and this is the one, or it returned before, then every accepted job is over, and its
    thread is gone. -/
theorem IsRun.over_when_destroyed (h : IsRun permits es p) {c : ThreadId}
    {e : Effect (JobPool τ) (Outcome τ)} (he : p.step (.proceed c) = some e)
    (hret : e.outcome = .returned) :
    ∃ f, firstDestroyer es = some f ∧
      (∀ i j, e.state.threads[i]? = some j → j.handle.hasExited = true ∨ j.thread? = some f ∨
        ∃ d, e.state.destroying f = some d ∧ i ∈ d.left) ∧
      ((∀ j ∈ e.state.threads, j.thread? ≠ some f) → f = c ∨ f ∈ returns es →
        es.countP isAccepted = e.state.threads.length ∧
        ∀ i j, e.state.threads[i]? = some j →
          i ∈ ended es ∧ j.place = .outside ∧ j.handle.hasExited = true) := by
  have ht := transition_of_step h.sound he
  have hafter := h.snoc he
  have hreturned : returned? (e.after (.proceed c)) = some c := by
    rw [returned?, Effect.after, hret]
  have hd := returned?_after ht hreturned
  obtain ⟨f, hf⟩ := Option.ne_none_iff_exists'.1 (h.teardown.shut (h.orderly.of_destroying hd).1)
  have hleft := fun i j hj => hafter.left_to_first (firstDestroyer_keep hf) (i := i) (j := j) hj
  refine ⟨f, hf, hleft, fun hout hfirst => ⟨?_, fun i j hj => ?_⟩⟩
  · have hcount := hafter.countP_isAccepted
    rwa [List.countP_append, List.countP_singleton, isAccepted, Effect.after, hret] at hcount
  · -- The first destroy returned, so it has nothing left.
    have hmem : f ∈ returns (es ++ [e.after (.proceed c)]) := by
      rw [returns_snoc, hreturned, List.mem_append]
      exact hfirst.elim (fun hfc => .inr (by simp [hfc])) .inl
    have hg : j.handle.hasExited = true := by
      rcases hleft i j hj with hg | htf | ⟨d, hfd, hi⟩
      · exact hg
      · exact absurd htf (hout j (List.mem_of_getElem? hj))
      · exact absurd hmem (hafter.teardown.busy f d hfd (List.ne_nil_of_mem hi)).2
    have hs := hafter.sound_at hj
    refine ⟨?_, hs.outside_of_hasExited hg, hg⟩
    have hended := hafter.mem_ended hj (hs.isOver_of_hasExited hg)
    rwa [ended_snoc, show ended? (e.after (.proceed c)) = none from rfl, Option.toList_none,
      List.append_nil] at hended

/-- The first job panics while the second one waits for its permit, and the thread `9` destroys
    the pool. When it returned, the thread `8`, whose destroy began before, returns too. -/
theorem over_when_destroyed_of_two_destroys :
    ∃ (es : History Nat) (p : JobPool Nat) (e : Effect (JobPool Nat) (Outcome Nat)),
      IsRun 1 es p ∧ p.step (.proceed 8) = some e ∧ e.outcome = .returned ∧
      returns es = [9] ∧ e.state.threads.length = 2 ∧
      es.countP isAccepted = e.state.threads.length ∧
      ∀ i j, e.state.threads[i]? = some j →
        i ∈ ended es ∧ j.place = .outside ∧ j.handle.hasExited = true := by
  obtain ⟨es, p, h, hf⟩ := exists_isRun 1
    [.submit 7 10, .prune 7 true, .create 7 (.ok 1), .submit 7 11, .prune 7 true, .prune 7 true,
      .create 7 (.ok 2), .advance 0 none, .advance 0 none, .advance 0 none, .advance 0 none,
      .advance 1 none, .advance 1 none, .advance 1 none, .advance 1 none, .destroy 9, .proceed 9,
      .destroy 8, .jobEnded 0 true, .advance 0 (some 2), .advance 0 none, .advance 0 none,
      .proceed 9, .proceed 9, .advance 1 none, .jobEnded 1 false, .advance 1 none, .advance 1 none,
      .advance 1 none, .proceed 9, .proceed 9]
    (fun es p => (returns es, firstDestroyer es, (p.step (.proceed 8)).map fun e =>
      (returned? (e.after (.proceed 8)), e.state.threads.map JobThread.thread?)))
    ([9], some 9, some (some 8, [some 1, some 2])) (by decide)
  simp only [Prod.mk.injEq] at hf
  obtain ⟨hreturns, hfirst, hstep⟩ := hf
  obtain ⟨e, he, hf⟩ := Option.map_eq_some_iff.1 hstep
  simp only [Prod.mk.injEq] at hf
  obtain ⟨hret, hthreads⟩ := hf
  have ho : e.outcome = .returned := by
    cases ho : e.outcome <;> simp_all [returned?, Effect.after]
  obtain ⟨f, hf, -, hover⟩ := h.over_when_destroyed he ho
  obtain rfl : f = 9 := Option.some.inj (hf.symm.trans hfirst)
  refine ⟨es, p, e, h, he, ho, hreturns, by simpa using congrArg List.length hthreads,
    hover (fun j hj => ?_) (.inr (by simp [hreturns]))⟩
  have hmem := List.mem_map_of_mem (f := JobThread.thread?) hj
  rw [hthreads] at hmem
  rintro heq
  simp [heq] at hmem

/-- The thread `9` destroys the pool, and waits for the job, which is running. Then the thread `8`
    destroys it, and returns while the job is running. -/
theorem working_when_second_destroy_returned :
    ∃ (es : History Nat) (p : JobPool Nat) (e : Effect (JobPool Nat) (Outcome Nat)),
      IsRun 1 es p ∧ p.step (.proceed 8) = some e ∧ e.outcome = .returned ∧
      (∀ j ∈ e.state.threads, j.thread? ≠ some 8 ∧ j.thread? ≠ some 9) ∧
      firstDestroyer es = some 9 ∧ ∃ j ∈ e.state.threads, j.isWorking = true := by
  obtain ⟨es, p, h, hf⟩ := exists_isRun 1
    [.submit 7 10, .prune 7 true, .create 7 (.ok 1), .advance 0 none, .advance 0 none,
      .advance 0 none, .advance 0 none, .destroy 9, .proceed 9, .destroy 8]
    (fun es p => (firstDestroyer es, (p.step (.proceed 8)).map fun e =>
      (returned? (e.after (.proceed 8)), e.state.threads.map JobThread.thread?,
        e.state.threads.any JobThread.isWorking)))
    (some 9, some (some 8, [some 1], true)) (by decide)
  simp only [Prod.mk.injEq] at hf
  obtain ⟨hfirst, hstep⟩ := hf
  obtain ⟨e, he, hf⟩ := Option.map_eq_some_iff.1 hstep
  simp only [Prod.mk.injEq, List.any_eq_true] at hf
  obtain ⟨hret, hthreads, hworking⟩ := hf
  refine ⟨es, p, e, h, he, ?_, fun j hj => ?_, hfirst, hworking⟩
  · cases ho : e.outcome <;> simp_all [returned?, Effect.after]
  · have hmem := List.mem_map_of_mem (f := JobThread.thread?) hj
    rw [hthreads, List.mem_singleton] at hmem
    simp [hmem]

end IsRun

end Threading.JobPool

import Threading.Proofs.WorkerPool.Order

/-!
# The moment a pool shuts down

Of all destroys of a pool, on whatever threads, one is the first to get to the list of
tasks. That moment divides the life of the pool (`ShutAt`, `IsRun.shutAt`):

* before, the flag is down, and nothing was reported (`IsRun.silent`);
* at that moment the flag goes up, and the number of queued tasks is reported
  (`Transition.shutdown_iff`, `Transition.count_shuttingDown`);
* afterwards no task comes and nothing is reported any more (`IsRun.frozen`), so what was
  queued then has begun since, or is queued, or was dropped.
-/

namespace Threading

/-- No other report is logged like that of a shutdown with so many tasks. -/
theorem Notice.record_eq_shuttingDown_iff {n : Notice} {q : Nat} :
    n.record = (Notice.shuttingDown q).record ↔ n = .shuttingDown q := by
  refine ⟨fun h => ?_, fun h => by rw [h]⟩
  have htext := congrArg (fun r => r.message.toList) h
  cases n with
  | shuttingDown k =>
    have hdigits : Nat.toDigits 10 k = Nat.toDigits 10 q := by simpa [record] using htext
    have hread := congrArg (fun digits => Nat.ofDigitChars 10 digits 0) hdigits
    simp only [Nat.ofDigitChars_toDigits (b := 10) (by decide) (by decide)] at hread
    rw [hread]
  -- The texts of these differ at the beginning, and the others have another level or origin.
  | poolStarted | workerExiting | leftUnjoined => simp [record, toString] at htext
  | _ => simp [record] at h

theorem count_shutdown_records (ns : List Notice) (q : Nat) :
    (ns.map Notice.record).count
        ⟨.debug, "workpool::thread_pool::worker", s!"Pool shutting down with {q} queued tasks"⟩ =
      ns.count (.shuttingDown q) := by
  rw [List.count_eq_countP, List.count_eq_countP, List.countP_map]
  refine List.countP_congr fun n _ => ?_
  rw [Function.comp_apply, beq_iff_eq, beq_iff_eq]
  exact Notice.record_eq_shuttingDown_iff

namespace WorkerPool

variable {τ : Type}

/-- What the steps of a pool reported. -/
def reported (es : History τ) : List Notice := es.flatMap fun o => o.notices

/-- Everything that a pool logged since it was made with these answers. -/
def logged (label : String) (answers : List (Except Refusal ThreadId)) (es : History τ) :
    List Record :=
  let started := match create (τ := τ) label answers with
    | .ok e => e.notices
    | .error _ => []
  (started ++ reported es).map Notice.record

/-- The tasks that destroys dropped. -/
def tornDown (es : History τ) : List τ :=
  es.flatMap fun o => match o.action, o.outcome with
    | .proceed _, .freed tasks => tasks
    | _, _ => []

theorem not_mem_notices_of_create {label : String} {answers : List (Except Refusal ThreadId)}
    {e : Effect (WorkerPool τ) Unit} (h : create label answers = .ok e) (n : Nat) :
    Notice.shuttingDown n ∉ e.notices := by
  rw [create] at h
  split at h
  · cases h
  · cases h
    simp only [List.mem_append, List.mem_flatMap, List.mem_mapIdx, List.mem_singleton, not_or]
    refine ⟨?_, by simp⟩
    rintro ⟨s, ⟨i, hi, rfl⟩, hmem⟩
    cases hanswer : answers[i] <;> simp [startWorker, hanswer] at hmem

/-- A shutdown is reported by a step, not when the pool is made. -/
theorem count_logged (label : String) (answers : List (Except Refusal ThreadId)) (es : History τ)
    (n : Nat) : (logged label answers es).count
        ⟨.debug, "workpool::thread_pool::worker", s!"Pool shutting down with {n} queued tasks"⟩ =
      (reported es).count (.shuttingDown n) := by
  rw [logged, count_shutdown_records, List.count_append]
  cases h : create (τ := τ) label answers with
  | ok e => rw [List.count_eq_zero.2 (not_mem_notices_of_create h n), Nat.zero_add]
  | error _ => rw [List.count_nil, Nat.zero_add]

/-! ## One step -/

section Step

variable {p : WorkerPool τ} {a : Action τ} {e : Effect (WorkerPool τ) (Outcome τ)}

/-- A pool is shut down by a destroy that gets to the list, and stays so. -/
theorem Transition.shutdown_iff (ht : Transition p a e) :
    e.state.shutdown = true ↔ p.shutdown = true ∨
      ∃ c b, a = .proceed c ∧ p.destroying c = some (.shutting b) := by
  constructor
  · intro hs
    cases ht with
    | shutInside hd => exact .inr ⟨_, _, rfl, hd⟩
    | shutOutside hd => exact .inr ⟨_, _, rfl, hd⟩
    | _ => exact .inl hs
  · rintro (hs | ⟨c, b, rfl, hd⟩)
    · exact ht.shutdown hs
    · exact ht.shutdown_of_shutting hd

/-- The number of queued tasks is reported by the step that shuts the pool down, and by no other
    step. -/
theorem Transition.count_shuttingDown (ht : Transition p a e) (q : Nat) :
    e.notices.count (.shuttingDown q) =
      if p.shutdown = false ∧ e.state.shutdown = true ∧ q = p.pending then 1 else 0 := by
  have quiet (hq : Notice.shuttingDown q ∉ e.notices) (hs : e.state.shutdown = p.shutdown) :
      e.notices.count (.shuttingDown q) =
        if p.shutdown = false ∧ e.state.shutdown = true ∧ q = p.pending then 1 else 0 := by
    rw [List.count_eq_zero.2 hq, if_neg]
    rintro ⟨hopen, hdown, -⟩
    rw [hs, hopen] at hdown
    cases hdown
  cases ht with
  | shutInside | shutOutside =>
    by_cases hs : p.shutdown = true
    · simp [hs]
    · by_cases hq : q = p.pending
      · simp [hs, hq]
      · simp [hs, hq, Ne.symm hq]
  | move _ m => cases m <;> exact quiet (by simp) rfl
  | @collect _ _ _ result => cases result <;> exact quiet (by simp [joinNotices]) rfl
  | pass => exact quiet (by dsimp only; split <;> simp) rfl
  | drain => exact quiet (by dsimp only; split <;> simp) rfl
  | _ => exact quiet (by simp) rfl

/-- A pool that is shut down takes no task. -/
theorem Transition.accepted_eq_nil (ht : Transition p a e) (hs : p.shutdown = true) :
    accepted [e.after a] = [] := by
  cases ht with
  | accept _ hopen | rouse _ hopen =>
    rw [hs] at hopen
    cases hopen
  | move _ m => cases m <;> rfl
  | _ => rfl

/-- While somebody has a reference to the pool, only destroys drop tasks. -/
theorem Transition.freed_eq_tornDown (ht : Transition p a e) (ha : e.state.abandoned = false) :
    freed [e.after a] = tornDown [e.after a] := by
  cases ht with
  | move _ m => cases m <;> rfl
  | spend _ _ hab =>
    rw [hab] at ha
    cases ha
  | abandonLast => cases ha
  | _ => rfl

/-- A pool that is shut down has no more tasks queued than before. -/
theorem Transition.pending_le (ht : Transition p a e) (h : Teardown p) (hs : p.shutdown = true) :
    e.state.pending ≤ p.pending := by
  obtain ⟨d, -, hh⟩ := ht.handles h
  rw [pending, pending]
  cases hh with
  | nothing hq | ended hq => exact Nat.le_of_eq (by rw [hq])
  | queued hopen =>
    rw [hs] at hopen
    cases hopen
  | began hp => exact hp ▸ Nat.le_succ _
  | freed _ hq => exact hq ▸ Nat.zero_le _

end Step

/-! ## Before and after -/

section Snoc

variable (es fs : History τ)

theorem reported_append : reported (es ++ fs) = reported es ++ reported fs := List.flatMap_append

theorem tornDown_append : tornDown (es ++ fs) = tornDown es ++ tornDown fs := List.flatMap_append

theorem reported_singleton {a : Action τ} (e : Effect (WorkerPool τ) (Outcome τ)) :
    reported [e.after a] = e.notices := List.append_nil _

end Snoc

/-- What `fs` can have done to a pool that was shut down before. -/
structure Frozen (fs : History τ) (q : WorkerPool τ) : Prop where
  shutdown : q.shutdown = true
  closed : accepted fs = []
  silent : ∀ n, (reported fs).count (.shuttingDown n) = 0
  dropped : q.abandoned = false → freed fs = tornDown fs

section IsRun

variable {label : String} {answers : List (Except Refusal ThreadId)} {es fs : History τ}
  {p q : WorkerPool τ}

/-- A pool that is shut down stays so, takes no task, and reports no other shutdown. -/
theorem IsRun.frozen (h : IsRun label answers es p) (hs : p.shutdown = true)
    (hrun : Run step p fs q) : Frozen fs q := by
  refine hrun.invariant Frozen ⟨hs, rfl, fun _ => rfl, fun _ => rfl⟩ fun fs v a e hv ih he => ?_
  have ht := transition_of_step (h.append hv).sound he
  exact {
    shutdown := ht.shutdown ih.shutdown
    closed := by rw [accepted_append, ih.closed, ht.accepted_eq_nil ih.shutdown, List.append_nil]
    silent := fun n => by
      rw [reported_append, reported_singleton, List.count_append, ih.silent,
        ht.count_shuttingDown, if_neg (by simp [ih.shutdown])]
    dropped := fun ha => by
      rw [freed_append, tornDown_append, ih.dropped (ht.not_abandoned ha),
        ht.freed_eq_tornDown ha] }

/-- A pool that is shut down has never more tasks queued than before. -/
theorem IsRun.pending_le (h : IsRun label answers es p) (hs : p.shutdown = true)
    (hrun : Run step p fs q) : q.pending ≤ p.pending := by
  refine hrun.invariant (fun _ q => q.pending ≤ p.pending) (Nat.le_refl _)
    fun fs v a e hv ih he => ?_
  have hvrun := h.append hv
  have ht := transition_of_step hvrun.sound he
  exact Nat.le_trans (ht.pending_le hvrun.teardown (h.frozen hs hv).shutdown) ih

/-- An open pool reported no shutdown. -/
theorem IsRun.silent (h : IsRun label answers es p) (hs : p.shutdown = false) (n : Nat) :
    (reported es).count (.shuttingDown n) = 0 := by
  revert hs
  refine h.induction (fun fs q => q.shutdown = false →
    (reported fs).count (.shuttingDown n) = 0) (fun _ _ _ _ => rfl)
    fun fs q a e _ _ ht ih hs => ?_
  have hopen : q.shutdown = false := by
    cases hq : q.shutdown with
    | false => rfl
    | true =>
      rw [ht.shutdown hq] at hs
      cases hs
  rw [reported_append, reported_singleton, List.count_append, ih hopen, ht.count_shuttingDown,
    if_neg (by simp [hs])]

/-- The destroy of the thread `c` is the first to get to the list, in the pool `v`, with this
    effect. -/
structure ShutsDown (v : WorkerPool τ) (c : ThreadId) (e : Effect (WorkerPool τ) (Outcome τ)) :
    Prop where
  was_open : v.shutdown = false
  shutting : ∃ b, v.destroying c = some (.shutting b)
  possible : v.step (.proceed c) = some e

/-- Shutting a pool down does nothing with tasks. -/
theorem ShutsDown.deed_eq {v : WorkerPool τ} {c : ThreadId}
    {e : Effect (WorkerPool τ) (Outcome τ)} (h : ShutsDown v c e) (hs : ∀ w ∈ v.workers, w.Sound) :
    deed (e.after (.proceed c)) = .nothing := by
  obtain ⟨b, hd⟩ := h.shutting
  cases transition_of_step hs h.possible with
  | move _ m => cases m
  | shutInside | shutOutside => rfl
  | _ => simp_all

theorem ShutsDown.shutdown {v : WorkerPool τ} {c : ThreadId}
    {e : Effect (WorkerPool τ) (Outcome τ)} (h : ShutsDown v c e) (hs : ∀ w ∈ v.workers, w.Sound) :
    e.state.shutdown = true := by
  obtain ⟨b, hd⟩ := h.shutting
  exact (transition_of_step hs h.possible).shutdown_of_shutting hd

/-- A pool that is shut down was shut down at one moment of the past. -/
theorem IsRun.exists_shutsDown (h : IsRun label answers es p) (hs : p.shutdown = true) :
    ∃ before v c e after, es = before ++ e.after (.proceed c) :: after ∧
      IsRun label answers before v ∧ ShutsDown v c e ∧ Run step e.state after p := by
  obtain ⟨hd, f, hf, hrun⟩ := h
  revert hs
  refine hrun.invariant (fun fs q => q.shutdown = true → ∃ before v c e after,
    fs = before ++ e.after (.proceed c) :: after ∧ IsRun label answers before v ∧
      ShutsDown v c e ∧ Run step e.state after q) (fun hs => ?_) fun fs v a e hv ih he hs => ?_
  · obtain ⟨workers, hstate, -⟩ := create_eq_ok hf
    rw [hstate] at hs
    cases hs
  · have hvrun : IsRun label answers fs v := ⟨hd, f, hf, hv⟩
    cases hopen : v.shutdown with
    | true =>
      obtain ⟨before, u, c, g, after, rfl, hu, hshut, hafter⟩ := ih hopen
      exact ⟨before, u, c, g, after ++ [e.after a], by simp, hu, hshut, hafter.snoc he⟩
    | false =>
      rcases (transition_of_step hvrun.sound he).shutdown_iff.1 hs with hdown | ⟨c, b, rfl, hd⟩
      · rw [hopen] at hdown
        cases hdown
      · exact ⟨fs, v, c, e, [], rfl, hvrun, ⟨hopen, ⟨b, hd⟩, he⟩, .nil⟩

/-- From an open pool, nothing was dropped yet. -/
theorem IsRun.freed_eq_nil (h : IsRun label answers es p) (hs : p.shutdown = false) :
    freed es = [] := by
  refine freed_of_not_drained ?_
  by_contra hd
  have hdown := (h.accounted.taken (by simpa using hd)).1
  rw [hs] at hdown
  cases hdown

/-- The next step of `v` shut the pool down, and `after` happened since. -/
structure ShutAt (label : String) (answers : List (Except Refusal ThreadId)) (es : History τ)
    (p v : WorkerPool τ) (after : History τ) : Prop where
  /-- It is a step of the destroy that is the first to get to the list. -/
  moment : ∃ before c e, es = before ++ e.after (.proceed c) :: after ∧
    IsRun label answers before v ∧ ShutsDown v c e ∧ e.state.shutdown = true ∧
    Run step e.state after p
  /-- No task came since. -/
  closed : accepted after = []
  /-- The tasks that were queued have begun, went without having run, or are queued. -/
  in_order : v.tasks = (begun after).map Prod.snd ++ freed after ++ p.tasks
  counted : v.pending = (begun after).length + p.pending + (freed after).length
  /-- While somebody has a reference to the pool, those that went were dropped by destroys. -/
  dropped : p.abandoned = false → freed after = tornDown after
  /-- The number of queued tasks was reported, once. -/
  announced : ∀ n, (reported es).count (.shuttingDown n) = if n = v.pending then 1 else 0

theorem IsRun.shutAt (h : IsRun label answers es p) (hs : p.shutdown = true) :
    ∃ v after, ShutAt label answers es p v after := by
  obtain ⟨before, v, c, e, after, rfl, hv, hshut, hafter⟩ := h.exists_shutsDown hs
  have hdeed := hshut.deed_eq hv.sound
  have hdown := hshut.shutdown hv.sound
  have hfrozen := (hv.snoc hshut.possible).frozen hdown hafter
  have horder : v.tasks = (begun after).map Prod.snd ++ freed after ++ p.tasks := by
    -- What was accepted is told by the tasks before and after the moment.
    have hthen := hv.accounted.in_order
    have hnow := h.accounted.in_order
    have hfreed := hv.freed_eq_nil hshut.was_open
    rw [List.append_cons, accepted_append, begun_append, freed_append, accepted_snoc, begun_snoc,
      freed_snoc, hdeed, hthen, hfreed, hfrozen.closed] at hnow
    simpa [List.append_assoc] using hnow
  refine ⟨v, after, ⟨before, c, e, rfl, hv, hshut, hdown, hafter⟩, hfrozen.closed, horder, ?_,
    hfrozen.dropped, fun n => ?_⟩
  · rw [pending, pending, horder]
    simp only [List.length_append, List.length_map]
    omega
  · rw [List.append_cons, reported_append, reported_append, reported_singleton,
      List.count_append, List.count_append, hv.silent hshut.was_open, hfrozen.silent,
      (transition_of_step hv.sound hshut.possible).count_shuttingDown]
    simp [hshut.was_open, hdown]

/-- What a shutdown is for everybody who uses the pool. -/
structure ShutsDownOnce (label : String) (answers : List (Except Refusal ThreadId))
    (es : History τ) (p : WorkerPool τ) : Prop where
  /-- The flag goes up when a destroy gets to the list, -/
  flag : ∀ a e, p.step a = some e → (e.state.shutdown = true ↔ p.shutdown = true ∨
    ∃ c b, a = .proceed c ∧ p.destroying c = some (.shutting b))
  /-- and never goes down; from then on no task is queued. -/
  stays : p.shutdown = true → ∀ fs q, Run step p fs q →
    q.shutdown = true ∧ q.pending ≤ p.pending ∧ accepted fs = []
  /-- Every submit is refused, with or without memory, changes nothing, and gives its task back. -/
  refused : p.shutdown = true → ∀ (task : τ) (memory : Bool) (chosen : Option Nat),
    p.step (.submit task memory chosen) =
      if p.abandoned then none else some { state := p, outcome := .rejected .shutDown task }
  /-- What begins was accepted, and a task that is handed in is accepted or given back. -/
  unrun : (begun es).map Prod.snd <+: accepted es ∧
    (submitted es).Perm (accepted es ++ rejected es)
  /-- Before, no record says that the pool shuts down; -/
  before : p.shutdown = false → ∀ n : Nat, (logged label answers es).count
    ⟨.debug, "workpool::thread_pool::worker", s!"Pool shutting down with {n} queued tasks"⟩ = 0
  /-- afterwards one does, with the number of tasks queued at the moment when the flag went up. -/
  after : p.shutdown = true → ∃ v fs, ShutAt label answers es p v fs ∧
    ∀ n : Nat, (logged label answers es).count
      ⟨.debug, "workpool::thread_pool::worker", s!"Pool shutting down with {n} queued tasks"⟩ =
        if n = v.pending then 1 else 0

/-- However many destroys there are, a pool shuts down at one moment: then the flag goes up for
    good and is reported with the number of queued tasks, and afterwards every submit is refused
    and the tasks that were queued are begun, queued still, or dropped. -/
theorem IsRun.shutdown_freezes (h : IsRun label answers es p) :
    ShutsDownOnce label answers es p where
  flag := fun _ _ he => (transition_of_step h.sound he).shutdown_iff
  stays := fun hs _ _ hrun => by
    have hfrozen := h.frozen hs hrun
    exact ⟨hfrozen.shutdown, h.pending_le hs hrun, hfrozen.closed⟩
  refused := fun hs _ _ _ => by
    rw [step, if_pos hs]
  unrun := ⟨⟨freed es ++ p.tasks, by rw [h.accounted.in_order, List.append_assoc]⟩,
    h.accounted.answered⟩
  before := fun hs n => (count_logged label answers es n).trans (h.silent hs n)
  after := fun hs => by
    obtain ⟨v, fs, hv⟩ := h.shutAt hs
    exact ⟨v, fs, hv, fun n => (count_logged label answers es n).trans (hv.announced n)⟩

/-- A task and another thread destroy the pool at once, while three tasks are queued; one task is
    handed in too late, without memory, and one of the three has begun since. -/
theorem shutdown_freezes_of_two_destroys :
    ∃ (es : History Nat) (p : WorkerPool Nat), IsRun "pool" [.ok 1, .ok 2] es p ∧
      (p.shutdown = true ∧ p.pending = 2 ∧ (begun es).map Prod.snd = [10, 11] ∧
        rejected es = [14] ∧ (reported es).count (.shuttingDown 3) = 1) ∧
      ShutsDownOnce "pool" [.ok 1, .ok 2] es p := by
  obtain ⟨es, p, h, hf⟩ := exists_isRun "pool" [.ok 1, .ok 2]
    [.advance 0, .advance 0, .advance 0, .submit 10 true none, .submit 11 true none,
      .submit 12 true none, .submit 13 true none, .advance 0, .destroy 1, .destroy 9, .proceed 9,
      .proceed 9, .proceed 9, .proceed 9, .submit 14 false none, .advance 1, .advance 1, .advance 1,
      .advance 1, .proceed 1, .proceed 1]
    (fun es p => (p.shutdown, p.pending, (begun es).map Prod.snd, rejected es,
      (reported es).count (.shuttingDown 3)))
    (true, 2, [10, 11], [14], 1) (by decide) (by decide)
  simp only [Prod.mk.injEq] at hf
  exact ⟨es, p, h, hf, h.shutdown_freezes⟩

end IsRun

end WorkerPool

end Threading

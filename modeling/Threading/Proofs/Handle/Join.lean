import Threading.Proofs.Handle.Alive

/-!
# Joins

A join of a running handle, by another thread than its own, marks the handle joined and
waits until the thread is gone. Any other join returns at once. What the joins did is
read off the history: `waits` are the callers that waited, and `reports` the panics that
a caller was told of.

* Nobody waited for the thread, or one caller waits for it, or knows by now how the
  closure ended (`Attended`). Every step keeps this (`Transition.attended`).
* A thread that is gone, and was not killed, ran the closure to its end
  (`IsRun.closings_of_exited`), so its join can tell (`Returns`).
* `IsRun.joined_once` puts the laws together.
-/

namespace Threading.Handle

variable {J : Type}

/-- The caller of a join that has to wait. -/
def wait? : Occurrence Action (Outcome J) → Option ThreadId
  | { action := .join c, outcome := .moved, .. } => some c
  | _ => none

/-- The caller that a join tells of a panic, and the name that it tells. -/
def report? : Occurrence Action (Outcome J) → Option (ThreadId × String)
  | { action := .join c, outcome := .returned (.error (.panicked text)), .. }
  | { action := .proceed c, outcome := .returned (.error (.panicked text)), .. } => some (c, text)
  | _ => none

/-- The callers of the joins that had to wait. -/
def waits (es : History J) : List ThreadId := es.filterMap wait?

/-- The callers that a join told of a panic, each with the name that it told. -/
def reports (es : History J) : List (ThreadId × String) := es.filterMap report?

theorem waits_snoc (es : History J) (o : Occurrence Action (Outcome J)) :
    waits (es ++ [o]) = waits es ++ (wait? o).toList :=
  filterMap_snoc wait? es o

theorem reports_snoc (es : History J) (o : Occurrence Action (Outcome J)) :
    reports (es ++ [o]) = reports es ++ (report? o).toList :=
  filterMap_snoc report? es o

/-- How far the joins of a handle got, with the callers that waited and those that were
    told of a panic. -/
inductive Attended (h : Handle J) : List ThreadId → List (ThreadId × String) → Prop
  /-- Nobody waited for the thread. -/
  | nobody :
    h.joiner = none → (h.stage = .joined → h.spawned = none) → Attended h [] []
  /-- A caller waits for the thread. -/
  | waiting {c : ThreadId} :
    h.joiner = some c → h.stage = .joined → Attended h [c] []
  /-- A caller waited until the thread was gone. -/
  | told {c t : ThreadId} {panicked : Bool} :
    h.joiner = none → h.stage = .joined → h.spawned = some ⟨t, .exited panicked⟩ →
    Attended h [c] (if panicked then [(c, h.name.text)] else [])

/-- A join of `c` that waits for the thread of `h` returns when the thread is gone. The
    closure is over then, the alive flag is down, and the caller is told of a panic exactly
    if the closure panicked. -/
structure Returns (es : History J) (h : Handle J) (c : ThreadId) : Prop where
  gone_iff : (∃ e, h.step (.proceed c) = some e) ↔ h.hasExited = true
  result : ∀ e, h.step (.proceed c) = some e →
    e.state = { h with joiner := none } ∧ h.alive = false ∧ ∃ t panicked,
      closings es = [(t, panicked)] ∧
      e.outcome = .returned (if panicked then .error (.panicked h.name.text) else .ok ())

/-! ## One step -/

section Step

variable {h : Handle J} {a : Action} {e : Effect (Handle J) (Outcome J)} {job : J}
  {ws : List ThreadId} {rs : List (ThreadId × String)}

/-- The thread of a join that can tell its result is gone. -/
theorem joinResult_eq_some_iff {result : Except Error Unit} :
    h.joinResult = some result ↔ ∃ t panicked, h.spawned = some ⟨t, .exited panicked⟩ ∧
      result = if panicked then .error (.panicked h.name.text) else .ok () := by
  rw [joinResult]
  split
  · next t panicked hs =>
    refine ⟨fun hr => ⟨t, panicked, hs, (Option.some.inj hr).symm⟩, fun ⟨_, _, hs', hr⟩ => ?_⟩
    rw [hs] at hs'
    cases hs'
    rw [hr]
  · next hne => exact ⟨nofun, fun ⟨t, panicked, hs, _⟩ => absurd hs (hne t panicked)⟩

theorem isSome_joinResult : h.joinResult.isSome = h.hasExited := by
  rw [joinResult, hasExited]
  cases hs : h.spawned with
  | none => rfl
  | some course =>
    obtain ⟨t, progress⟩ := course
    cases progress <;> rfl

theorem next_eq_none_of_isOver {spare alive : Bool} {stored : Option J} {progress : Progress J}
    (hover : progress.isOver = true) : Progress.next spare stored alive progress = none := by
  cases progress with
  | exited => rfl
  | _ => cases hover

/-- In a joined handle the join that waits returns, or everything stays as it is for the joins. -/
theorem Transition.of_joined (ht : Transition h a e) (ho : h.Ordered job) (hs : h.stage = .joined) :
    (∃ c result, h.joiner = some c ∧ h.joinResult = some result ∧ a = .proceed c ∧
      e.state = { h with joiner := none } ∧ e.outcome = .returned result) ∨
    e.state.stage = .joined ∧ e.state.joiner = h.joiner ∧ e.state.name = h.name ∧
      (h.hasExited = true → e.state.spawned = h.spawned) ∧
      wait? (e.after a) = none ∧ report? (e.after a) = none := by
  cases ht with
  | joined _ hj hr => exact .inl ⟨_, _, hj, hr, rfl, rfl, rfl⟩
  | grant hl => simp [ho.idle_of_starting hl] at hs
  | started hl => simp [(ho.of_spawned hl).1] at hs
  | join _ hs' | kill _ hs' | start _ hs' | runEmpty _ hs' | run _ hs' | rename _ _ hs' =>
    simp [hs] at hs'
  | advance hsp hn =>
    refine .inr ⟨hs, rfl, rfl, fun hx => ?_, rfl, rfl⟩
    -- A thread that is gone does not go on.
    rw [hasExited, hsp, Option.any_some] at hx
    rw [next_eq_none_of_isOver hx] at hn
    cases hn
  | ended _ hsp =>
    refine .inr ⟨hs, rfl, rfl, fun hx => ?_, rfl, rfl⟩
    rw [hasExited, hsp, Option.any_some] at hx
    cases hx
  | _ => exact .inr ⟨hs, rfl, rfl, fun _ => rfl, rfl, rfl⟩

/-- Every step keeps the account of the joins. -/
theorem Transition.attended (ht : Transition h a e) (ho : h.Ordered job) (hw : Attended h ws rs) :
    Attended e.state (ws ++ (wait? (e.after a)).toList) (rs ++ (report? (e.after a)).toList) := by
  cases hw with
  | nobody hj hn =>
    cases ht with
    | grant hl => exact .nobody hj fun hs => by simp [ho.idle_of_starting hl] at hs
    | join => exact .waiting rfl rfl
    | joined _ hj' => simp [hj] at hj'
    | started | kill => exact .nobody hj nofun
    | runEmpty ha hs | run ha hs =>
      exact .nobody hj fun _ => (ho.untouched hs (by simp [lock_of_admits ha])).1
    | advance hsp | ended _ hsp => exact .nobody hj fun hs => by simp [hn hs] at hsp
    | _ => exact .nobody hj hn
  | @waiting c hj hs =>
    rcases ht.of_joined ho hs with ⟨d, result, hj', hr, rfl, hstate, hout⟩ | ⟨hs', hj', -, -, hw, hr⟩
    · -- The thread is gone, and the caller is told how the closure ended.
      obtain rfl := Option.some.inj (hj.symm.trans hj')
      obtain ⟨t, panicked, hsp, rfl⟩ := joinResult_eq_some_iff.1 hr
      have htold := Attended.told (h := { h with joiner := none }) (c := c) rfl hs hsp
      rw [hstate, Effect.after, hout]
      cases panicked <;> exact htold
    · rw [hw, hr]
      exact .waiting (hj'.trans hj) hs'
  | told hj hs hx =>
    rcases ht.of_joined ho hs with ⟨d, result, hj', -⟩ | ⟨hs', hj', hname, hsp, hw, hr⟩
    · simp [hj] at hj'
    · have hgone : h.hasExited = true := by rw [hasExited, hx, Option.any_some, Progress.isOver]
      simp only [hw, hr, Option.toList_none, List.append_nil]
      rw [← hname]
      exact .told (hj'.trans hj) hs' ((hsp hgone).trans hx)

theorem Attended.length_le (hw : Attended h ws rs) : ws.length ≤ 1 := by
  cases hw <;> simp

/-- Nobody is told of a panic without having waited. -/
theorem Attended.silent (hw : Attended h ws rs) (hnone : ws = []) : rs = [] := by
  cases hw with
  | nobody => rfl
  | waiting | told => cases hnone

/-- Nobody waited for the thread of a handle that is not joined. -/
theorem Attended.of_stage (hw : Attended h ws rs) (hs : h.stage ≠ .joined) : ws = [] := by
  cases hw with
  | nobody => rfl
  | waiting _ hs' | told _ hs' => exact absurd hs' hs

/-- The caller that waits is the only one that did. -/
theorem Attended.of_joiner (hw : Attended h ws rs) {c : ThreadId} (hj : h.joiner = some c) :
    ws = [c] := by
  cases hw with
  | nobody hj' | told hj' => simp [hj] at hj'
  | waiting hj' =>
    obtain rfl := Option.some.inj (hj.symm.trans hj')
    rfl

/-- A caller that waited waits still, or its join returned when the thread was gone. -/
theorem Attended.of_mem (hw : Attended h ws rs) {c : ThreadId} (hc : c ∈ ws) :
    h.joiner = some c ∧ rs = [] ∨
    h.joiner = none ∧ h.stage = .joined ∧ ∃ t panicked, h.spawned = some ⟨t, .exited panicked⟩ ∧
      rs = if panicked then [(c, h.name.text)] else [] := by
  cases hw with
  | nobody => cases hc
  | waiting hj =>
    obtain rfl := List.mem_singleton.1 hc
    exact .inl ⟨hj, rfl⟩
  | told hj hs hx =>
    obtain rfl := List.mem_singleton.1 hc
    exact .inr ⟨hj, hs, _, _, hx, rfl⟩

/-- A caller waits until its join returns. -/
theorem Transition.joiner (ht : Transition h a e) (ho : h.Ordered job) (hp : h.Placed)
    {c : ThreadId} (hj : h.joiner = some c) (ha : a ≠ .proceed c) : e.state.joiner = some c := by
  rcases ht.of_joined ho (hp.joiner c hj).1 with ⟨d, result, hj', -, hd, -⟩ | ⟨-, hsame, -⟩
  · obtain rfl := Option.some.inj (hj.symm.trans hj')
    exact absurd hd ha
  · exact hsame.trans hj

/-- What a join can come to. -/
theorem Transition.of_join {c : ThreadId} (ht : Transition h (.join c) e) :
    (h.stage = .running ∧ h.isCurrent c = false ∧ e.outcome = .moved ∧
      e.state = { h with stage := .joined, joinable := none, joiner := some c }) ∨
    e.outcome = .returned (.ok ()) ∧ e.state = h := by
  cases ht with
  | joinIgnored | joinSelf => exact .inr ⟨rfl, rfl⟩
  | join _ hs hc => exact .inl ⟨hs, hc, rfl, rfl⟩

theorem exists_join {c : ThreadId} (ha : h.admits c = true) : ∃ e, h.step (.join c) = some e := by
  rw [step]
  split
  · next hn => simp [ha] at hn
  · split
    · exact ⟨_, rfl⟩
    · split <;> exact ⟨_, rfl⟩

/-- The thread of a handle that runs is the one that cannot join it. -/
theorem Ordered.isCurrent_iff (ho : h.Ordered job) (hs : h.stage = .running) {t c : ThreadId}
    {progress : Progress J} (hsp : h.spawned = some ⟨t, progress⟩) :
    h.isCurrent c = true ↔ t = c := by
  obtain ⟨x, hx⟩ := Option.isSome_iff_exists.1 (ho.joinable_iff.2 (.inl hs))
  obtain ⟨progress', hown⟩ := ho.own x hx
  obtain ⟨rfl, -⟩ : t = x ∧ progress = progress' := by simpa [hsp] using hown
  simp [isCurrent, hx]

end Step

/-! ## Every moment -/

section Run

variable {name : ThreadName} {job : J} {es fs : History J} {h h' : Handle J} {c t : ThreadId}
  {panicked : Bool}

theorem IsRun.attended (hr : IsRun name job es h) : Attended h (waits es) (reports es) :=
  hr.invariant (fun fs v => Attended v (waits fs) (reports fs)) (.nobody rfl fun _ => rfl)
    fun fs v a e hv ih he => by
      rw [waits_snoc, reports_snoc]
      exact (transition_of_step he).attended (IsRun.ordered hv) ih

/-- The thread of a handle ran the closure to its end once it is gone, unless the switch was
    raised. -/
theorem IsRun.closings_of_exited (hr : IsRun name job es h) (hk : h.killed = false)
    (hs : h.spawned = some ⟨t, .exited panicked⟩) : closings es = [(t, panicked)] := by
  have hc := course?_of_spawned hs
  have ht := hr.told
  rw [Traced, hc] at ht
  rcases ht.of_exited with hclosed | hi
  · exact hclosed
  · simp [(hr.forestalled hc rfl hi).never_invoked.1] at hk

theorem Ordered.not_killed_of_joined (ho : h.Ordered job) (hs : h.stage = .joined) :
    h.killed = false := by
  rw [← Bool.not_eq_true, ho.killed_iff]
  simp [hs]

/-- A join that waits returns when the thread is gone. -/
theorem IsRun.returns (hr : IsRun name job es h) (hj : h.joiner = some c) : Returns es h c := by
  have ho := hr.ordered
  have hs := (hr.placed.joiner c hj).1
  have hproceed : h.step (.proceed c) = h.joinResult.map fun result =>
      { state := { h with joiner := none }
        outcome := .returned result
        notices := [.threadJoined h.name.text] } := by
    simp [step, proceed, ho.lock_of_joined hs, hj]
  constructor
  · rw [hproceed, ← Option.isSome_iff_exists, Option.isSome_map, isSome_joinResult]
  · intro e he
    rw [hproceed] at he
    obtain ⟨result, hresult, rfl⟩ := Option.map_eq_some_iff.1 he
    obtain ⟨t, panicked, hsp, rfl⟩ := joinResult_eq_some_iff.1 hresult
    -- No kill takes effect on a joined handle, so the flag went down with the thread.
    have hlit := hr.lit.lit (not_dimmed_of_stage (by simp [hs]))
    rw [course?_of_spawned hsp] at hlit
    exact ⟨rfl, hlit, t, panicked, hr.closings_of_exited (ho.not_killed_of_joined hs) hsp, rfl⟩

/-- A caller goes on waiting until its join returns. -/
theorem IsRun.joiner_of_run (hr : IsRun name job es h) (hj : h.joiner = some c)
    (hf : Run step h fs h') (hfs : ∀ o ∈ fs, o.action ≠ .proceed c) : h'.joiner = some c :=
  hf.invariant_of_forall hfs (fun v => v.joiner = some c) hj fun _ _ _ _ hv hjv ha he =>
    (transition_of_step he).joiner (hr.append hv).ordered (hr.append hv).placed hjv ha

/-- Any other thread can join a handle that runs, and waits until its join returns. -/
theorem IsRun.join_running (hr : IsRun name job es h) {progress : Progress J}
    (hsp : h.spawned = some ⟨t, progress⟩) (hs : h.stage = .running) (hl : h.isUnlocked = true)
    (hd : h.dropped = false) (hne : c ≠ t) :
    ∃ e, h.step (.join c) = some e ∧ e.outcome = .moved ∧ ∀ fs h', Run step e.state fs h' →
      (∀ o ∈ fs, o.action ≠ .proceed c) →
      h'.joiner = some c ∧ Returns (es ++ e.after (.join c) :: fs) h' c := by
  obtain ⟨hi, hj⟩ := hr.placed.of_running hs
  have ha : h.admits c = true := by simp [admits, hl, hd, hi, hj, hsp, Ne.symm hne]
  have hc : h.isCurrent c = false := by
    rw [← Bool.not_eq_true, hr.ordered.isCurrent_iff hs hsp]
    exact Ne.symm hne
  obtain ⟨e, he⟩ := exists_join ha
  cases transition_of_step he with
  | joinIgnored _ hns => exact absurd hs hns
  | joinSelf _ _ hc' => simp [hc] at hc'
  | join =>
    refine ⟨_, he, rfl, fun fs h' hf hfs => ?_⟩
    have hjoiner := (hr.snoc he).joiner_of_run rfl hf hfs
    rw [List.append_cons]
    exact ⟨hjoiner, ((hr.snoc he).append hf).returns hjoiner⟩

/-- What the joins of a handle come to. -/
structure JoinedOnce (es : History J) (h : Handle J) : Prop where
  /-- At most one join waits in the life of a handle. -/
  once : (waits es).length ≤ 1
  /-- The one that waits holds up nobody else. -/
  waiter : ∀ c, h.joiner = some c → waits es = [c] ∧ h.isUnlocked = true
  /-- A join marks a running handle joined, and waits, or it returns at once, and changes
      nothing. -/
  joins : ∀ c e, h.step (.join c) = some e →
    (h.stage = .running ∧ waits es = [] ∧ e.outcome = .moved ∧ e.state.stage = .joined ∧
      e.state.joiner = some c) ∨
    e.outcome = .returned (.ok ()) ∧ e.state = h
  answered : ∀ c, h.admits c = true → ∃ e, h.step (.join c) = some e
  /-- A join by the thread of the handle changes nothing, -/
  own : ∀ t progress e, h.spawned = some ⟨t, progress⟩ → h.step (.join t) = some e →
    e.outcome = .returned (.ok ()) ∧ e.state = h
  /-- so another thread can still join the handle, and is told how the closure ended. -/
  outside : ∀ t progress c, h.spawned = some ⟨t, progress⟩ → h.stage = .running →
    h.isUnlocked = true → h.dropped = false → c ≠ t →
    ∃ e, h.step (.join c) = some e ∧ e.outcome = .moved ∧ ∀ fs h', Run step e.state fs h' →
      (∀ o ∈ fs, o.action ≠ .proceed c) →
      h'.joiner = some c ∧ Returns (es ++ e.after (.join c) :: fs) h' c
  /-- A join that waits returns when the closure is over. -/
  returns : ∀ c, h.joiner = some c → Returns es h c
  /-- When it has returned, its caller was told of a panic if the closure panicked. -/
  told : ∀ c, c ∈ waits es → h.joiner = some c ∧ reports es = [] ∨
    h.joiner = none ∧ ∃ t panicked, closings es = [(t, panicked)] ∧
      reports es = if panicked then [(c, h.name.text)] else []
  /-- Nobody is told of a panic without having waited. -/
  silent : waits es = [] → reports es = []
  /-- Nobody is ever told of a panic if a kill took effect. -/
  killed : h.stage = .killed → ∀ fs h', Run step h fs h' → reports (es ++ fs) = []

/-- The thread of a handle is joined once. The join that marks the handle joined is the only one
    that waits; it returns when the closure is over and the alive flag is down, and tells of a
    panic exactly if the closure panicked. Any other join returns at once, so that of the thread
    itself, and after a kill no join tells of a panic. -/
theorem IsRun.joined_once (hr : IsRun name job es h) : JoinedOnce es h where
  once := hr.attended.length_le
  waiter c hj := by
    refine ⟨hr.attended.of_joiner hj, ?_⟩
    rw [isUnlocked, hr.ordered.lock_of_joined (hr.placed.joiner c hj).1, beq_self_eq_true]
  joins c e he := by
    rcases (transition_of_step he).of_join with ⟨hs, -, ho, hstate⟩ | hsame
    · exact .inl ⟨hs, hr.attended.of_stage (by simp [hs]), ho, by rw [hstate], by rw [hstate]⟩
    · exact .inr hsame
  answered _ ha := exists_join ha
  own t progress e hsp he := by
    rcases (transition_of_step he).of_join with ⟨hs, hc, -⟩ | hsame
    · -- The thread of a running handle is the one that does not wait.
      simp [(hr.ordered.isCurrent_iff hs hsp).2 rfl] at hc
    · exact hsame
  outside _ _ _ hsp hs hl hd hne := hr.join_running hsp hs hl hd hne
  returns _ hj := hr.returns hj
  told c hc := by
    rcases hr.attended.of_mem hc with hwaiting | ⟨hj, hs, t, panicked, hsp, hreports⟩
    · exact .inl hwaiting
    · have hk := hr.ordered.not_killed_of_joined hs
      exact .inr ⟨hj, t, panicked, hr.closings_of_exited hk hsp, hreports⟩
  silent := hr.attended.silent
  killed hs fs h' hf := by
    have hw := (hr.append hf).attended
    -- The handle stays killed, so nobody ever waits for its thread.
    have hstage := hr.ordered.stage_of_run hf (.inr hs)
    exact hw.silent (hw.of_stage (by simp [hstage, hs]))

/-- The thread `5` of the first handle joins itself, inside its closure, which panics in the end.
    The thread `2` waits for it, the thread `3` does not, and it is the thread `2` that is told.
    The second handle is killed before its closure panics. -/
theorem joined_once_of_panic :
    ∃ (es fs : History Nat) (h h' : Handle Nat),
      IsRun (.ofString "doomed") 10 es h ∧ waits es = [2] ∧ (∃ e, h.step (.proceed 2) = some e ∧
        e.state.alive = false ∧ e.outcome = .returned (.error (.panicked "doomed"))) ∧
      IsRun (.ofString "stray") 11 fs h' ∧ closings fs = [(5, true)] ∧
        ∀ gs v, Run step h' gs v → reports (fs ++ gs) = [] := by
  obtain ⟨es, h, hplayed, hf⟩ := exists_run step (create (.ofString "doomed") 10)
    [.start 1, .spawn 1 (.ok 5), .proceed 1, .advance 5, .advance 5, .advance 5, .join 5, .join 2,
      .join 3, .ended 5 true, .advance 5, .advance 5]
    (fun es h => (h.joiner, h.hasExited, h.name.text, closings es))
    (some 2, true, "doomed", [(5, true)]) (by decide)
  obtain ⟨fs, h', hplayed', hf'⟩ := exists_run step (create (.ofString "stray") 11)
    [.start 1, .spawn 1 (.ok 5), .proceed 1, .advance 5, .advance 5, .advance 5, .kill 2, .proceed 2,
      .proceed 2, .proceed 2, .join 3, .ended 5 true, .advance 5, .advance 5]
    (fun fs h => (h.stage, closings fs)) (.killed, [(5, true)]) (by decide)
  simp only [Prod.mk.injEq] at hf hf'
  have hr : IsRun (.ofString "doomed") 10 es h := hplayed
  have hr' : IsRun (.ofString "stray") 11 fs h' := hplayed'
  have hreturns := hr.joined_once.returns 2 hf.1
  obtain ⟨e, he⟩ := hreturns.gone_iff.2 hf.2.1
  obtain ⟨hstate, halive, t, panicked, hclosed, ho⟩ := hreturns.result e he
  rw [hf.2.2.2] at hclosed
  cases hclosed
  refine ⟨es, fs, h, h', hr, (hr.joined_once.waiter 2 hf.1).1, ⟨e, he, ?_, ?_⟩, hr', hf'.2,
    hr'.joined_once.killed hf'.1⟩
  · rw [hstate, halive]
  · rw [ho, hf.2.2.1]
    rfl

end Run

end Threading.Handle

import Threading.Proofs.Calls
import Threading.Proofs.Entries
import Threading.Proofs.JobPool.Thread
import Threading.Proofs.Semaphore

/-!
# What a step of a pool with a thread for every job can do

`Transition` lists the steps of a pool whose threads are sound, with what they
change: a submit that is refused, goes through the list, and gets a thread or
does not; a thread that moves by itself, takes a permit, waits for one, or gives
it back; a job that is over; a destroy that goes on thread by thread; the end of
the last reference. Every possible step is one of them (`transition_of_step`), so a
law of all steps is proved by cases on `Transition`.
-/

namespace Threading.JobPool

variable {τ : Type}

/-- What the thread `t` asks the semaphore for, if it arrives or was woken. -/
def asks (t : ThreadId) : Place τ → Option (Semaphore.Action × τ)
  | .arriving job => some (.wait t, job)
  | .waiting job => some (.look t, job)
  | _ => none

/-- What is reported when a thread gives its permit back. -/
def permitNotices (s : Semaphore) : Semaphore.Outcome → List Notice
  | .overflow => [.permitLost (.semaphoreOverflow s.ceiling)]
  | _ => []

/-- The action `a` is possible in `p`, and has this effect. -/
inductive Transition (p : JobPool τ) : Action τ → Effect (JobPool τ) (Outcome τ) → Prop
  /-- The pool takes no more jobs. -/
  | refuse {c : ThreadId} {job : τ} :
    p.admits c = true → p.shutdown = true →
    Transition p (.submit c job) { state := p, outcome := .rejected .shutDown job }
  /-- A submit takes the lock. -/
  | submit {c : ThreadId} {job : τ} :
    p.admits c = true → p.shutdown = false →
    Transition p (.submit c job)
      { state := { p with submitting := some ⟨c, job, .pruning [] p.listed⟩ }, outcome := .moved }
  /-- A thread that is still there stays on the list. -/
  | keep {s : Submit τ} {memory : Bool} {kept rest : List Nat} {i : Nat} {j : JobThread τ} :
    p.submitting = some s → s.stage = .pruning kept (i :: rest) → p.threads[i]? = some j →
    j.handle.stage = .running → j.handle.hasExited = false →
    Transition p (.prune s.caller memory)
      { state := p.setSubmitting s (.pruning (kept ++ [i]) rest), outcome := .moved }
  /-- A thread that somebody joined is forgotten. -/
  | forget {s : Submit τ} {memory : Bool} {kept rest : List Nat} {i : Nat} {j : JobThread τ} :
    p.submitting = some s → s.stage = .pruning kept (i :: rest) → p.threads[i]? = some j →
    j.handle.stage ≠ .running →
    Transition p (.prune s.caller memory)
      { state := p.setSubmitting s (.pruning kept rest), outcome := .moved }
  /-- A thread that is gone is marked as joined. -/
  | pruneMark {s : Submit τ} {memory : Bool} {kept rest : List Nat} {i : Nat} {j : JobThread τ} :
    p.submitting = some s → s.stage = .pruning kept (i :: rest) → p.threads[i]? = some j →
    j.handle.stage = .running → j.handle.hasExited = true → j.handle.isCurrent s.caller = false →
    Transition p (.prune s.caller memory)
      { state := { p with
          threads := p.threads.set i (j.marked s.caller)
          submitting := some { s with stage := .collecting kept i rest } }
        outcome := .moved }
  /-- The join of a thread that is gone is over. -/
  | pruneCollect {s : Submit τ} {memory : Bool} {kept rest : List Nat} {i : Nat} {j : JobThread τ}
      {result : Except Error Unit} :
    p.submitting = some s → s.stage = .collecting kept i rest → p.threads[i]? = some j →
    j.handle.joiner = some s.caller → j.handle.hasExited = true →
    j.handle.joinResult = some result →
    Transition p (.prune s.caller memory)
      { state := { p with
          threads := p.threads.set i j.collected
          submitting := some { s with stage := .pruning kept rest } }
        outcome := .moved
        notices := .threadJoined j.handle.name.text :: joinNotices result }
  /-- The list cannot grow. -/
  | noRoom {s : Submit τ} {memory : Bool} {kept : List Nat} :
    p.submitting = some s → s.stage = .pruning kept [] →
    reserveOne kept.length p.capacity memory = none →
    Transition p (.prune s.caller memory)
      { state := { p with listed := kept, submitting := none }
        outcome := .rejected (.allocation .exhausted) s.job }
  /-- The list has room for another thread. -/
  | makeRoom {s : Submit τ} {memory : Bool} {kept : List Nat} {capacity : Nat} :
    p.submitting = some s → s.stage = .pruning kept [] →
    reserveOne kept.length p.capacity memory = some capacity →
    Transition p (.prune s.caller memory)
      { state := { p with listed := kept, capacity, submitting := some { s with stage := .creating } }
        outcome := .moved }
  /-- The operating system makes the thread of the job. -/
  | accept {s : Submit τ} {t : ThreadId} :
    p.submitting = some s → s.stage = .creating → p.isFresh t = true →
    Transition p (.create s.caller (.ok t))
      { state := { p with
          threads := p.threads ++ [{ handle := .createStarted jobName s.job t }]
          listed := p.listed ++ [p.threads.length]
          submitting := none }
        outcome := .accepted
        notices := [.threadStarted jobName.text] }
  /-- The operating system makes no thread. -/
  | decline {s : Submit τ} {refusal : Refusal} :
    p.submitting = some s → s.stage = .creating →
    Transition p (.create s.caller (.error refusal))
      { state := { p with submitting := none }
        outcome := .rejected (.spawn jobName.text refusal) s.job
        notices := [.threadRefused jobName.text refusal] }
  /-- A thread moves by itself. -/
  | move {i : Nat} {chosen : Option ThreadId} {j j' : JobThread τ} {o : Outcome τ} :
    p.threads[i]? = some j → j.Moves j' o →
    Transition p (.advance i chosen)
      { state := { p with threads := p.threads.set i j' }, outcome := o }
  /-- A thread takes a permit, and its job begins. -/
  | take {i : Nat} {chosen : Option ThreadId} {j : JobThread τ} {t : ThreadId} {job : τ}
      {a : Semaphore.Action} {permits : Semaphore} {ns : List Notice} :
    p.threads[i]? = some j → j.thread? = some t → asks t j.place = some (a, job) →
    p.permits.Transition a { state := permits, outcome := .taken, notices := ns } →
    Transition p (.advance i chosen)
      { state := { p with permits, threads := p.threads.set i { j with place := .working job } }
        outcome := .invoked job }
  /-- A thread finds no permit, and sleeps. -/
  | sleep {i : Nat} {chosen : Option ThreadId} {j : JobThread τ} {t : ThreadId} {job : τ}
      {a : Semaphore.Action} {permits : Semaphore} {ns : List Notice} :
    p.threads[i]? = some j → j.thread? = some t → asks t j.place = some (a, job) →
    p.permits.Transition a { state := permits, outcome := .asleep, notices := ns } →
    Transition p (.advance i chosen)
      { state := { p with permits, threads := p.threads.set i { j with place := .waiting job } }
        outcome := .moved }
  /-- A thread gives its permit back, and leaves the closure. -/
  | giveBack {i : Nat} {chosen : Option ThreadId} {j : JobThread τ} {t : ThreadId}
      {panicked : Bool} {f : Effect Semaphore Semaphore.Outcome} :
    p.threads[i]? = some j → j.place = .returning panicked →
    j.handle.spawned = some ⟨t, .inside⟩ → p.permits.Transition (.post chosen) f →
    Transition p (.advance i chosen)
      { state := { p with
          permits := f.state
          threads := p.threads.set i
            { handle := { j.handle with spawned := some ⟨t, .ended panicked⟩ }, place := .outside } }
        outcome := .moved
        notices := permitNotices p.permits f.outcome }
  /-- The job of a thread is over. -/
  | finish {i : Nat} {j : JobThread τ} {job : τ} {panicked : Bool} :
    p.threads[i]? = some j → j.place = .working job →
    (∀ t, j.thread? = some t → p.isCalling t = false) →
    Transition p (.jobEnded i panicked)
      { state := { p with threads := p.threads.set i { j with place := .returning panicked } }
        outcome := .finished job }
  /-- A thread that waits for a permit wakes for no reason. -/
  | stir {t : ThreadId} {f : Effect Semaphore Semaphore.Outcome} :
    p.permits.Transition (.stir t) f →
    Transition p (.stir t) { state := { p with permits := f.state }, outcome := .moved }
  /-- A destroy shuts the pool down, and takes the list. -/
  | call {c : ThreadId} :
    p.admits c = true →
    Transition p (.destroy c)
      { state := { p with
          shutdown := true
          listed := []
          destroys := p.destroys ++ [(c, .joining p.listed)] }
        outcome := .moved }
  /-- A thread need not, or cannot, be joined. -/
  | pass {c : ThreadId} {i : Nat} {rest : List Nat} {j : JobThread τ} :
    p.destroying c = some (.joining (i :: rest)) → p.threads[i]? = some j →
    j.handle.stage ≠ .running ∨ j.handle.isCurrent c = true →
    Transition p (.proceed c)
      { state := p.setDestroying c (.joining rest)
        outcome := .moved
        notices := if j.handle.stage = .running then [.selfJoinIgnored j.handle.name.text] else [] }
  /-- A thread is marked as joined. -/
  | mark {c : ThreadId} {i : Nat} {rest : List Nat} {j : JobThread τ} :
    p.destroying c = some (.joining (i :: rest)) → p.threads[i]? = some j →
    j.handle.stage = .running → j.handle.isCurrent c = false →
    Transition p (.proceed c)
      { state :=
          { p with threads := p.threads.set i (j.marked c) }.setDestroying c (.collecting i rest)
        outcome := .moved }
  /-- A thread is gone, and its join is over. -/
  | collect {c : ThreadId} {i : Nat} {rest : List Nat} {j : JobThread τ}
      {result : Except Error Unit} :
    p.destroying c = some (.collecting i rest) → p.threads[i]? = some j →
    j.handle.joiner = some c → j.handle.hasExited = true → j.handle.joinResult = some result →
    Transition p (.proceed c)
      { state :=
          { p with threads := p.threads.set i j.collected }.setDestroying c (.joining rest)
        outcome := .moved
        notices := .threadJoined j.handle.name.text :: joinNotices result }
  /-- A destroy joined the threads it took, and is over. -/
  | finishDestroy {c : ThreadId} :
    p.destroying c = some (.joining []) →
    Transition p (.proceed c)
      { state := { p with destroys := Calls.finish p.destroys c }, outcome := .returned }
  /-- The last reference goes. -/
  | abandon :
    p.abandoned = false → p.shutdown = true → p.submitting = none → p.destroys = [] →
    Transition p .abandon { state := { p with abandoned := true }, outcome := .moved }

section Inversion

variable {p : JobPool τ} {e : Effect (JobPool τ) (Outcome τ)}

theorem setHandle_eq {i : Nat} {j : JobThread τ} (h : p.threads[i]? = some j)
    (handle : Handle τ) :
    p.setHandle i handle = { p with threads := p.threads.set i { j with handle } } := by
  rw [setHandle, modify_eq_set h]

theorem setPlace_eq {i : Nat} {j : JobThread τ} (h : p.threads[i]? = some j) (place : Place τ) :
    p.setPlace i place = { p with threads := p.threads.set i { j with place } } := by
  rw [setPlace, modify_eq_set h]

theorem transition_of_submit {c : ThreadId} {job : τ} (he : p.step (.submit c job) = some e) :
    Transition p (.submit c job) e := by
  rw [step] at he
  split at he
  · cases he
  · next ha =>
    have ha : p.admits c = true := by simpa using ha
    split at he
    · next hs =>
      cases he
      exact .refuse ha hs
    · next hs =>
      cases he
      exact .submit ha (by simpa using hs)

/-- The join of a thread marks it as joined, or finds nothing to wait for. -/
theorem join_cases {j : JobThread τ} {c : ThreadId} {f : Effect (Handle τ) (Handle.Outcome τ)}
    (hf : j.handle.step (.join c) = some f) :
    (f.state = j.handle ∧ f.outcome = .returned (.ok ()) ∧
      f.notices = (if j.handle.stage = .running then [.selfJoinIgnored j.handle.name.text] else []) ∧
      (j.handle.stage ≠ .running ∨ j.handle.isCurrent c = true)) ∨
    (f = { state := j.handle.marked c, outcome := .moved } ∧ j.handle.stage = .running ∧
      j.handle.isCurrent c = false) := by
  rw [Handle.step] at hf
  split at hf
  · cases hf
  · split at hf
    · next hr =>
      cases hf
      exact .inl ⟨rfl, rfl, (if_neg hr).symm, .inl hr⟩
    · next hr =>
      have hr : j.handle.stage = .running := by simpa using hr
      split at hf
      · next hc =>
        cases hf
        exact .inl ⟨rfl, rfl, (if_pos hr).symm, .inr hc⟩
      · next hc =>
        cases hf
        exact .inr ⟨rfl, hr, by simpa using hc⟩

/-- The wait for a thread is over once it is gone. -/
theorem collect_cases {j : JobThread τ} {c : ThreadId} (hs : j.Sound)
    {f : Effect (Handle τ) (Handle.Outcome τ)} (hf : j.handle.step (.proceed c) = some f) :
    ∃ result, f = {
        state := j.handle.collected
        outcome := .returned result
        notices := [.threadJoined j.handle.name.text] } ∧
      j.handle.joiner = some c ∧ j.handle.hasExited = true ∧
      j.handle.joinResult = some result := by
  obtain ⟨t, progress, ht, -⟩ := hs.inside_iff
  rw [Handle.step, hs.onlyJoined.proceed] at hf
  split at hf
  · next hj =>
    obtain ⟨result, hr, rfl⟩ := Option.map_eq_some_iff.1 hf
    refine ⟨result, rfl, hj, ?_, hr⟩
    rw [JobThread.hasExited_eq ht]
    simpa [hr] using Handle.OnlyJoined.joinResult_eq_none_iff ht
  · cases hf

/-- A handle whose thread can be joined is finished once that is gone. -/
theorem isFinished_eq {j : JobThread τ} (hs : j.Sound) :
    j.handle.isFinished = (j.handle.stage != .running || j.handle.hasExited) := by
  obtain ⟨t, progress, ht, -⟩ := hs.inside_iff
  rcases hs.onlyJoined.joined _ ht with ⟨hr, hj, -⟩ | ⟨hr, -⟩
  · simp [Handle.isFinished, hr, hj]
  · simp [Handle.isFinished, hr]

/-- The thread of a handle that is gone makes no calls. -/
theorem isCurrent_of_admits {j : JobThread τ} {c : ThreadId} (hs : j.Sound)
    (ha : j.handle.admits c = true) (hg : j.handle.hasExited = true) :
    j.handle.isCurrent c = false := by
  cases hc : j.handle.isCurrent c with
  | false => rfl
  | true =>
    obtain ⟨progress, ht⟩ := hs.onlyJoined.of_isCurrent hc
    rw [JobThread.hasExited_eq ht] at hg
    cases progress <;> simp_all [Handle.admits, Progress.isInside, Progress.isOver]

theorem transition_of_look {s : Submit τ} {memory : Bool} {kept rest : List Nat} {i : Nat}
    {j : JobThread τ} (hsub : p.submitting = some s) (hst : s.stage = .pruning kept (i :: rest))
    (hj : p.threads[i]? = some j) (hs : j.Sound) (he : p.prune s.caller memory = some e) :
    Transition p (.prune s.caller memory) e := by
  simp only [prune, hsub, hst, hj, Option.bind_eq_bind, Option.bind_some, ne_eq, not_true_eq_false,
    if_false] at he
  split at he
  · cases he
  · split at he
    · next hfin =>
      cases he
      simp only [isFinished_eq hs, Bool.not_eq_true', Bool.or_eq_false_iff, bne_eq_false_iff_eq]
        at hfin
      exact .keep hsub hst hj hfin.1 hfin.2
    · next hfin =>
      simp only [isFinished_eq hs, Bool.not_eq_true', Bool.not_eq_false, Bool.or_eq_true,
        bne_iff_ne] at hfin
      cases hjoin : j.handle.step (.join s.caller) with
      | none => simp [hjoin] at he
      | some f =>
        simp only [hjoin, Option.bind_some] at he
        have ha : j.handle.admits s.caller = true := by
          rw [Handle.step] at hjoin
          split at hjoin
          · cases hjoin
          · next ha => simpa using ha
        rcases join_cases hjoin with ⟨hstate, hout, hns, hr⟩ | ⟨rfl, hr, hc⟩
        · have hne : j.handle.stage ≠ .running := by
            rcases hr with hne | hc
            · exact hne
            · rcases hfin with hne | hg
              · exact hne
              · rw [isCurrent_of_admits hs ha hg] at hc
                cases hc
          simp only [hstate, hout, hns, if_neg hne, setHandle_eq hj, set_self hj] at he
          cases he
          exact .forget hsub hst hj hne
        · have hg := hfin.resolve_left (not_not_intro hr)
          simp only [setHandle_eq hj] at he
          cases he
          exact .pruneMark hsub hst hj hr hg hc

theorem transition_of_prune {c : ThreadId} {memory : Bool} (hs : ∀ j ∈ p.threads, j.Sound)
    (he : p.prune c memory = some e) : Transition p (.prune c memory) e := by
  cases hsub : p.submitting with
  | none => simp [prune, hsub] at he
  | some s =>
    by_cases hc : s.caller = c
    · subst hc
      cases hst : s.stage with
      | pruning kept rest =>
        cases rest with
        | nil =>
          simp only [prune, hsub, hst, Option.bind_eq_bind, Option.bind_some, ne_eq,
            not_true_eq_false, if_false] at he
          split at he
          · next hroom =>
            cases he
            exact .noRoom hsub hst hroom
          · next hroom =>
            cases he
            exact .makeRoom hsub hst hroom
        | cons i rest =>
          cases hj : p.threads[i]? with
          | none => simp [prune, hsub, hst, hj] at he
          | some j => exact transition_of_look hsub hst hj (hs j (List.mem_of_getElem? hj)) he
      | collecting kept i rest =>
        cases hj : p.threads[i]? with
        | none => simp [prune, hsub, hst, hj] at he
        | some j =>
          simp only [prune, hsub, hst, hj, Option.bind_eq_bind, Option.bind_some, ne_eq,
            not_true_eq_false, if_false] at he
          cases hf : j.handle.step (.proceed s.caller) with
          | none => simp [hf] at he
          | some f =>
            obtain ⟨result, rfl, hjoiner, hg, hr⟩ :=
              collect_cases (hs j (List.mem_of_getElem? hj)) hf
            simp only [hf, Option.bind_some, setHandle_eq hj] at he
            cases he
            exact .pruneCollect hsub hst hj hjoiner hg hr
      | creating => simp [prune, hsub, hst] at he
    · simp [prune, hsub, hc] at he

theorem transition_of_create {c : ThreadId} {answer : Except Refusal ThreadId}
    (he : p.createThread c answer = some e) : Transition p (.create c answer) e := by
  cases hsub : p.submitting with
  | none => simp [createThread, hsub] at he
  | some s =>
    simp only [createThread, hsub, Option.bind_eq_bind, Option.bind_some] at he
    split at he
    · cases he
    · next hc =>
      obtain ⟨rfl, hst⟩ : s.caller = c ∧ s.stage = .creating := by simpa using hc
      cases answer with
      | ok t =>
        dsimp only at he
        split at he
        · cases he
        · next hfresh =>
          cases he
          exact .accept hsub hst (by simpa using hfresh)
      | error refusal =>
        cases he
        exact .decline hsub hst

theorem transition_of_askPermit {i : Nat} {chosen : Option ThreadId} {j : JobThread τ}
    {t : ThreadId} {job : τ} {a : Semaphore.Action} (hj : p.threads[i]? = some j)
    (ht : j.thread? = some t) (ha : asks t j.place = some (a, job))
    (he : p.askPermit i job a = some e) : Transition p (.advance i chosen) e := by
  cases hf : p.permits.step a with
  | none => simp [askPermit, hf] at he
  | some f =>
    have htrans := Semaphore.transition_of_step hf
    simp only [askPermit, hf, Option.bind_eq_bind, Option.bind_some] at he
    obtain ⟨permits, outcome, notices⟩ := f
    cases outcome with
    | taken =>
      cases he
      rw [setPlace_eq (p := { p with permits }) hj]
      exact .take hj ht ha htrans
    | asleep =>
      cases he
      rw [setPlace_eq (p := { p with permits }) hj]
      exact .sleep hj ht ha htrans
    | _ => cases he

/-- A thread outside the closure of its handle goes on, unless it is gone. -/
theorem advance_outside {i : Nat} {j : JobThread τ} (hj : p.threads[i]? = some j) (hs : j.Sound)
    (hp : j.place = .outside) (chosen : Option ThreadId) :
    (p.advance i chosen = none ∧ j.handle.hasExited = true) ∨ ∃ j' o, j.Moves j' o ∧
      p.advance i chosen =
        some { state := { p with threads := p.threads.set i j' }, outcome := o } := by
  obtain ⟨t, progress, hc, hin⟩ := hs.inside_iff
  have hspared := fun job => hs.onlyJoined.not_spared _ job hc
  simp only [advance, hj, hp, hc, Handle.advance, if_true, Option.bind_eq_bind, Option.bind_some]
  cases progress with
  | created =>
    obtain ⟨job, hjob⟩ := hs.onlyJoined.stored _ hc rfl
    refine .inr ⟨_, _, .begin hp hc hjob, ?_⟩
    simp only [hjob, Handle.Progress.next, Option.map_some, Option.bind_some, setHandle_eq hj]
  | taken job =>
    refine .inr ⟨_, _, .raise hp hc, ?_⟩
    simp only [Handle.Progress.next, Option.map_some, Option.bind_some, setHandle_eq hj]
  | raised job =>
    refine .inr ⟨_, _, .arrive hp hc, ?_⟩
    -- Nobody kills the handles of a pool, so the closure is not spared.
    have hspare : ¬j.handle.killed = true := by simp [hs.onlyJoined.not_killed]
    simp only [Handle.Progress.next, if_neg hspare, Option.map_some, Option.bind_some,
      setHandle_eq hj]
    rw [setPlace_eq (getElem?_set_self_of_some hj _)]
    simp only [List.set_set]
  | inside => exact absurd hp (hin.1 rfl)
  | spared job => exact absurd rfl (hspared job).1
  | unneeded job => exact absurd rfl (hspared job).2
  | ended panicked =>
    refine .inr ⟨_, _, .lower hp hc, ?_⟩
    simp only [Handle.Progress.next, Option.map_some, Option.bind_some, setHandle_eq hj]
  | lowered panicked =>
    refine .inr ⟨_, _, .exit hp hc, ?_⟩
    simp only [Handle.Progress.next, Option.map_some, Option.bind_some, setHandle_eq hj]
  | exited panicked => exact .inl ⟨rfl, by rw [JobThread.hasExited_eq hc, Progress.isOver]⟩

/-- A thread that is about to give its permit back does so, with whatever sleeping
    thread the semaphore wakes. -/
theorem advance_returning {i : Nat} {j : JobThread τ} {panicked : Bool}
    (hj : p.threads[i]? = some j) (hs : j.Sound) (hp : j.place = .returning panicked)
    (chosen : Option ThreadId) : ∃ t, j.handle.spawned = some ⟨t, .inside⟩ ∧
      p.advance i chosen = (p.permits.step (.post chosen)).map fun f =>
        { state := { p with
            permits := f.state
            threads := p.threads.set i
              { handle := { j.handle with spawned := some ⟨t, .ended panicked⟩ }
                place := .outside } }
          outcome := .moved
          notices := permitNotices p.permits f.outcome } := by
  obtain ⟨t, ht⟩ := hs.inside (by simp [hp])
  refine ⟨t, ht, ?_⟩
  simp only [advance, hj, hp, ht, Option.bind_eq_bind, Option.bind_some]
  cases hf : p.permits.step (.post chosen) with
  | none => rfl
  | some f =>
    simp only [Option.bind_some, Option.map_some, Handle.closureEnded, hs.onlyJoined.isCalling ht,
      ht, Bool.false_eq_true, if_false, if_true]
    rw [setHandle_eq (p := { p with permits := f.state }) hj,
      setPlace_eq (getElem?_set_self_of_some hj _)]
    simp only [List.set_set]
    obtain ⟨state, outcome, notices⟩ := f
    cases outcome <;> rfl

theorem transition_of_advance {i : Nat} {chosen : Option ThreadId} (hs : ∀ j ∈ p.threads, j.Sound)
    (he : p.advance i chosen = some e) : Transition p (.advance i chosen) e := by
  cases hj : p.threads[i]? with
  | none => simp [advance, hj] at he
  | some j =>
    have hsj := hs j (List.mem_of_getElem? hj)
    obtain ⟨t, progress, hc, -⟩ := hsj.inside_iff
    have ht : j.thread? = some t := JobThread.thread?_eq_some_iff.2 ⟨progress, hc⟩
    cases hp : j.place with
    | outside =>
      rcases advance_outside hj hsj hp chosen with ⟨hn, -⟩ | ⟨j', o, m, hf⟩
      · rw [hn] at he
        cases he
      · rw [hf] at he
        cases he
        exact .move hj m
    | arriving job =>
      simp only [advance, hj, hc, hp, Option.bind_eq_bind, Option.bind_some] at he
      exact transition_of_askPermit hj ht (by rw [hp, asks]) he
    | waiting job =>
      simp only [advance, hj, hc, hp, Option.bind_eq_bind, Option.bind_some] at he
      exact transition_of_askPermit hj ht (by rw [hp, asks]) he
    | working job => simp [advance, hj, hc, hp] at he
    | returning panicked =>
      obtain ⟨x, hx, hadvance⟩ := advance_returning hj hsj hp chosen
      rw [hadvance] at he
      obtain ⟨f, hf, rfl⟩ := Option.map_eq_some_iff.1 he
      exact .giveBack hj hp hx (Semaphore.transition_of_step hf)

theorem transition_of_jobEnded {i : Nat} {panicked : Bool} (he : p.jobEnded i panicked = some e) :
    Transition p (.jobEnded i panicked) e := by
  cases hj : p.threads[i]? with
  | none => simp [jobEnded, hj] at he
  | some j =>
    simp only [jobEnded, hj, Option.bind_eq_bind, Option.bind_some] at he
    split at he
    · next job hp =>
      split at he
      · cases he
      · next hidle =>
        cases he
        rw [setPlace_eq hj]
        exact .finish hj hp fun t ht => by simpa [ht] using hidle
    · cases he

theorem transition_of_join {c : ThreadId} {i : Nat} {rest : List Nat} {j : JobThread τ}
    (hd : p.destroying c = some (.joining (i :: rest))) (hj : p.threads[i]? = some j)
    (he : p.proceed c = some e) : Transition p (.proceed c) e := by
  simp only [proceed, hd, hj, Option.bind_eq_bind, Option.bind_some] at he
  cases hf : j.handle.step (.join c) with
  | none => simp [hf] at he
  | some f =>
    simp only [hf, Option.bind_some] at he
    rcases join_cases hf with ⟨hstate, hout, hns, hr⟩ | ⟨rfl, hr, hc⟩
    · simp only [hstate, hout, hns, setHandle_eq hj, set_self hj, joinNotices, List.append_nil]
        at he
      cases he
      exact .pass hd hj hr
    · simp only [setHandle_eq hj] at he
      cases he
      exact .mark hd hj hr hc

theorem transition_of_proceed {c : ThreadId} (hs : ∀ j ∈ p.threads, j.Sound)
    (he : p.proceed c = some e) : Transition p (.proceed c) e := by
  cases hd : p.destroying c with
  | none => simp [proceed, hd] at he
  | some d =>
    cases d with
    | joining rest =>
      cases rest with
      | nil =>
        simp only [proceed, hd, Option.bind_eq_bind, Option.bind_some] at he
        cases he
        exact .finishDestroy hd
      | cons i rest =>
        cases hj : p.threads[i]? with
        | none => simp [proceed, hd, hj] at he
        | some j => exact transition_of_join hd hj he
    | collecting i rest =>
      cases hj : p.threads[i]? with
      | none => simp [proceed, hd, hj] at he
      | some j =>
        simp only [proceed, hd, hj, Option.bind_eq_bind, Option.bind_some] at he
        cases hf : j.handle.step (.proceed c) with
        | none => simp [hf] at he
        | some f =>
          obtain ⟨result, rfl, hjoiner, hg, hr⟩ :=
            collect_cases (hs j (List.mem_of_getElem? hj)) hf
          simp only [hf, Option.bind_some, setHandle_eq hj] at he
          cases he
          exact .collect hd hj hjoiner hg hr

/-- Every step of a pool of sound threads is a transition. -/
theorem transition_of_step {a : Action τ} (hs : ∀ j ∈ p.threads, j.Sound)
    (he : p.step a = some e) : Transition p a e := by
  cases a with
  | submit c job => exact transition_of_submit he
  | prune c memory => exact transition_of_prune hs he
  | create c answer => exact transition_of_create he
  | advance i chosen => exact transition_of_advance hs he
  | jobEnded i panicked => exact transition_of_jobEnded he
  | stir t =>
    obtain ⟨f, hf, rfl⟩ := Option.map_eq_some_iff.1 he
    exact .stir (Semaphore.transition_of_step hf)
  | destroy c =>
    rw [step] at he
    split at he
    · cases he
    · next ha =>
      cases he
      exact .call (by simpa using ha)
  | proceed c => exact transition_of_proceed hs he
  | abandon =>
    rw [step] at he
    split at he
    · cases he
    · next h =>
      cases he
      simp only [Bool.or_eq_true, not_or, Bool.not_eq_true, Bool.not_eq_false',
        List.isEmpty_iff, Option.isSome_eq_false_iff, Option.isNone_iff_eq_none] at h
      obtain ⟨⟨⟨ha, hshut⟩, hsub⟩, hd⟩ := h
      exact .abandon ha (by simpa using hshut) hsub (by simpa using hd)

end Inversion

end Threading.JobPool

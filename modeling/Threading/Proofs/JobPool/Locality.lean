import Threading.Proofs.JobPool.Lifetime

/-!
# What a step looks at

A step looks at little of the pool, and changes little of it.

* A thread that moves, or ends its job, looks at itself, at the permits, and at whether it
  has a call under way. So it does the same in every pool in which these are the same,
  whatever the other threads do and whoever holds the lock (`advance_elsewhere`,
  `jobEnded_elsewhere`, `stir_elsewhere`).
* How many threads the list has room for matters only to a submit that finds no memory.
  Where memory is found, the same can happen with any other room (`exists_run_withRoom_iff`).
-/

namespace Threading.JobPool

variable {τ : Type}

/-! ## Threads -/

section Elsewhere

variable {p q : JobPool τ} {i : Nat} {j : JobThread τ} {e : Effect (JobPool τ) (Outcome τ)}

/-- A thread that is in two pools goes on in the one as in the other, if the permits are the
    same. -/
theorem advance_elsewhere {chosen : Option ThreadId} (hj : p.threads[i]? = some j)
    (hj' : q.threads[i]? = some j) (hpermits : q.permits = p.permits)
    (he : p.advance i chosen = some e) :
    ∃ permits j', e.state = { p with permits, threads := p.threads.set i j' } ∧
      q.advance i chosen =
        some { e with state := { q with permits, threads := q.threads.set i j' } } := by
  have asked {a : Semaphore.Action} {job : τ} (he : p.askPermit i job a = some e) :
      ∃ permits j', e.state = { p with permits, threads := p.threads.set i j' } ∧
        q.askPermit i job a =
          some { e with state := { q with permits, threads := q.threads.set i j' } } := by
    rw [askPermit] at he ⊢
    rw [hpermits]
    cases hf : p.permits.step a with
    | none => simp [hf] at he
    | some f =>
      simp only [hf, Option.bind_eq_bind, Option.bind_some] at he ⊢
      cases ho : f.outcome with
      | taken | asleep =>
        simp only [ho, setPlace_eq (p := { p with permits := f.state }) hj,
          setPlace_eq (p := { q with permits := f.state }) hj'] at he ⊢
        cases he
        exact ⟨_, _, rfl, rfl⟩
      | _ => simp [ho] at he
  cases hc : j.handle.spawned with
  | none => simp [advance, hj, hc] at he
  | some course =>
    simp only [advance, hj, hj', hc, Option.bind_eq_bind, Option.bind_some] at he ⊢
    cases hp : j.place with
    | outside =>
      simp only [hp] at he ⊢
      cases hh : j.handle.advance course.thread with
      | none => simp [hh] at he
      | some x =>
        obtain ⟨handle, outcome⟩ := x
        simp only [hh, Option.bind_some, setHandle_eq hj, setHandle_eq hj'] at he ⊢
        cases outcome with
        | invoked job =>
          simp only [setPlace_eq (p := { p with threads := _ }) (getElem?_set_self_of_some hj _),
            setPlace_eq (p := { q with threads := _ }) (getElem?_set_self_of_some hj' _),
            List.set_set] at he ⊢
          cases he
          exact ⟨_, _, rfl, by rw [← hpermits]⟩
        | _ =>
          cases he
          exact ⟨_, _, rfl, by rw [← hpermits]⟩
    | arriving job | waiting job =>
      simp only [hp] at he ⊢
      exact asked he
    | working job => simp [hp] at he
    | returning panicked =>
      simp only [hp, hpermits] at he ⊢
      cases hf : p.permits.step (.post chosen) with
      | none => simp [hf] at he
      | some f =>
        cases hh : j.handle.closureEnded course.thread panicked with
        | none => simp [hf, hh] at he
        | some handle =>
          simp only [hf, hh, Option.bind_some, setHandle_eq (p := { p with permits := f.state }) hj,
            setHandle_eq (p := { q with permits := f.state }) hj'] at he ⊢
          rw [setPlace_eq (getElem?_set_self_of_some hj _)] at he
          rw [setPlace_eq (getElem?_set_self_of_some hj' _)]
          simp only [List.set_set] at he ⊢
          cases he
          exact ⟨_, _, rfl, rfl⟩

/-- A job that is over in one pool is so in another, if its thread has no call under way there. -/
theorem jobEnded_elsewhere {panicked : Bool} (hj : p.threads[i]? = some j)
    (hj' : q.threads[i]? = some j) (hpermits : q.permits = p.permits)
    (hcalling : ∀ t, q.isCalling t = true → p.isCalling t = true)
    (he : p.jobEnded i panicked = some e) :
    ∃ permits j', e.state = { p with permits, threads := p.threads.set i j' } ∧
      q.jobEnded i panicked =
        some { e with state := { q with permits, threads := q.threads.set i j' } } := by
  simp only [jobEnded, hj, hj', Option.bind_eq_bind, Option.bind_some] at he ⊢
  cases hp : j.place with
  | working job =>
    simp only [hp] at he ⊢
    split at he
    · cases he
    · next hidle =>
      rw [setPlace_eq hj] at he
      cases he
      have hidle' : ¬j.thread?.any q.isCalling = true := by
        simp only [Option.any_eq_true, not_exists, not_and] at hidle ⊢
        exact fun t ht hc => hidle t ht (hcalling t hc)
      exact ⟨_, _, rfl, by rw [if_neg hidle', setPlace_eq hj', ← hpermits]⟩
  | _ => simp [hp] at he

/-- A thread may wake for no reason in every pool with the same permits. -/
theorem stir_elsewhere {t : ThreadId} (hpermits : q.permits = p.permits)
    (he : p.step (.stir t) = some e) :
    ∃ permits, e.state = { p with permits } ∧
      q.step (.stir t) = some { e with state := { q with permits } } := by
  obtain ⟨f, hf, rfl⟩ := Option.map_eq_some_iff.1 he
  exact ⟨f.state, rfl, by rw [step, hpermits, hf]; rfl⟩

end Elsewhere

/-! ## Room -/

/-- There is no room for one more element if the list is full and finds no memory. -/
theorem reserveOne_eq_none_iff {length capacity : Nat} {memory : Bool} :
    reserveOne length capacity memory = none ↔ capacity ≤ length ∧ memory = false := by
  rw [reserveOne]
  split
  · next hroom => simp [Nat.not_le.2 hroom]
  · next hfull => cases memory <;> simp [Nat.not_lt.1 hfull]

/-- The pool with room for this many threads on its list. -/
def withRoom (p : JobPool τ) (capacity : Nat) : JobPool τ := { p with capacity }

/-- The action finds memory, if it looks for some. -/
def findsMemory : Action τ → Bool
  | .prune _ memory => memory
  | _ => true

section Room

variable {p q : JobPool τ} {a : Action τ} {e : Effect (JobPool τ) (Outcome τ)} {fs : History τ}

/-- The effect in the pool with another room. -/
def effectWithRoom (n : Nat) (e : Effect (JobPool τ) (Outcome τ)) :
    Effect (JobPool τ) (Outcome τ) :=
  { e with state := e.state.withRoom n }

/-- A submit that looks at a thread does not look at the room. -/
theorem look_withRoom {s : Submit τ} {memory : Bool} {kept rest : List Nat} {i : Nat} (n : Nat)
    (hsub : p.submitting = some s) (hst : s.stage = .pruning kept (i :: rest))
    (he : p.prune s.caller memory = some e) :
    (p.withRoom n).prune s.caller memory = some (effectWithRoom n e) := by
  have hsub' : (p.withRoom n).submitting = some s := hsub
  have hthreads : (p.withRoom n).threads = p.threads := rfl
  simp only [prune, hsub, hsub', hthreads, hst, Option.bind_eq_bind, Option.bind_some, ne_eq,
    not_true_eq_false, if_false] at he ⊢
  cases hj : p.threads[i]? with
  | none => simp [hj] at he
  | some j =>
    simp only [hj, Option.bind_some] at he ⊢
    split at he
    · cases he
    · next hlock =>
      rw [if_neg hlock]
      split at he
      · next hfin =>
        cases he
        rw [if_pos hfin]
        rfl
      · next hfin =>
        rw [if_neg hfin]
        cases hjoin : j.handle.step (.join s.caller) with
        | none => simp [hjoin] at he
        | some f =>
          simp only [hjoin, Option.bind_some] at he ⊢
          cases ho : f.outcome <;> (simp only [ho] at he ⊢; cases he; rfl)

/-- Nor does a submit that waits for a thread. -/
theorem wait_withRoom {s : Submit τ} {memory : Bool} {kept rest : List Nat} {i : Nat} (n : Nat)
    (hsub : p.submitting = some s) (hst : s.stage = .collecting kept i rest)
    (he : p.prune s.caller memory = some e) :
    (p.withRoom n).prune s.caller memory = some (effectWithRoom n e) := by
  have hsub' : (p.withRoom n).submitting = some s := hsub
  have hthreads : (p.withRoom n).threads = p.threads := rfl
  simp only [prune, hsub, hsub', hthreads, hst, Option.bind_eq_bind, Option.bind_some, ne_eq,
    not_true_eq_false, if_false] at he ⊢
  cases hj : p.threads[i]? with
  | none => simp [hj] at he
  | some j =>
    cases hf : j.handle.step (.proceed s.caller) with
    | none => simp [hj, hf] at he
    | some f =>
      simp only [hj, hf, Option.bind_some] at he ⊢
      cases ho : f.outcome with
      | returned result =>
        simp only [ho] at he ⊢
        cases he
        rfl
      | _ => simp [ho] at he

/-- A submit that finds memory finds room in both pools, but not for as many. -/
theorem prune_withRoom {c : ThreadId} (n : Nat) (he : p.prune c true = some e) :
    ∃ m, (p.withRoom n).prune c true = some (effectWithRoom m e) := by
  cases hsub : p.submitting with
  | none => simp [prune, hsub] at he
  | some s =>
    by_cases hc : s.caller = c
    · subst hc
      cases hst : s.stage with
      | pruning kept rest =>
        cases rest with
        | nil =>
          have hroom (capacity : Nat) : ∃ m, reserveOne kept.length capacity true = some m :=
            Option.ne_none_iff_exists'.1 fun hn =>
              Bool.noConfusion (reserveOne_eq_none_iff.1 hn).2
          obtain ⟨k, hk⟩ := hroom p.capacity
          obtain ⟨m, hm⟩ := hroom n
          simp only [prune, hsub, hst, hk, Option.bind_eq_bind, Option.bind_some, ne_eq,
            not_true_eq_false, if_false] at he
          cases he
          refine ⟨m, ?_⟩
          simp only [prune, withRoom, hsub, hst, hm, Option.bind_eq_bind, Option.bind_some, ne_eq,
            not_true_eq_false, if_false]
          rfl
        | cons i rest => exact ⟨n, look_withRoom n hsub hst he⟩
      | collecting kept i rest => exact ⟨n, wait_withRoom n hsub hst he⟩
      | creating => simp [prune, hsub, hst] at he
    · simp [prune, hsub, hc] at he

/-- A submit that is about to create its thread gets one that the operating system makes. -/
theorem createThread_of_isFresh {s : Submit τ} {t : ThreadId} (hsub : p.submitting = some s)
    (hst : s.stage = .creating) (hfresh : p.isFresh t = true) :
    p.createThread s.caller (.ok t) = some {
      state := { p with
        threads := p.threads ++ [{ handle := .createStarted jobName s.job t }]
        listed := p.listed ++ [p.threads.length]
        submitting := none }
      outcome := .accepted
      notices := [.threadStarted jobName.text] } := by
  simp [createThread, hsub, hst, hfresh]

theorem createThread_withRoom {c : ThreadId} {answer : Except Refusal ThreadId} (n : Nat)
    (he : p.createThread c answer = some e) :
    (p.withRoom n).createThread c answer = some (effectWithRoom n e) := by
  cases transition_of_create he with
  | accept hsub hst hfresh => exact createThread_of_isFresh (p := p.withRoom n) hsub hst hfresh
  | decline hsub hst => simp [createThread, withRoom, hsub, hst, effectWithRoom]

theorem proceed_withRoom {c : ThreadId} (n : Nat) (he : p.proceed c = some e) :
    (p.withRoom n).proceed c = some (effectWithRoom n e) := by
  have hd' : (p.withRoom n).destroying c = p.destroying c := rfl
  have hthreads : (p.withRoom n).threads = p.threads := rfl
  simp only [proceed, hd', hthreads] at he ⊢
  cases hd : p.destroying c with
  | none => simp [hd] at he
  | some d =>
    simp only [hd, Option.bind_eq_bind, Option.bind_some] at he ⊢
    cases d with
    | joining rest =>
      cases rest with
      | nil =>
        cases he
        rfl
      | cons i rest =>
        cases hj : p.threads[i]? with
        | none => simp [hj] at he
        | some j =>
          cases hf : j.handle.step (.join c) with
          | none => simp [hj, hf] at he
          | some f =>
            simp only [hj, hf, Option.bind_some] at he ⊢
            cases ho : f.outcome <;> (simp only [ho] at he ⊢; cases he; rfl)
    | collecting i rest =>
      cases hj : p.threads[i]? with
      | none => simp [hj] at he
      | some j =>
        cases hf : j.handle.step (.proceed c) with
        | none => simp [hj, hf] at he
        | some f =>
          simp only [hj, hf, Option.bind_some] at he ⊢
          cases ho : f.outcome with
          | returned result =>
            simp only [ho] at he ⊢
            cases he
            rfl
          | _ => simp [ho] at he

/-- Where memory is found, a step is the same with any room on the list. -/
theorem step_withRoom (ha : findsMemory a = true) (n : Nat) (he : p.step a = some e) :
    ∃ m, (p.withRoom n).step a = some (effectWithRoom m e) := by
  cases a with
  | submit c job =>
    refine ⟨n, ?_⟩
    change (if !p.admits c then none else if p.shutdown then _ else _) = _
    rw [step] at he
    split at he
    · cases he
    · next hc =>
      rw [if_neg hc]
      split at he <;> cases he
      · next hs => rw [if_pos hs]; rfl
      · next hs => rw [if_neg hs]; rfl
  | prune c memory =>
    obtain rfl : memory = true := ha
    exact prune_withRoom n he
  | create c answer => exact ⟨n, createThread_withRoom n he⟩
  | advance i chosen =>
    cases hj : p.threads[i]? with
    | none => simp [step, advance, hj] at he
    | some j =>
      obtain ⟨permits, j', hstate, he'⟩ := advance_elsewhere (q := p.withRoom n) hj hj rfl he
      exact ⟨n, he'.trans (by rw [effectWithRoom, hstate]; rfl)⟩
  | jobEnded i panicked =>
    cases hj : p.threads[i]? with
    | none => simp [step, jobEnded, hj] at he
    | some j =>
      obtain ⟨permits, j', hstate, he'⟩ :=
        jobEnded_elsewhere (q := p.withRoom n) hj hj rfl (fun _ hc => hc) he
      exact ⟨n, he'.trans (by rw [effectWithRoom, hstate]; rfl)⟩
  | stir t =>
    obtain ⟨permits, hstate, he'⟩ := stir_elsewhere (p := p) (q := p.withRoom n) rfl he
    exact ⟨n, he'.trans (by rw [effectWithRoom, hstate]; rfl)⟩
  | destroy c =>
    refine ⟨n, ?_⟩
    change (if !p.admits c then none else _) = _
    rw [step] at he
    split at he
    · cases he
    · next hc =>
      cases he
      rw [if_neg hc]
      rfl
  | proceed c => exact ⟨n, proceed_withRoom n he⟩
  | abandon =>
    refine ⟨n, ?_⟩
    change (if p.abandoned || !p.shutdown || p.submitting.isSome || !p.destroys.isEmpty then none
      else _) = _
    rw [step] at he
    split at he
    · cases he
    · next hc =>
      cases he
      rw [if_neg hc]
      rfl

theorem run_withRoom (hmemory : ∀ o ∈ fs, findsMemory o.action = true) (n : Nat)
    (h : Run step p fs q) : ∃ m, Run step (p.withRoom n) fs (q.withRoom m) := by
  refine h.invariant (fun fs q => (∀ o ∈ fs, findsMemory o.action = true) →
    ∃ m, Run step (p.withRoom n) fs (q.withRoom m)) (fun _ => ⟨n, .nil⟩)
    (fun gs v a e _ ih he hall => ?_) hmemory
  obtain ⟨hbefore, hlast⟩ := List.forall_mem_append.1 hall
  obtain ⟨m, hrun⟩ := ih hbefore
  obtain ⟨k, he'⟩ := step_withRoom (hlast _ (List.mem_singleton_self _)) m he
  exact ⟨k, hrun.snoc he'⟩

/-- Where memory is found, the same happens with any room on the list, and leads to the same
    pool but for the room. -/
theorem exists_run_withRoom_iff (hmemory : ∀ o ∈ fs, findsMemory o.action = true) (n : Nat) :
    (∃ m, Run step (p.withRoom n) fs (q.withRoom m)) ↔ ∃ m, Run step p fs (q.withRoom m) := by
  constructor
  · rintro ⟨m, h⟩
    exact run_withRoom (p := p.withRoom n) (q := q.withRoom m) hmemory p.capacity h
  · rintro ⟨m, h⟩
    exact run_withRoom (q := q.withRoom m) hmemory n h

end Room

end Threading.JobPool

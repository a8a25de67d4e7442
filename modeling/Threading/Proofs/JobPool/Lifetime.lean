import Threading.Proofs.JobPool.Transition
import Threading.Proofs.Run

/-!
# The lifetime of a pool with a thread for every job

A pool begins with its permits and no threads, and lives through the steps of its
threads and of everybody who calls it, in any order (`IsRun`).

Proofs about pools go by `IsRun.induction`: a law holds in every state if it
holds of a new pool, and if every `Transition` keeps it. A step does to every thread
one of a few things (`Changes`), and to every destroy (`Goes`). The first laws: the
threads stay sound (`IsRun.sound`), and no number is that of two of them
(`IsRun.thread_unique`).
-/

namespace Threading.JobPool

variable {τ : Type}

/-- What happened to a pool. -/
abbrev History (τ : Type) := List (Occurrence (Action τ) (Outcome τ))

/-- The pool was made with these permits, then `es` happened, and now it is `p`. -/
def IsRun (permits : UInt32) (es : History τ) (p : JobPool τ) : Prop :=
  ∃ q, create permits = .ok q ∧ Run step q es p

/-! ## One step, thread by thread -/

/-- What the action `a` of the pool `p` may do to its thread `i`. -/
inductive Changes (p : JobPool τ) (a : Action τ) (i : Nat) (j : JobThread τ) :
    JobThread τ → Prop
  | same : Changes p a i j j
  | moves {chosen : Option ThreadId} {j' : JobThread τ} {o : Outcome τ} :
    a = .advance i chosen → j.Moves j' o → Changes p a i j j'
  | takes {t : ThreadId} {b : Semaphore.Action} {job : τ} :
    asks t j.place = some (b, job) → Changes p a i j { j with place := .working job }
  | sleeps {t : ThreadId} {b : Semaphore.Action} {job : τ} :
    asks t j.place = some (b, job) → Changes p a i j { j with place := .waiting job }
  | givesBack {t : ThreadId} {panicked : Bool} :
    j.place = .returning panicked → j.handle.spawned = some ⟨t, .inside⟩ →
    Changes p a i j
      { handle := { j.handle with spawned := some ⟨t, .ended panicked⟩ }, place := .outside }
  | ends {job : τ} {panicked : Bool} :
    a = .jobEnded i panicked → j.place = .working job →
    (∀ t, j.thread? = some t → p.isCalling t = false) →
    Changes p a i j { j with place := .returning panicked }
  | marked {c : ThreadId} :
    j.handle.stage = .running → j.handle.isCurrent c = false → Changes p a i j (j.marked c)
  | collected : j.handle.hasExited = true → Changes p a i j j.collected

theorem place_of_asks {t : ThreadId} {place : Place τ} {b : Semaphore.Action} {job : τ}
    (h : asks t place = some (b, job)) : place = .arriving job ∨ place = .waiting job := by
  cases place <;> simp_all [asks]

namespace Changes

variable {p : JobPool τ} {a : Action τ} {i : Nat} {j j' : JobThread τ}

theorem sound (h : Changes p a i j j') (hs : j.Sound) : j'.Sound := by
  cases h with
  | same => exact hs
  | moves _ m => exact m.sound hs
  | takes ha => exact hs.withPlace (by rcases place_of_asks ha with h | h <;> simp [h]) nofun
  | sleeps ha => exact hs.withPlace (by rcases place_of_asks ha with h | h <;> simp [h]) nofun
  | givesBack _ ht =>
    exact hs.withProgress ht rfl nofun (fun _ => ⟨nofun, nofun⟩) (by simp)
  | ends _ hp _ => exact hs.withPlace (by simp [hp]) nofun
  | marked hr hc => exact hs.marked hr hc
  | collected hg => exact hs.collected hg

theorem thread? (h : Changes p a i j j') : j'.thread? = j.thread? := by
  cases h with
  | moves _ m => cases m <;> simp_all [JobThread.thread?]
  | givesBack _ ht => simp [JobThread.thread?, ht]
  | _ => rfl

/-- A thread that is gone stays gone. -/
theorem hasExited (h : Changes p a i j j') (hs : j.Sound) (hg : j.handle.hasExited = true) :
    j'.handle.hasExited = true := by
  have hp := hs.outside_of_hasExited hg
  cases h with
  | moves _ m => cases m <;> simp_all [Handle.hasExited, Progress.isOver]
  | givesBack hr _ => simp [hp] at hr
  | _ => exact hg

end Changes

theorem changes_set {p : JobPool τ} {a : Action τ} {js : List (JobThread τ)} {i k : Nat}
    {v v' j : JobThread τ} (hv : js[k]? = some v) (hc : Changes p a k v v') (hj : js[i]? = some j) :
    ∃ j', (js.set k v')[i]? = some j' ∧ Changes p a i j j' := by
  by_cases hik : k = i
  · subst hik
    obtain rfl : v = j := Option.some.inj (hv.symm.trans hj)
    exact ⟨v', getElem?_set_self_of_some hv v', hc⟩
  · exact ⟨j, by rw [List.getElem?_set_ne hik, hj], .same⟩

section Transition

variable {p : JobPool τ} {a : Action τ} {e : Effect (JobPool τ) (Outcome τ)}

/-- A step does to every thread one of the things that steps do to threads. -/
theorem Transition.changes (h : Transition p a e) {i : Nat} {j : JobThread τ}
    (hj : p.threads[i]? = some j) :
    ∃ j', e.state.threads[i]? = some j' ∧ Changes p a i j j' := by
  cases h with
  | pruneMark _ _ hv hr _ hc => exact changes_set hv (.marked hr hc) hj
  | pruneCollect _ _ hv _ hg _ => exact changes_set hv (.collected hg) hj
  | accept =>
    obtain ⟨hi, -⟩ := List.getElem?_eq_some_iff.1 hj
    exact ⟨j, by rw [List.getElem?_append_left hi, hj], .same⟩
  | move hv m => exact changes_set hv (.moves rfl m) hj
  | take hv _ ha _ => exact changes_set hv (.takes ha) hj
  | sleep hv _ ha _ => exact changes_set hv (.sleeps ha) hj
  | giveBack hv hp ht _ => exact changes_set hv (.givesBack hp ht) hj
  | finish hv hp hidle => exact changes_set hv (.ends rfl hp hidle) hj
  | mark _ hv hr hc => exact changes_set hv (.marked hr hc) hj
  | collect _ hv _ hg _ => exact changes_set hv (.collected hg) hj
  | _ => exact ⟨j, hj, .same⟩

/-- A step makes a thread with this number, at the end of the list. -/
inductive Makes (p : JobPool τ) : Action τ → ThreadId → JobThread τ → Prop
  | intro {s : Submit τ} {c t : ThreadId} :
    p.submitting = some s → s.caller = c → s.stage = .creating → p.isFresh t = true →
    Makes p (.create c (.ok t)) t { handle := .createStarted jobName s.job t }

/-- A thread after a step was a thread before, or is the one that the step made. -/
theorem Transition.changed (h : Transition p a e) {i : Nat} {j' : JobThread τ}
    (hj' : e.state.threads[i]? = some j') :
    (∃ j, p.threads[i]? = some j ∧ Changes p a i j j') ∨
      (i = p.threads.length ∧ ∃ t, Makes p a t j') := by
  cases hj : p.threads[i]? with
  | some j =>
    obtain ⟨x, hx, hc⟩ := h.changes hj
    obtain rfl : x = j' := Option.some.inj (hx.symm.trans hj')
    exact .inl ⟨j, rfl, hc⟩
  | none =>
    have hi := List.getElem?_eq_none_iff.1 hj
    obtain ⟨hi', -⟩ := List.getElem?_eq_some_iff.1 hj'
    have hset {k : Nat} {v : JobThread τ} (hlt : i < (p.threads.set k v).length) : False := by
      rw [List.length_set] at hlt
      exact absurd hi (Nat.not_le.2 hlt)
    cases h with
    | @accept s t hsub hst hfresh =>
      -- The only thread that was not there is the last one.
      have hlast : i = p.threads.length := by
        simp only [List.length_append, List.length_singleton] at hi'
        omega
      subst hlast
      simp only [List.getElem?_concat_length, Option.some.injEq] at hj'
      subst hj'
      exact .inr ⟨rfl, t, .intro hsub rfl hst hfresh⟩
    | pruneMark | pruneCollect | move | take | sleep | giveBack | finish => exact (hset hi').elim
    | mark => exact (hset hi').elim
    | collect => exact (hset hi').elim
    | _ => exact absurd hi (Nat.not_le.2 hi')

theorem Transition.mem_changed (h : Transition p a e) {j' : JobThread τ}
    (hj' : j' ∈ e.state.threads) :
    (∃ i j, p.threads[i]? = some j ∧ Changes p a i j j') ∨ ∃ t, Makes p a t j' := by
  obtain ⟨i, hi⟩ := List.getElem?_of_mem hj'
  rcases h.changed hi with ⟨j, hj, hc⟩ | ⟨-, hnew⟩
  · exact .inl ⟨i, j, hj, hc⟩
  · exact .inr hnew

/-- A new thread is sound. -/
theorem sound_createStarted (name : ThreadName) (job : τ) (t : ThreadId) :
    JobThread.Sound { handle := .createStarted name job t } where
  onlyJoined := {
    unlocked := rfl
    not_inline := rfl
    not_killed := rfl
    threadless := nofun
    stored := fun _ _ _ => ⟨job, rfl⟩
    not_spared := fun c x hc => by
      obtain rfl := Option.some.inj hc
      exact ⟨nofun, nofun⟩
    joined := fun c hc => by
      obtain rfl := Option.some.inj hc
      exact .inl ⟨rfl, rfl, rfl⟩ }
  kept := rfl
  inside_iff := ⟨t, .created, rfl, by simp⟩

/-- A step of a pool of sound threads leaves them sound. -/
theorem Transition.sound (h : Transition p a e) (hs : ∀ j ∈ p.threads, j.Sound) :
    ∀ j ∈ e.state.threads, j.Sound := by
  intro j' hj'
  rcases h.mem_changed hj' with ⟨i, j, hj, hc⟩ | ⟨t, ⟨-, -, -, -⟩⟩
  · exact hc.sound (hs j (List.mem_of_getElem? hj))
  · exact sound_createStarted ..

end Transition

/-! ## One step, destroy by destroy -/

/-- What the action `a` of the pool `p` may do to the destroy of the thread `c`. -/
inductive Goes (p : JobPool τ) (a : Action τ) (c : ThreadId) :
    Option Joining → Option Joining → Prop
  | same {d : Option Joining} : Goes p a c d d
  | called : a = .destroy c → p.admits c = true → Goes p a c none (some (.joining p.listed))
  | passes {i : Nat} {rest : List Nat} {j : JobThread τ} : a = .proceed c →
    p.threads[i]? = some j → j.handle.stage ≠ .running ∨ j.handle.isCurrent c = true →
    Goes p a c (some (.joining (i :: rest))) (some (.joining rest))
  | marks {i : Nat} {rest : List Nat} {j : JobThread τ} : a = .proceed c →
    p.threads[i]? = some j →
    Goes p a c (some (.joining (i :: rest))) (some (.collecting i rest))
  | collects {i : Nat} {rest : List Nat} {j : JobThread τ} : a = .proceed c →
    p.threads[i]? = some j → j.handle.hasExited = true →
    Goes p a c (some (.collecting i rest)) (some (.joining rest))
  | ends : a = .proceed c → Goes p a c (some (.joining [])) none

section Goes

variable {p q : JobPool τ} {a : Action τ} {e : Effect (JobPool τ) (Outcome τ)} {c x : ThreadId}
  {d d' : Joining}

theorem isCalling_of_admits (h : p.admits c = true) :
    p.submitting = none ∧ p.destroying c = none ∧ p.abandoned = false ∧
      ∀ j ∈ p.threads, j.thread? = some c → j.isWorking = true := by
  simp only [admits, isCalling, Bool.and_eq_true, Bool.not_eq_true', Bool.or_eq_false_iff,
    Option.isSome_eq_false_iff, Option.isNone_iff_eq_none, List.all_eq_true] at h
  obtain ⟨⟨⟨ha, hs⟩, hd, -⟩, hall⟩ := h
  exact ⟨hs, hd, ha, fun j hj ht => by simpa [ht] using hall j hj⟩

theorem destroying_setDestroying (hq : q.destroys = p.destroys) :
    (q.setDestroying x d).destroying c =
      if c = x then (p.destroying x).map fun _ => d else p.destroying c := by
  rw [setDestroying, destroying, destroying, destroying, hq]
  exact Calls.lookup_move

theorem goes_setDestroying (hq : q.destroys = p.destroys) (hd : p.destroying x = some d)
    (hg : Goes p (.proceed x) x (some d) (some d')) :
    Goes p (.proceed x) c (p.destroying c) ((q.setDestroying x d').destroying c) := by
  rw [destroying_setDestroying hq]
  split
  · next hc =>
    subst hc
    rw [hd]
    exact hg
  · exact .same

/-- A step does to every destroy one of the things that steps do to destroys. -/
theorem Transition.goes (h : Transition p a e) (c : ThreadId) :
    Goes p a c (p.destroying c) (e.state.destroying c) := by
  cases h with
  | @call x ha =>
    have hn := (isCalling_of_admits ha).2.1
    change Goes p _ c _ ((p.destroys ++ [(x, Joining.joining p.listed)]).lookup c)
    rw [Calls.lookup_begin hn]
    split
    · next hc =>
      subst hc
      rw [hn]
      exact .called rfl ha
    · exact .same
  | pass hd hj hr => exact goes_setDestroying rfl hd (.passes rfl hj hr)
  | mark hd hj _ _ => exact goes_setDestroying rfl hd (.marks rfl hj)
  | collect hd hj _ hg _ => exact goes_setDestroying rfl hd (.collects rfl hj hg)
  | @finishDestroy x hd =>
    change Goes p _ c _ ((Calls.finish p.destroys x).lookup c)
    rw [Calls.lookup_finish]
    split
    · next hc =>
      subst hc
      rw [hd]
      exact .ends rfl
    · exact .same
  | _ => exact .same

/-- Where a destroy came from. -/
theorem Transition.goes_to (h : Transition p a e) {o : Option Joining}
    (ho : e.state.destroying c = o) : ∃ d, p.destroying c = d ∧ Goes p a c d o :=
  ⟨_, rfl, ho ▸ h.goes c⟩

/-- Where a destroy went from here. -/
theorem Transition.goes_from (h : Transition p a e) {o : Option Joining}
    (ho : p.destroying c = o) : ∃ d, e.state.destroying c = d ∧ Goes p a c o d :=
  ⟨_, rfl, ho ▸ h.goes c⟩

/-- Nobody but its caller moves a destroy. -/
theorem Goes.eq_some {o : Option Joining} (h : Goes p a c (some d) o) (ha : a ≠ .proceed c) :
    o = some d := by
  cases h with
  | same => rfl
  | _ => exact absurd ‹a = .proceed c› ha

end Goes

/-! ## Runs -/

theorem create_eq_ok {permits : UInt32} {q : JobPool τ} (h : create permits = .ok q) :
    permits ≠ 0 ∧ q = { permits := { count := permits, ceiling := permits } } := by
  rw [create] at h
  split at h
  · cases h
  · next hz =>
    have hc : ¬(permits = 0 ∨ permits > permits) := by simp [hz]
    rw [Semaphore.create, if_neg hc] at h
    cases h
    exact ⟨hz, rfl⟩

namespace IsRun

variable {permits : UInt32} {es fs : History τ} {p q : JobPool τ}

theorem snoc {a : Action τ} {e : Effect (JobPool τ) (Outcome τ)} (h : IsRun permits es p)
    (he : p.step a = some e) : IsRun permits (es ++ [e.after a]) e.state :=
  have ⟨q, hq, hrun⟩ := h
  ⟨q, hq, hrun.snoc he⟩

/-- A run of a pool goes on. -/
theorem append (h : IsRun permits es p) (hf : Run step p fs q) : IsRun permits (es ++ fs) q :=
  have ⟨x, hx, hrun⟩ := h
  ⟨x, hx, hrun.append hf⟩

/-- The threads of a pool are sound. -/
theorem sound (h : IsRun permits es p) : ∀ j ∈ p.threads, j.Sound := by
  obtain ⟨q, hq, hrun⟩ := h
  obtain ⟨-, rfl⟩ := create_eq_ok hq
  exact hrun.invariant (fun _ p => ∀ j ∈ p.threads, j.Sound)
    (fun _ hj => absurd hj List.not_mem_nil)
    fun _ _ _ _ _ hs he => (transition_of_step hs he).sound hs

theorem sound_at (h : IsRun permits es p) {i : Nat} {j : JobThread τ}
    (hj : p.threads[i]? = some j) : j.Sound :=
  h.sound j (List.mem_of_getElem? hj)

/-- What holds of a new pool, and is kept by every step, holds of every pool. -/
theorem induction (h : IsRun permits es p) (Inv : History τ → JobPool τ → Prop)
    (hnew : permits ≠ 0 → Inv [] { permits := { count := permits, ceiling := permits } })
    (hstep : ∀ es p a e, IsRun permits es p → Transition p a e → Inv es p →
      Inv (es ++ [e.after a]) e.state) : Inv es p := by
  obtain ⟨q, hq, hrun⟩ := h
  have hq' := create_eq_ok hq
  refine hrun.invariant Inv ?_ fun fs v a e hv hInv he => ?_
  · obtain ⟨hne, rfl⟩ := hq'
    exact hnew hne
  · have hv : IsRun permits fs v := ⟨q, hq, hv⟩
    exact hstep fs v a e hv (transition_of_step hv.sound he) hInv

/-- No number is that of two threads. -/
theorem thread_unique (h : IsRun permits es p) {i k : Nat} {j v : JobThread τ} {t : ThreadId}
    (hj : p.threads[i]? = some j) (hv : p.threads[k]? = some v) (ht : j.thread? = some t)
    (ht' : v.thread? = some t) : i = k := by
  revert i k j v t
  refine h.induction (fun _ p => ∀ {i k : Nat} {j v : JobThread τ} {t : ThreadId},
    p.threads[i]? = some j → p.threads[k]? = some v → j.thread? = some t → v.thread? = some t →
    i = k) (fun _ i k j v t hj => by simp at hj) fun fs q a e _ htrans ih => ?_
  intro i k j' v' t hj hv ht ht'
  -- A new thread has a number of its own.
  have fresh {x : JobThread τ} {n : Nat} {u : JobThread τ} (hnew : Makes q a t x)
      (hu : q.threads[n]? = some u) (htu : u.thread? = some t) : False := by
    obtain ⟨-, -, -, hfresh⟩ := hnew
    simp only [isFresh, Bool.and_eq_true, List.all_eq_true] at hfresh
    simpa [htu] using hfresh.2 u (List.mem_of_getElem? hu)
  have number {x : JobThread τ} {y : ThreadId} (hnew : Makes q a y x) (hx : x.thread? = some t) :
      y = t := by
    obtain ⟨-, -, -, -⟩ := hnew
    exact Option.some.inj hx
  rcases htrans.changed hj with ⟨j, hj, hc⟩ | ⟨rfl, y, hnew⟩ <;>
    rcases htrans.changed hv with ⟨v, hv, hc'⟩ | ⟨rfl, y', hnew'⟩
  · rw [hc.thread?] at ht
    rw [hc'.thread?] at ht'
    exact ih hj hv ht ht'
  · rw [hc.thread?] at ht
    exact (fresh (number hnew' ht' ▸ hnew') hj ht).elim
  · rw [hc'.thread?] at ht'
    exact (fresh (number hnew ht ▸ hnew) hv ht').elim
  · rfl

end IsRun

/-- What happens to a new pool when these actions are taken, and how it ends. -/
def scripted (permits : UInt32) (actions : List (Action τ)) : Option (History τ × JobPool τ) :=
  match create permits with
  | .ok q => play step q actions
  | .error _ => none

/-- Where a script can be played, it is a run. -/
theorem exists_isRun (permits : UInt32) (actions : List (Action τ)) {α : Type}
    (f : History τ → JobPool τ → α) (result : α)
    (h : (scripted permits actions).map (fun x => f x.1 x.2) = some result) :
    ∃ es p, IsRun permits es p ∧ f es p = result := by
  obtain ⟨⟨es, p⟩, hplay, hf⟩ := Option.map_eq_some_iff.1 h
  rw [scripted] at hplay
  split at hplay
  · next q hq => exact ⟨es, p, ⟨q, hq, run_of_play hplay⟩, hf⟩
  · cases hplay

end Threading.JobPool

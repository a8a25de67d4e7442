import Threading.Proofs.WorkerPool.Lifetime

/-!
# Destroys, side by side

Any number of destroys may be under way at once, some called by tasks of the
pool itself. `Teardown` says how they fit together with the workers:

* one of them at a time holds the teardown lock, joins the workers in order, and
  is done with a worker only when its thread is gone;
* a destroy called by a task keeps the task running; it gets past the thread
  it is called on only if that thread was already taken to be joined, by the
  holder of the teardown lock, which then waits for the task.

So the holder of the teardown lock is never a thread of the pool
(`Teardown.outside`).
-/

namespace Threading

namespace Destroying

/-- The destroy holds the teardown lock. -/
def holdsLock : Destroying → Bool
  | joining _ | collecting _ | taking | dropping _ => true
  | _ => false

/-- The destroy found that it is not called on the thread of the worker `i`. -/
def hasPassed (i : Nat) : Destroying → Bool
  | asking k => i < k
  | shutting fromWorker => !fromWorker
  | _ => true

/-- The destroy shut the pool down. -/
def hasShut : Destroying → Bool
  | asking _ | shutting _ => false
  | _ => true

/-- The destroy is done with the worker `i`. -/
def hasSwept (i : Nat) : Destroying → Bool
  | joining k | collecting k => i < k
  | taking | dropping _ => true
  | _ => false

end Destroying

namespace WorkerPool

variable {τ : Type}

/-- How the destroys under way fit together with the workers. -/
structure Teardown (p : WorkerPool τ) : Prop where
  holder : ∀ c, p.teardown = some c ↔ ∃ d, p.destroying c = some d ∧ d.holdsLock = true
  shut : ∀ c d, p.destroying c = some d → d.hasShut = true → p.shutdown = true
  /-- An abandoned pool is shut down, and is not destroyed any more. -/
  abandoned : p.abandoned = true → p.shutdown = true ∧ ∀ c, p.destroying c = none
  kept : p.abandoned = false → ∀ (i : Nat) (w : Worker τ), p.workers[i]? = some w →
    w.handle.dropped = false
  /-- On the thread of a worker, only a task calls. -/
  running : ∀ (i : Nat) (w : Worker τ) (t : ThreadId) (d : Destroying), p.workers[i]? = some w →
    w.thread? = some t → p.destroying t = some d → ∃ task, w.task? = some task
  inside : ∀ c, p.destroying c = some (.shutting true) →
    ∃ (i : Nat) (w : Worker τ), p.workers[i]? = some w ∧ w.thread? = some c
  /-- Who waits for a worker is the destroy that collects it. -/
  joiner : ∀ (i : Nat) (w : Worker τ) (c : ThreadId), p.workers[i]? = some w →
    (w.handle.joiner = some c ↔ p.destroying c = some (.collecting i))
  present : ∀ c k, p.destroying c = some (.collecting k) → k < p.workers.length
  /-- A destroy does not get past its own thread unless that was joined. -/
  passed : ∀ (i : Nat) (w : Worker τ) (t : ThreadId) (d : Destroying), p.workers[i]? = some w →
    w.thread? = some t → p.destroying t = some d → d.hasPassed i = true →
    w.handle.stage = .joined
  swept : ∀ (i : Nat) (w : Worker τ) (c : ThreadId) (d : Destroying), p.workers[i]? = some w →
    p.destroying c = some d → d.hasSwept i = true → w.isGone = true

variable {p : WorkerPool τ} {a : Action τ} {e : Effect (WorkerPool τ) (Outcome τ)}

theorem Transition.holder (ht : Transition p a e) (h : Teardown p) (c : ThreadId) :
    e.state.teardown = some c ↔ ∃ d, e.state.destroying c = some d ∧ d.holdsLock = true := by
  have hc := h.holder c
  cases ht with
  | call _ hd _ =>
    simp only [destroying_mk, destroying_call p hd]
    grind [Destroying.holdsLock]
  | lock =>
    have hc' := h.holder
    simp only [setDestroying_teardown, destroying_setDestroying, destroying_mk, lookup_destroys]
    grind [Destroying.holdsLock]
  | @finishDestroy x =>
    have hx := h.holder x
    simp only [endDestroying_teardown, destroying_endDestroying, destroying_mk, lookup_destroys]
    grind [Destroying.holdsLock]
  | _ =>
    simp only [setDestroying_teardown, endDestroying_teardown, destroying_setDestroying,
      destroying_endDestroying, destroying_mk, lookup_destroys]
    grind [Destroying.holdsLock]

/-- A pool that is shut down stays so. -/
theorem Transition.shutdown (ht : Transition p a e) (h : p.shutdown = true) :
    e.state.shutdown = true := by
  cases ht <;> simp [h]

theorem Transition.shutdown_of_shutting {c : ThreadId} {b : Bool}
    (ht : Transition p (.proceed c) e) (hd : p.destroying c = some (.shutting b)) :
    e.state.shutdown = true := by
  cases ht with
  | move _ m => cases m
  | shutInside => simp
  | shutOutside => simp
  | _ => simp_all

theorem Transition.shut (ht : Transition p a e) (h : Teardown p) {c : ThreadId} {d : Destroying}
    (hd : e.state.destroying c = some d) (hs : d.hasShut = true) : e.state.shutdown = true := by
  obtain ⟨o, ho, hg⟩ := ht.goes_to hd
  cases hg with
  | same => exact ht.shutdown (h.shut c d ho hs)
  | called => cases hs
  | asks => cases hs
  | finds => cases hs
  | asked => cases hs
  | waits ha =>
    subst ha
    exact ht.shutdown_of_shutting ho
  | _ => exact ht.shutdown (h.shut c _ ho rfl)

theorem Transition.abandoned (ht : Transition p a e) (h : Teardown p)
    (ha : e.state.abandoned = true) :
    e.state.shutdown = true ∧ ∀ c, e.state.destroying c = none := by
  by_cases hp : p.abandoned = true
  · obtain ⟨hs, hn⟩ := h.abandoned hp
    refine ⟨ht.shutdown hs, fun c => ?_⟩
    obtain ⟨o, ho, hg⟩ := ht.goes_from (hn c)
    cases hg with
    | same => exact ho
    | called _ hp' => simp [hp] at hp'
  · have hp : p.abandoned = false := by simpa using hp
    cases ht with
    | abandon _ hs hd => exact ⟨hs, fun c => by simp [destroying, hd]⟩
    | abandonLast _ hs hd => exact ⟨hs, fun c => by simp [destroying, hd]⟩
    | _ => simp_all

theorem Transition.not_abandoned (ht : Transition p a e) (ha : e.state.abandoned = false) :
    p.abandoned = false := by
  cases ht with
  | move _ m => exact ha
  | _ => simp_all

theorem Transition.kept (ht : Transition p a e) (h : Teardown p) (ha : e.state.abandoned = false)
    {i : Nat} {w : Worker τ} (hw : e.state.workers[i]? = some w) : w.handle.dropped = false := by
  obtain ⟨v, hv, hc⟩ := ht.changed hw
  have hp : p.abandoned = false ∧ a ≠ .abandon := by
    cases ht with
    | move _ m => exact ⟨ha, by cases m <;> exact nofun⟩
    | _ => simp_all
  have hd := h.kept hp.1 i v hv
  cases hc with
  | moves m => rw [m.dropped, hd]
  | abandoned hab => exact absurd hab hp.2
  | _ => exact hd

/-- A thread of a worker that calls destroy is in a task. -/
theorem Transition.called_from_task (ht : Transition p a e) (h : Teardown p) {i : Nat}
    {w : Worker τ} {t : ThreadId} {d : Destroying} (hw : e.state.workers[i]? = some w)
    (hwt : w.thread? = some t) (hd : e.state.destroying t = some d) :
    ∃ task, w.task? = some task := by
  obtain ⟨v, hv, hc⟩ := ht.changed hw
  have hvt : v.thread? = some t := hc.thread? ▸ hwt
  obtain ⟨o, ho, hg⟩ := ht.goes_to hd
  cases o with
  | none =>
    cases hg with
    | called ha =>
      subst ha
      cases ht with
      | move _ m => cases m
      | call _ _ hrun =>
        -- The call was admitted because a task runs on the thread.
        obtain rfl : v = w := Option.some.inj (hv.symm.trans hw)
        exact Worker.isRunning_iff.1 (hrun v (List.mem_of_getElem? hv) hvt)
  | some d' =>
    obtain ⟨task, htask⟩ := h.running i v t d' hv hvt ho
    refine ⟨task, hc.task? htask ?_⟩
    rintro panicked rfl
    cases ht with
    | move _ m => cases m
    | @finish _ u _ _ hu _ hidle =>
      -- A task is not over while a destroy that it called is under way.
      obtain rfl : u = v := Option.some.inj (hu.symm.trans hv)
      simp [hidle t hvt] at ho

theorem Transition.inside (ht : Transition p a e) (hs : ∀ w ∈ p.workers, w.Sound)
    (h : Teardown p) {c : ThreadId} (hd : e.state.destroying c = some (.shutting true)) :
    ∃ (i : Nat) (w : Worker τ), e.state.workers[i]? = some w ∧ w.thread? = some c := by
  have stays : ∀ (i : Nat) (v : Worker τ), p.workers[i]? = some v → v.thread? = some c →
      ∃ (i : Nat) (w : Worker τ), e.state.workers[i]? = some w ∧ w.thread? = some c := by
    intro i v hv hvt
    obtain ⟨w, hw, hc⟩ := ht.changes hv
    exact ⟨i, w, hw, hc.thread? ▸ hvt⟩
  obtain ⟨o, ho, hg⟩ := ht.goes_to hd
  cases hg with
  | same =>
    obtain ⟨i, v, hv, hvt⟩ := h.inside c ho
    exact stays i v hv hvt
  | finds _ hu hcur =>
    exact stays _ _ hu ((hs _ (List.mem_of_getElem? hu)).thread?_of_isCurrent hcur)

theorem Transition.present (ht : Transition p a e) (h : Teardown p) {c : ThreadId} {k : Nat}
    (hd : e.state.destroying c = some (.collecting k)) : k < e.state.workers.length := by
  rw [ht.length_workers]
  obtain ⟨o, ho, hg⟩ := ht.goes_to hd
  cases hg with
  | same => exact h.present c k ho
  | marks _ hw => exact (List.getElem?_eq_some_iff.1 hw).1

theorem Transition.passed (ht : Transition p a e) (hs : ∀ w ∈ p.workers, w.Sound)
    (h : Teardown p) {i : Nat} {w : Worker τ} {t : ThreadId} {d : Destroying}
    (hw : e.state.workers[i]? = some w) (hwt : w.thread? = some t)
    (hd : e.state.destroying t = some d) (hp : d.hasPassed i = true) :
    w.handle.stage = .joined := by
  obtain ⟨v, hv, hc⟩ := ht.changed hw
  have hvt : v.thread? = some t := hc.thread? ▸ hwt
  have hvs : v.Sound := hs v (List.mem_of_getElem? hv)
  refine hc.joined ?_
  obtain ⟨o, ho, hg⟩ := ht.goes_to hd
  cases hg with
  | same => exact h.passed i v t d hv hvt ho hp
  | called => simp [Destroying.hasPassed] at hp
  | @asks k u _ hu hcur =>
    -- Getting past the worker `k = i` takes that the thread was joined.
    rcases Nat.lt_succ_iff_lt_or_eq.1 (of_decide_eq_true hp) with hik | rfl
    · exact h.passed i v t _ hv hvt ho (decide_eq_true hik)
    · obtain rfl : u = v := Option.some.inj (hu.symm.trans hv)
      exact hvs.joined_of_not_isCurrent hvt hcur
  | finds => cases hp
  | @asked k _ hk =>
    have hi : i < p.workers.length := (List.getElem?_eq_some_iff.1 hv).1
    exact h.passed i v t _ hv hvt ho (decide_eq_true (by omega))
  | _ => exact h.passed i v t _ hv hvt ho rfl

/-- While a destroy is under way, the pool is not abandoned. -/
theorem Teardown.not_abandoned (h : Teardown p) {c : ThreadId} {d : Destroying}
    (hd : p.destroying c = some d) : p.abandoned = false := by
  cases ha : p.abandoned with
  | false => rfl
  | true => simp [(h.abandoned ha).2 c] at hd

/-- Who holds the teardown lock is alone. -/
theorem Teardown.eq_of_holdsLock (h : Teardown p) {c x : ThreadId} {d f : Destroying}
    (hc : p.destroying c = some d) (hx : p.destroying x = some f) (hd : d.holdsLock = true)
    (hf : f.holdsLock = true) : c = x :=
  Option.some.inj (((h.holder c).2 ⟨d, hc, hd⟩).symm.trans ((h.holder x).2 ⟨f, hx, hf⟩))

/-- Who waits for a worker holds the teardown lock. -/
theorem Teardown.teardown_of_joiner (h : Teardown p) {i : Nat} {w : Worker τ} {c : ThreadId}
    (hw : p.workers[i]? = some w) (hj : w.handle.joiner = some c) : p.teardown = some c :=
  (h.holder c).2 ⟨_, (h.joiner i w c hw).1 hj, rfl⟩

/-- The holder of the teardown lock is no thread of the pool. -/
theorem Teardown.outside (h : Teardown p) (hs : ∀ w ∈ p.workers, w.Sound) {c : ThreadId}
    (hc : p.teardown = some c) {i : Nat} {w : Worker τ} (hw : p.workers[i]? = some w) :
    w.thread? ≠ some c := by
  intro hwc
  obtain ⟨d, hd, hl⟩ := (h.holder c).1 hc
  obtain ⟨task, htask⟩ := h.running i w c d hw hwc hd
  have hj : w.handle.stage = .joined :=
    h.passed i w c d hw hwc hd (by cases d <;> first | rfl | cases hl)
  -- Somebody else waits for the worker, and holds the lock.
  obtain ⟨x, hx, hne⟩ := (hs w (List.mem_of_getElem? hw)).joiner_of_task? htask hj
  have hxc : some x = some c := (h.teardown_of_joiner hw hx).symm.trans hc
  exact hne (hwc.trans hxc.symm)

/-- A destroy that passes a worker without waiting finds its thread gone. -/
theorem Teardown.isGone_of_passing (h : Teardown p) (hs : ∀ w ∈ p.workers, w.Sound) {i : Nat}
    {w : Worker τ} {c : ThreadId} (hw : p.workers[i]? = some w)
    (hd : p.destroying c = some (.joining i))
    (hr : w.handle.stage ≠ .running ∨ w.handle.isCurrent c = true) : w.isGone = true := by
  have hws : w.Sound := hs w (List.mem_of_getElem? hw)
  have hc : p.teardown = some c := (h.holder c).2 ⟨_, hd, rfl⟩
  rcases hr with hr | hcur
  · refine hws.isGone_of_joiner hr ?_
    cases hj : w.handle.joiner with
    | none => rfl
    | some x =>
      obtain rfl : x = c := Option.some.inj ((h.teardown_of_joiner hw hj).symm.trans hc)
      have hx := (h.joiner i w x hw).1 hj
      simp [hd] at hx
  · exact absurd (hws.thread?_of_isCurrent hcur) (h.outside hs hc hw)

theorem Transition.swept_isGone (ht : Transition p a e) (hs : ∀ w ∈ p.workers, w.Sound)
    (h : Teardown p) {i : Nat} {w : Worker τ} {c : ThreadId} {d : Destroying}
    (hw : e.state.workers[i]? = some w) (hd : e.state.destroying c = some d)
    (hp : d.hasSwept i = true) : w.isGone = true := by
  obtain ⟨v, hv, hc⟩ := ht.changed hw
  have hvs : v.Sound := hs v (List.mem_of_getElem? hv)
  refine hc.isGone hvs ?_
  obtain ⟨o, ho, hg⟩ := ht.goes_to hd
  cases hg with
  | same => exact h.swept i v c d hv ho hp
  | called => cases hp
  | asks => cases hp
  | finds => cases hp
  | asked => cases hp
  | waits => cases hp
  | locks => simp [Destroying.hasSwept] at hp
  | @passes k u _ hu hr =>
    -- The worker `k = i` is passed without a wait only if its thread is gone.
    rcases Nat.lt_succ_iff_lt_or_eq.1 (of_decide_eq_true hp) with hik | rfl
    · exact h.swept i v c _ hv ho (decide_eq_true hik)
    · obtain rfl : u = v := Option.some.inj (hu.symm.trans hv)
      exact h.isGone_of_passing hs hv ho hr
  | marks => exact h.swept i v c _ hv ho hp
  | @collects k u _ hu hg =>
    rcases Nat.lt_succ_iff_lt_or_eq.1 (of_decide_eq_true hp) with hik | rfl
    · exact h.swept i v c _ hv ho (decide_eq_true hik)
    · obtain rfl : u = v := Option.some.inj (hu.symm.trans hv)
      exact hg
  | @sweeps k _ hk =>
    have hi : i < p.workers.length := (List.getElem?_eq_some_iff.1 hv).1
    exact h.swept i v c _ hv ho (decide_eq_true (by omega))
  | takes => exact h.swept i v c _ hv ho rfl

theorem Transition.joiner (ht : Transition p a e) (hs : ∀ w ∈ p.workers, w.Sound)
    (h : Teardown p) {i : Nat} {w : Worker τ} {c : ThreadId} (hw : e.state.workers[i]? = some w) :
    w.handle.joiner = some c ↔ e.state.destroying c = some (.collecting i) := by
  obtain ⟨v, hv, hc⟩ := ht.changed hw
  have hj := hc.joiner
  have hvj := h.joiner i v c hv
  cases ht with
  | @mark x k u hd hu hr hcur =>
    -- Nobody waited for the worker `k`, and from now on the destroy of `x` does.
    have hfree := (hs u (List.mem_of_getElem? hu)).joiner_of_running hr
    simp only [setDestroying_workers] at hw
    by_cases hik : k = i
    · subst hik
      rw [getElem?_set_self_of_some hu] at hw
      obtain rfl := Option.some.inj hw
      obtain rfl : u = v := Option.some.inj (hu.symm.trans hv)
      simp only [Worker.marked, destroying_setDestroying, destroying_mk, lookup_destroys]
      grind
    · obtain rfl : v = w := by simpa [List.getElem?_set_ne hik, hv] using hw
      simp only [destroying_setDestroying, destroying_mk, lookup_destroys]
      grind
  | @collect x k u result hd hu hjo hg hres =>
    -- The destroy of `x`, which waited for the worker `k`, does not any more.
    simp only [setDestroying_workers] at hw
    by_cases hik : k = i
    · subst hik
      rw [getElem?_set_self_of_some hu] at hw
      obtain rfl := Option.some.inj hw
      obtain rfl : u = v := Option.some.inj (hu.symm.trans hv)
      simp only [Worker.collected, destroying_setDestroying, destroying_mk, lookup_destroys]
      grind
    · obtain rfl : v = w := by simpa [List.getElem?_set_ne hik, hv] using hw
      simp only [destroying_setDestroying, destroying_mk, lookup_destroys]
      grind
  | @move k u u' _ _ _ hu m => cases m <;> simp_all
  | call _ hd _ =>
    simp only [destroying_mk, destroying_call p hd]
    grind
  | _ =>
    simp only [destroying_setDestroying, destroying_endDestroying, destroying_mk, lookup_destroys]
    grind

/-- Every transition keeps the destroys in order. -/
theorem Transition.teardown (ht : Transition p a e) (hs : ∀ w ∈ p.workers, w.Sound)
    (h : Teardown p) : Teardown e.state where
  holder := ht.holder h
  shut _ _ := ht.shut h
  abandoned := ht.abandoned h
  kept ha _ _ := ht.kept h ha
  running _ _ _ _ := ht.called_from_task h
  inside _ := ht.inside hs h
  joiner _ _ _ := ht.joiner hs h
  present _ _ := ht.present h
  passed _ _ _ _ := ht.passed hs h
  swept _ _ _ _ := ht.swept_isGone hs h

theorem teardown_of_fresh {workers : List (Worker τ)} (hf : ∀ w ∈ workers, w.Fresh) :
    Teardown { workers } where
  holder c := by simp
  shut c d hd := by simp at hd
  abandoned ha := by simp at ha
  kept _ i w hw := (hf w (List.mem_of_getElem? hw)).not_dropped
  running _ _ t d _ _ hd := by simp at hd
  inside c hd := by simp at hd
  joiner i w c hw := by simp [(hf w (List.mem_of_getElem? hw)).joiner]
  present c k hd := by simp at hd
  passed _ _ t d _ _ hd := by simp at hd
  swept _ _ c d _ hd := by simp at hd

/-- The destroys fit together with the workers at every moment. -/
theorem IsRun.teardown {label : String} {answers : List (Except Refusal ThreadId)}
    {es : History τ} (h : IsRun label answers es p) : Teardown p :=
  h.induction (fun _ q => Teardown q) (fun _ hf _ => teardown_of_fresh hf)
    fun _ _ _ _ hq _ ht ih => ht.teardown hq.sound ih

/-- No thread granted to the pool holds the teardown lock. -/
theorem IsRun.not_mem_granted {label : String} {answers : List (Except Refusal ThreadId)}
    {es : History τ} (h : IsRun label answers es p) {c : ThreadId} (hc : p.teardown = some c) :
    c ∉ granted answers := by
  intro hgranted
  obtain ⟨w, hw, hwc⟩ := h.mem_granted_iff.1 hgranted
  obtain ⟨i, hi⟩ := List.getElem?_of_mem hw
  exact h.teardown.outside h.sound hc hi hwc

end WorkerPool

end Threading

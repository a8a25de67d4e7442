import Threading.Proofs.JobPool.Lifetime

/-!
# Who calls a pool, and whom they wait for

A submit holds the lock of the pool, so a destroy begins when there is none, and
then there is no other: the pool is shut down, and its list is empty for ever. A
caller goes through a list of threads, those that a submit knows
(`known`) or that a destroy has left (`Joining.left`), and waits for one
thread at a time (`JobPool.awaits`): it is the one that thread has to tell of its end
(`JobPool.joinerAt`).

`Orderly` says so of a pool; it holds at every moment (`IsRun.orderly`).
-/

namespace Threading

/-- The threads that a submit keeps or has still to look at, of those on the list. -/
def Submitting.known (listed : List Nat) : Submitting → List Nat
  | .pruning kept rest => kept ++ rest
  | .collecting kept i rest => kept ++ i :: rest
  | .creating => listed

/-- The thread for which a submit waits. -/
def Submitting.awaited : Submitting → Option Nat
  | .collecting _ i _ => some i
  | _ => none

/-- The threads that a destroy has still to join. -/
def Joining.left : Joining → List Nat
  | .joining rest => rest
  | .collecting i rest => i :: rest

/-- The thread for which a destroy waits. -/
def Joining.awaited : Joining → Option Nat
  | .collecting i _ => some i
  | .joining _ => none

namespace JobPool

variable {τ : Type}

/-- The threads on the list, but for those that a submit takes off it. -/
def known (p : JobPool τ) : List Nat :=
  match p.submitting with
  | some s => s.stage.known p.listed
  | none => p.listed

/-- The thread for which the thread `c` waits. -/
def awaits (p : JobPool τ) (c : ThreadId) : Option Nat :=
  match p.submitting with
  | some s => if s.caller = c then s.stage.awaited else none
  | none => (p.destroying c).bind Joining.awaited

/-- The caller that waits for the end of the thread `i`. -/
def joinerAt (p : JobPool τ) (i : Nat) : Option ThreadId := p.threads[i]?.bind (·.handle.joiner)

/-- Calls of a pool exclude each other, and wait for its threads one by one. -/
structure Orderly (p : JobPool τ) : Prop where
  unshut : p.shutdown = false → p.destroys = []
  shut : p.shutdown = true → p.listed = [] ∧ p.submitting = none
  /-- The thread of a job calls from the job. -/
  calling : ∀ j ∈ p.threads, ∀ t, j.thread? = some t → p.isCalling t = true → j.isWorking = true
  known_lt : ∀ i ∈ p.known, i < p.threads.length
  left_lt : ∀ c d, p.destroying c = some d → ∀ i ∈ d.left, i < p.threads.length
  awaits_iff : ∀ c i, p.awaits c = some i ↔ p.joinerAt i = some c

section Step

variable {p q : JobPool τ} {a : Action τ} {e : Effect (JobPool τ) (Outcome τ)}

theorem known_of_not_submitting (hs : p.submitting = none) : p.known = p.listed := by
  rw [known, hs]

theorem destroying_of_unshut (h : p.destroys = []) (c : ThreadId) : p.destroying c = none := by
  rw [destroying, h]
  rfl

/-- A destroy is under way only in a pool that is shut down, without a submit. -/
theorem Orderly.of_destroying (h : Orderly p) {c : ThreadId} {d : Joining}
    (hd : p.destroying c = some d) : p.shutdown = true ∧ p.listed = [] ∧ p.submitting = none := by
  cases hs : p.shutdown with
  | true => exact ⟨rfl, h.shut hs⟩
  | false =>
    rw [destroying_of_unshut (h.unshut hs)] at hd
    cases hd

/-- A submit is under way only in a pool that is not shut down, without a destroy. -/
theorem Orderly.of_submitting (h : Orderly p) {s : Submit τ} (hs : p.submitting = some s) :
    p.shutdown = false ∧ p.destroys = [] := by
  cases hshut : p.shutdown with
  | true =>
    rw [(h.shut hshut).2] at hs
    cases hs
  | false => exact ⟨rfl, h.unshut hshut⟩

theorem Transition.unshut (ht : Transition p a e) (h : Orderly p) (hs : e.state.shutdown = false) :
    e.state.destroys = [] := by
  cases ht with
  | call => cases hs
  | pass hd | mark hd | collect hd | finishDestroy hd =>
    exact absurd ((h.of_destroying hd).1.symm.trans hs) nofun
  | _ => exact h.unshut hs

theorem Transition.shut (ht : Transition p a e) (h : Orderly p) (hs : e.state.shutdown = true) :
    e.state.listed = [] ∧ e.state.submitting = none := by
  cases ht with
  | submit _ hopen => exact absurd (hopen.symm.trans hs) nofun
  | call ha => exact ⟨rfl, (isCalling_of_admits ha).1⟩
  | keep hsub | forget hsub | pruneMark hsub | pruneCollect hsub | noRoom hsub | makeRoom hsub
  | accept hsub | decline hsub => exact absurd ((h.of_submitting hsub).1.symm.trans hs) nofun
  | _ => exact h.shut hs

/-- A call begins only where the pool admits it. -/
theorem Transition.isCalling (ht : Transition p a e) {t : ThreadId}
    (hc : e.state.isCalling t = true) :
    p.isCalling t = true ∨
      p.admits t = true ∧ (a = .destroy t ∨ ∃ job, a = .submit t job) := by
  rw [JobPool.isCalling, Bool.or_eq_true] at hc
  rcases hc with hd | hs
  · obtain ⟨d', hd'⟩ := Option.isSome_iff_exists.1 hd
    obtain ⟨o, ho, hg⟩ := ht.goes_to hd'
    cases hg with
    | called ha hadmits => exact .inr ⟨hadmits, .inl ha⟩
    | _ => exact .inl (by simp [JobPool.isCalling, ho])
  · cases ht with
    | @submit c job ha _ =>
      obtain rfl : c = t := by simpa using hs
      exact .inr ⟨ha, .inr ⟨job, rfl⟩⟩
    | keep hsub | forget hsub | pruneMark hsub | pruneCollect hsub | makeRoom hsub =>
      simp only [setSubmitting, Option.any_some] at hs
      exact .inl (by simp only [JobPool.isCalling, hsub, Option.any_some, hs, Bool.or_true])
    | noRoom | accept | decline => cases hs
    | _ =>
      rw [JobPool.isCalling, Bool.or_eq_true]
      exact .inl (.inr hs)

/-- The thread of a job calls from the job. -/
theorem Transition.calling (ht : Transition p a e) (h : Orderly p) :
    ∀ j ∈ e.state.threads, ∀ t, j.thread? = some t → e.state.isCalling t = true →
      j.isWorking = true := by
  intro j' hj' t htj hcalling
  rcases ht.mem_changed hj' with ⟨i, j, hj, hc⟩ | ⟨x, ⟨hsub, -, -, hfresh⟩⟩
  · have hmem := List.mem_of_getElem? hj
    rw [hc.thread?] at htj
    have hworking : j.isWorking = true := by
      rcases ht.isCalling hcalling with hcalling | ⟨ha, -⟩
      · exact h.calling j hmem t htj hcalling
      · exact (isCalling_of_admits ha).2.2.2 j hmem htj
    obtain ⟨job, hp⟩ := JobThread.isWorking_iff.1 hworking
    -- From the job, a thread goes on only by its end, and not while it calls.
    cases hc with
    | moves _ m => cases m <;> simp_all
    | takes ha => rcases place_of_asks ha with hp' | hp' <;> simp [hp] at hp'
    | sleeps ha => rcases place_of_asks ha with hp' | hp' <;> simp [hp] at hp'
    | givesBack hp' => simp [hp] at hp'
    | ends ha _ hidle =>
      rcases ht.isCalling hcalling with hcalling | ⟨-, hcall | ⟨_, hcall⟩⟩
      · simp [hidle t htj] at hcalling
      · simp [ha] at hcall
      · simp [ha] at hcall
    | _ => exact hworking
  · -- A new thread has a number that no caller has.
    obtain rfl : x = t := Option.some.inj htj
    rcases ht.isCalling hcalling with hcalling | ⟨ha, -⟩
    · simp [isFresh, hcalling] at hfresh
    · rw [(isCalling_of_admits ha).1] at hsub
      cases hsub

/-- A step adds a thread to those known only by making it. -/
theorem Transition.mem_known (ht : Transition p a e) {i : Nat} (hi : i ∈ e.state.known) :
    i ∈ p.known ∨ i = p.threads.length ∧ e.state.threads.length = i + 1 := by
  cases ht with
  | submit ha =>
    exact .inl (by simpa [known, Submitting.known, (isCalling_of_admits ha).1] using hi)
  | keep hsub hst | forget hsub hst | pruneMark hsub hst | pruneCollect hsub hst =>
    simp only [known, setSubmitting, Submitting.known, hsub, hst] at hi ⊢
    grind
  | noRoom hsub hst | makeRoom hsub hst =>
    exact .inl (by simpa [known, setSubmitting, Submitting.known, hsub, hst] using hi)
  | accept hsub hst =>
    simp only [known, Submitting.known, hsub, hst, List.mem_append,
      List.mem_singleton] at hi ⊢
    exact hi.imp_right fun hlast => ⟨hlast, by simp [hlast]⟩
  | decline hsub hst => exact .inl (by simpa [known, Submitting.known, hsub, hst] using hi)
  | call ha => simp [known, (isCalling_of_admits ha).1] at hi
  | _ => exact .inl hi

/-- A destroy has ever fewer threads to join, of those that were on the list. -/
theorem Goes.left {c : ThreadId} {d' : Joining} {o : Option Joining}
    (hg : Goes p a c o (some d')) :
    (∃ d, o = some d ∧ ∀ i ∈ d'.left, i ∈ d.left) ∨ (a = .destroy c ∧ d' = .joining p.listed) := by
  cases hg with
  | same => exact .inl ⟨d', rfl, fun _ => id⟩
  | called ha => exact .inr ⟨ha, rfl⟩
  | passes => exact .inl ⟨_, rfl, fun _ => List.mem_cons_of_mem _⟩
  | marks => exact .inl ⟨_, rfl, fun _ => id⟩
  | collects => exact .inl ⟨_, rfl, fun _ => List.mem_cons_of_mem _⟩

/-! ## Who waits for whom -/

/-- What a step may do to the callers that wait, and the threads they wait for. -/
inductive Waits (p q : JobPool τ) : Prop
  | same : (∀ c, q.awaits c = p.awaits c) → (∀ i, q.joinerAt i = p.joinerAt i) → Waits p q
  | begins {c : ThreadId} {i : Nat} : p.awaits c = none → p.joinerAt i = none →
    (∀ x, q.awaits x = if x = c then some i else p.awaits x) →
    (∀ k, q.joinerAt k = if k = i then some c else p.joinerAt k) → Waits p q
  | ends {c : ThreadId} {i : Nat} : p.joinerAt i = some c →
    (∀ x, q.awaits x = if x = c then none else p.awaits x) →
    (∀ k, q.joinerAt k = if k = i then none else p.joinerAt k) → Waits p q

theorem Waits.awaits_iff (hw : Waits p q)
    (h : ∀ c i, p.awaits c = some i ↔ p.joinerAt i = some c) (c : ThreadId) (i : Nat) :
    q.awaits c = some i ↔ q.joinerAt i = some c := by
  cases hw with
  | same ha hj => rw [ha, hj, h]
  | @begins x k hx hk ha hj =>
    rw [ha, hj]
    have hxi := h x i
    have hck := h c k
    grind
  | @ends x k hk ha hj =>
    rw [ha, hj]
    have hx := (h x k).2 hk
    have hxi := h x i
    have hck := h c k
    grind

theorem joinerAt_set {i : Nat} {j v : JobThread τ} (hj : p.threads[i]? = some j)
    (hq : q.threads = p.threads.set i v) {k : Nat} :
    q.joinerAt k = if k = i then v.handle.joiner else p.joinerAt k := by
  rw [joinerAt, hq]
  split
  · next hk =>
    subst hk
    rw [getElem?_set_self_of_some hj, Option.bind_some]
  · next hk => rw [List.getElem?_set_ne (Ne.symm hk), joinerAt]

theorem joinerAt_set_of_eq {i : Nat} {j v : JobThread τ} (hj : p.threads[i]? = some j)
    (hq : q.threads = p.threads.set i v) (heq : v.handle.joiner = j.handle.joiner) {k : Nat} :
    q.joinerAt k = p.joinerAt k := by
  rw [joinerAt_set hj hq]
  split
  · next hk => rw [heq, joinerAt, hk, hj, Option.bind_some]
  · rfl

theorem joinerAt_of_getElem? {i : Nat} {j : JobThread τ} (hj : p.threads[i]? = some j) :
    p.joinerAt i = j.handle.joiner := by
  rw [joinerAt, hj, Option.bind_some]

theorem awaits_of_not_submitting (hs : p.submitting = none) {c : ThreadId} :
    p.awaits c = (p.destroying c).bind Joining.awaited := by
  rw [awaits, hs]

theorem awaits_of_destroys_nil (hs : p.submitting = none) (hd : p.destroys = []) {c : ThreadId} :
    p.awaits c = none := by
  rw [awaits_of_not_submitting hs, destroying_of_unshut hd, Option.bind_none]

theorem awaits_submitting {s : Submit τ} {stage : Submitting} (hs : p.submitting = some s)
    (hq : q.submitting = some { s with stage }) {c : ThreadId} :
    q.awaits c = if c = s.caller then stage.awaited else p.awaits c := by
  rw [awaits, awaits, hs, hq]
  grind

theorem awaits_setDestroying {c x : ThreadId} {d d' : Joining} (hs : p.submitting = none)
    (hq : q.submitting = none) (hqd : q.destroys = p.destroys) (hd : p.destroying x = some d) :
    (q.setDestroying x d').awaits c = if c = x then d'.awaited else p.awaits c := by
  rw [awaits_of_not_submitting (p := q.setDestroying x d') hq, awaits_of_not_submitting hs,
    destroying_setDestroying hqd]
  split
  · rw [hd, Option.map_some, Option.bind_some]
  · rfl

/-- Nobody waits for a thread that can be joined. -/
theorem joinerAt_of_running {i : Nat} {j : JobThread τ} (hs : ∀ j ∈ p.threads, j.Sound)
    (hj : p.threads[i]? = some j) (hr : j.handle.stage = .running) : p.joinerAt i = none := by
  rw [joinerAt_of_getElem? hj]
  exact (hs j (List.mem_of_getElem? hj)).onlyJoined.joiner_of_running hr

/-- One destroy changes, and still waits for the same thread, or for none. -/
theorem awaits_of_awaited_eq {c x : ThreadId} {o : Option Joining} (hs : p.submitting = none)
    (hq : q.submitting = none) (hd : q.destroying x = if x = c then o else p.destroying x)
    (ho : o.bind Joining.awaited = (p.destroying c).bind Joining.awaited) :
    q.awaits x = p.awaits x := by
  rw [awaits_of_not_submitting hq, awaits_of_not_submitting hs, hd]
  split
  · next hx => rw [ho, hx]
  · rfl

/-- A step leaves the waiting as it is, or one caller begins or ends to wait. -/
theorem Transition.waits (ht : Transition p a e) (h : Orderly p) (hs : ∀ j ∈ p.threads, j.Sound) :
    Waits p e.state := by
  cases ht with
  | @submit c job ha hopen =>
    have hnone := fun c => awaits_of_destroys_nil (c := c) (isCalling_of_admits ha).1 (h.unshut hopen)
    refine .same (fun x => ?_) fun _ => rfl
    rw [hnone]
    simp [awaits, Submitting.awaited]
  | @keep s _ kept rest i _ hsub hst | @forget s _ kept rest i _ hsub hst
  | @makeRoom s _ kept _ hsub hst =>
    refine .same (fun x => ?_) fun _ => rfl
    rw [awaits_submitting hsub rfl]
    split
    · next hx => simp [awaits, hsub, hx, hst, Submitting.awaited]
    · rfl
  | noRoom hsub hst | decline hsub hst =>
    have hd := (h.of_submitting hsub).2
    refine .same (fun x => Eq.trans (awaits_of_destroys_nil rfl (by exact hd)) ?_) fun _ => rfl
    simp [awaits, hsub, hst, Submitting.awaited]
  | @accept s t hsub hst _ =>
    have hd := (h.of_submitting hsub).2
    refine .same (fun x => Eq.trans (awaits_of_destroys_nil rfl (by exact hd)) ?_) fun i => ?_
    · simp [awaits, hsub, hst, Submitting.awaited]
    · -- Nobody waits for a new thread.
      simp only [joinerAt, List.getElem?_append]
      grind [Handle.createStarted, Handle.create]
  | @pruneMark s _ kept rest i j hsub hst hj hr _ _ =>
    have hnone : p.awaits s.caller = none := by simp [awaits, hsub, hst, Submitting.awaited]
    exact .begins hnone (joinerAt_of_running hs hj hr)
      (fun _ => by rw [awaits_submitting hsub rfl]; rfl)
      fun _ => joinerAt_set (v := j.marked s.caller) hj rfl
  | @pruneCollect s _ kept rest i j _ hsub hst hj hjoiner =>
    exact .ends ((joinerAt_of_getElem? hj).trans hjoiner)
      (fun _ => by rw [awaits_submitting hsub rfl]; rfl)
      fun _ => joinerAt_set (v := j.collected) hj rfl
  | move hj m => exact .same (fun _ => rfl) fun _ => joinerAt_set_of_eq hj rfl (by cases m <;> rfl)
  | take hj | sleep hj | giveBack hj | finish hj =>
    exact .same (fun _ => rfl) fun _ => joinerAt_set_of_eq hj rfl (by rfl)
  | @call c ha =>
    obtain ⟨hsub, hd, -⟩ := isCalling_of_admits ha
    refine .same (fun x => ?_) fun _ => rfl
    exact awaits_of_awaited_eq hsub (by exact hsub) (Calls.lookup_begin hd) (by rw [hd]; rfl)
  | @pass c i rest j hd =>
    have hsub := (h.of_destroying hd).2.2
    refine .same (fun x => ?_) fun _ => rfl
    exact awaits_of_awaited_eq hsub (by exact hsub) (destroying_setDestroying rfl) (by rw [hd]; rfl)
  | @mark c i rest j hd hj hr hc =>
    have hsub := (h.of_destroying hd).2.2
    have hnone : p.awaits c = none := by
      rw [awaits_of_not_submitting hsub, hd]
      rfl
    exact .begins hnone (joinerAt_of_running hs hj hr)
      (fun _ => awaits_setDestroying hsub hsub rfl hd)
      fun _ => joinerAt_set (v := j.marked c) hj rfl
  | @collect c i rest j result hd hj hjoiner =>
    have hsub := (h.of_destroying hd).2.2
    exact .ends ((joinerAt_of_getElem? hj).trans hjoiner)
      (fun _ => awaits_setDestroying hsub hsub rfl hd)
      fun _ => joinerAt_set (v := j.collected) hj rfl
  | @finishDestroy c hd =>
    have hsub := (h.of_destroying hd).2.2
    refine .same (fun x => ?_) fun _ => rfl
    exact awaits_of_awaited_eq hsub (by exact hsub) Calls.lookup_finish (by rw [hd]; rfl)
  | _ => exact .same (fun _ => rfl) fun _ => rfl

theorem Transition.length_threads (ht : Transition p a e) :
    p.threads.length ≤ e.state.threads.length := by
  cases ht with
  | accept => simp
  | pruneMark | pruneCollect | move | take | sleep | giveBack | finish => simp
  | mark | collect => simp [setDestroying]
  | _ => exact Nat.le_refl _

/-- Every step keeps the calls of a pool orderly. -/
theorem Transition.orderly (ht : Transition p a e) (h : Orderly p)
    (hs : ∀ j ∈ p.threads, j.Sound) : Orderly e.state where
  unshut := ht.unshut h
  shut := ht.shut h
  calling := ht.calling h
  known_lt i hi := by
    rcases ht.mem_known hi with hi | ⟨-, hlen⟩
    · exact Nat.lt_of_lt_of_le (h.known_lt i hi) ht.length_threads
    · rw [hlen]
      exact Nat.lt_succ_self i
  left_lt c d' hd' i hi := by
    refine Nat.lt_of_lt_of_le ?_ ht.length_threads
    obtain ⟨o, ho, hg⟩ := ht.goes_to hd'
    rcases hg.left with ⟨d, rfl, hleft⟩ | ⟨rfl, rfl⟩
    · exact h.left_lt c d ho i (hleft i hi)
    · -- A destroy that begins takes the list of a pool that no submit changes.
      cases ht with
      | call ha =>
        refine h.known_lt i ?_
        rw [known_of_not_submitting (isCalling_of_admits ha).1]
        exact hi
  awaits_iff := (ht.waits h hs).awaits_iff h.awaits_iff

/-- A destroy that collects a thread is the one that joins it. -/
theorem Orderly.joiner_of_collecting (h : Orderly p) {c : ThreadId} {i : Nat} {left : List Nat}
    {j : JobThread τ} (hd : p.destroying c = some (.collecting i left))
    (hj : p.threads[i]? = some j) : j.handle.joiner = some c := by
  rw [← joinerAt_of_getElem? hj, ← h.awaits_iff,
    awaits_of_not_submitting (h.of_destroying hd).2.2, hd]
  rfl

end Step

/-- The calls of a pool are orderly at every moment. -/
theorem IsRun.orderly {permits : UInt32} {es : History τ} {p : JobPool τ}
    (h : IsRun permits es p) : Orderly p := by
  refine h.induction (fun _ p => Orderly p) (fun _ => ?_)
    fun _ _ _ _ hq ht ih => ht.orderly ih hq.sound
  exact {
    unshut := fun _ => rfl
    shut := nofun
    calling := fun _ hj => absurd hj List.not_mem_nil
    known_lt := fun _ hi => absurd hi List.not_mem_nil
    left_lt := nofun
    awaits_iff := fun c i => by simp [awaits, joinerAt, destroying] }

end JobPool

end Threading

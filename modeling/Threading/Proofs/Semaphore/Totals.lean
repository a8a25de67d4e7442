import Threading.Proofs.Semaphore

/-!
# Permits in total

A semaphore begins with some of its permits, and lives through waits and posts of any
threads, in any order (`IsRun`). Who called, who was served and how many permits were
given back is read off the history (`callers`, `served`, `posted`).

* At every moment, the permits are those there were and those given back, less those
  taken. They are at most as many as the ceiling allows, so the arithmetic of 32 bits is
  exact, and a post fails at the ceiling only, and then does nothing (`permits_conserved`).
* A semaphore is *quiescent* if nobody who waits can go on: all of them are asleep
  (`Quiescent`). Then the totals tell how many waits returned, how many threads sleep and
  how many permits are left, whatever the order of the calls was, whom the posts woke, and
  who woke for no reason (`IsRun.waits_settled_by_totals`).
-/

namespace Threading.Semaphore

/-- What happened to a semaphore. -/
abbrev History := List (Occurrence Action Outcome)

/-- The semaphore was made with these permits and this ceiling, then `es` happened, and now
    it is `s`. -/
def IsRun (initial ceiling : UInt32) (es : History) (s : Semaphore) : Prop :=
  ∃ new, create initial ceiling = .ok new ∧ Run step new es s

/-- The threads that called a wait, in order. -/
def callers (es : History) : List ThreadId := es.filterMap caller?

/-- The threads whose waits returned, in order. -/
def served (es : History) : List ThreadId := es.filterMap served?

/-- How many permits were given back. -/
def posted (es : History) : Nat := es.countP isPosted

/-- A post is called. -/
def isPost (o : Occurrence Action Outcome) : Bool :=
  match o.action with
  | .post _ => true
  | _ => false

/-- How many posts were called. -/
def posts (es : History) : Nat := es.countP isPost

/-- Nobody who waits can go on: no thread is woken and about to look. Every other call is
    over in one step, or its thread goes to sleep. -/
def Quiescent (s : Semaphore) : Prop := ∀ t, s.step (.look t) = none

theorem quiescent_iff {s : Semaphore} : s.Quiescent ↔ s.waiters.woken = [] := by
  have hlook (t : ThreadId) : s.step (.look t) = none ↔ t ∉ s.waiters.woken := by
    rw [step]
    split
    · next hw => split <;> simpa using hw
    · next hw => simpa using hw
  rw [Quiescent, List.eq_nil_iff_forall_not_mem]
  exact forall_congr' hlook

instance (s : Semaphore) : Decidable s.Quiescent := decidable_of_iff _ quiescent_iff.symm

/-- What becomes of the permits of a semaphore. -/
structure Conserved (initial ceiling : UInt32) (es : History) (s : Semaphore) : Prop where
  /-- The permits are those there were and those given back, less those taken. -/
  count : s.count.toNat + (served es).length = initial.toNat + posted es
  count_le : s.count ≤ ceiling
  /-- A permit that is taken is one less: no count is below zero. -/
  taken : ∀ a e, s.step a = some e → e.outcome = .taken → e.state.count.toNat + 1 = s.count.toNat
  /-- A permit that is given back is one more: no count is beyond 32 bits. -/
  posted : ∀ a e, s.step a = some e → e.outcome = .posted →
    e.state.count.toNat = s.count.toNat + 1
  /-- A post is always over at once. -/
  answered : ∃ chosen e, s.step (.post chosen) = some e
  /-- It fails at the ceiling, and only there. -/
  refused_iff : ∀ chosen e, s.step (.post chosen) = some e →
    (s.postResult e.outcome = .error (.semaphoreOverflow ceiling) ↔ s.count = ceiling)
  accepted_iff : ∀ chosen e, s.step (.post chosen) = some e →
    (s.postResult e.outcome = .ok () ↔ s.count ≠ ceiling)
  /-- When it fails, the count and the threads that wait are as they were. -/
  refused : ∀ chosen e error, s.step (.post chosen) = some e →
    s.postResult e.outcome = .error error → e.state = s

section Step

variable {s : Semaphore} {e : Effect Semaphore Outcome} {chosen : Option ThreadId}

/-- A post fails at the ceiling and does nothing, and gives a permit back below it. -/
theorem Transition.of_post (ht : Transition s (.post chosen) e) :
    (s.count = s.ceiling ∧ s.postResult e.outcome = .error (.semaphoreOverflow s.ceiling) ∧
      e.state = s) ∨ (s.count ≠ s.ceiling ∧ s.postResult e.outcome = .ok ()) := by
  cases ht with
  | overflow hc => exact .inl ⟨hc, rfl, rfl⟩
  | post hne | wake hne => exact .inr ⟨hne, rfl⟩

end Step

section IsRun

variable {initial ceiling : UInt32} {es : History} {s : Semaphore}

/-- What holds of a new semaphore, and is kept by every step, holds of every semaphore. -/
theorem IsRun.induction (h : IsRun initial ceiling es s) (Inv : History → Semaphore → Prop)
    (hnew : initial ≤ ceiling → Inv [] { count := initial, ceiling })
    (hstep : ∀ es s a e, Transition s a e → Inv es s → Inv (es ++ [e.after a]) e.state) :
    Inv es s := by
  obtain ⟨new, hcreate, hrun⟩ := h
  obtain ⟨⟨-, hle⟩, rfl⟩ := create_eq_ok_iff.1 hcreate
  exact hrun.invariant Inv (hnew hle) fun _ _ _ _ _ ih he => hstep _ _ _ _ (transition_of_step he) ih

/-- The count is below the ceiling, and the ceiling is the one the semaphore was made with. -/
theorem IsRun.bounded (h : IsRun initial ceiling es s) : s.ceiling = ceiling ∧ s.count ≤ ceiling := by
  refine h.induction (fun _ s => s.ceiling = ceiling ∧ s.count ≤ ceiling) (fun hle => ⟨rfl, hle⟩) ?_
  rintro _ s a e ht ⟨rfl, hle⟩
  exact ⟨ht.ceiling, ht.ceiling ▸ ht.count_le hle⟩

/-- The permits are those there were and those given back, less those taken. -/
theorem IsRun.count_add_served (h : IsRun initial ceiling es s) :
    s.count.toNat + (served es).length = initial.toNat + posted es := by
  have hlaw : s.count ≤ s.ceiling ∧
      s.count.toNat + (served es).length = initial.toNat + posted es := by
    refine h.induction (fun es s => s.count ≤ s.ceiling ∧
      s.count.toNat + (served es).length = initial.toNat + posted es) (fun hle => ⟨hle, rfl⟩) ?_
    rintro es s a e ht ⟨hle, ih⟩
    have hconserved := ht.conserved hle
    rw [served, posted, filterMap_snoc, countP_snoc, List.length_append]
    rw [served, posted] at ih
    exact ⟨ht.count_le hle, by omega⟩
  exact hlaw.2

/-- Without a failure, every post gives a permit back. -/
theorem IsRun.posted_eq_posts (h : IsRun initial ceiling es s)
    (hes : ∀ o ∈ es, o.outcome ≠ .overflow) : posted es = posts es := by
  revert hes
  refine h.induction (fun es _ => (∀ o ∈ es, o.outcome ≠ .overflow) → posted es = posts es)
    (fun _ _ => rfl) fun es s a e ht ih hes => ?_
  obtain ⟨hbefore, hlast⟩ := List.forall_mem_append.1 hes
  have hlast := hlast _ (List.mem_singleton_self _)
  have hsame : isPosted (e.after a) = isPost (e.after a) := by
    cases ht with
    | overflow => exact absurd rfl hlast
    | _ => rfl
  rw [posted, posts, countP_snoc, countP_snoc, hsame]
  exact congrArg (· + _) (ih hbefore)

/-- The semaphores there are have a ceiling of one at least, and no more permits than that. The
    permits of each of them are conserved at every moment. -/
theorem permits_conserved (initial ceiling : UInt32) :
    ((∃ s, create initial ceiling = .ok s) ↔ 1 ≤ ceiling ∧ initial ≤ ceiling) ∧
      ∀ es s, IsRun initial ceiling es s → Conserved initial ceiling es s := by
  refine ⟨⟨fun ⟨_, hs⟩ => (create_eq_ok_iff.1 hs).1, fun h => ⟨_, create_eq_ok_iff.2 ⟨h, rfl⟩⟩⟩,
    fun es s h => ?_⟩
  obtain ⟨rfl, hle⟩ := h.bounded
  exact {
    count := h.count_add_served
    count_le := hle
    taken := fun _ _ he ho => (transition_of_step he).taken ho
    posted := fun _ _ he ho => ((transition_of_step he).posted hle ho).2
    answered := ⟨_, s.exists_post⟩
    refused_iff := fun _ _ he => by
      rcases (transition_of_step he).of_post with ⟨hc, hr, -⟩ | ⟨hne, hr⟩ <;> simp [*]
    accepted_iff := fun _ _ he => by
      rcases (transition_of_step he).of_post with ⟨hc, hr, -⟩ | ⟨hne, hr⟩ <;> simp [*]
    refused := fun _ _ _ he ho => by
      rcases (transition_of_step he).of_post with ⟨-, -, hstate⟩ | ⟨-, hr⟩
      · exact hstate
      · rw [hr] at ho
        cases ho }

/-- Right below the highest ceiling there is, one wait takes a permit, and three posts are called.
    The last one fails. -/
theorem permits_conserved_at_the_ceiling :
    ∃ es s, IsRun 4294967294 unbounded es s ∧ s.count = unbounded ∧ served es = [1] ∧
      posts es = 3 ∧ posted es = 2 ∧ Conserved 4294967294 unbounded es s := by
  obtain ⟨es, s, hrun, hf⟩ := exists_run step { count := 4294967294, ceiling := unbounded }
    [.wait 1, .post none, .post none, .post none]
    (fun es s => (s.count, served es, posts es, posted es)) (unbounded, [1], 3, 2) (by decide)
  simp only [Prod.mk.injEq] at hf
  have hnew : create 4294967294 unbounded = .ok { count := 4294967294, ceiling := unbounded } :=
    create_eq_ok_iff.2 ⟨by decide, rfl⟩
  exact ⟨es, s, ⟨_, hnew, hrun⟩, hf.1, hf.2.1, hf.2.2.1, hf.2.2.2,
    (permits_conserved _ _).2 es s ⟨_, hnew, hrun⟩⟩

/-- In a quiescent semaphore, as many waits returned as there were permits for, and the other
    threads that called one are asleep. Another order of as many waits and posts, if no post
    fails, comes to as many permits and as many sleeping threads. -/
theorem IsRun.waits_settled_by_totals (h : IsRun initial ceiling es s) (hq : s.Quiescent) :
    s.stock.Settled (callers es) (served es) (initial.toNat + posted es) ∧
      ∀ es' s', IsRun initial ceiling es' s' → s'.Quiescent →
        (callers es').length = (callers es).length → posts es' = posts es →
        (∀ o ∈ es, o.outcome ≠ .overflow) → (∀ o ∈ es', o.outcome ≠ .overflow) →
        s'.count = s.count ∧ s'.waiters.asleep.length = s.waiters.asleep.length := by
  have settled {es : History} {s : Semaphore} (h : IsRun initial ceiling es s)
      (hq : s.Quiescent) :
      s.stock.Settled (callers es) (served es) (initial.toNat + posted es) := by
    have htotal := h.count_add_served
    obtain ⟨new, hcreate, hrun⟩ := h
    obtain ⟨-, rfl⟩ := create_eq_ok_iff.1 hcreate
    exact Stock.settled_of_run hrun rfl (fun _ _ _ he => (transition_of_step he).deal)
      (quiescent_iff.1 hq) ((Nat.add_comm ..).trans htotal)
  refine ⟨settled h hq, fun es' s' h' hq' hcallers hposts hes hes' => ?_⟩
  have hs := settled h hq
  have hs' := settled h' hq'
  have hposted : posted es' = posted es := by
    rw [h'.posted_eq_posts hes', hposts, h.posted_eq_posts hes]
  rw [hposted] at hs'
  refine ⟨UInt32.toNat_inj.1 ?_, ?_⟩
  · exact hs'.size.trans (by rw [hcallers]; exact hs.size.symm)
  · exact hs'.length_asleep.trans (by rw [hcallers]; exact hs.length_asleep.symm)

/-- The thread `1` sleeps, and is woken for a permit that the thread `3` takes before it looks; the
    thread `2` wakes for no reason. In another order, all three come after the permits. -/
theorem waits_settled_by_totals_of_stolen_permit :
    ∃ es s es' s', IsRun 0 2 es s ∧ s.Quiescent ∧ IsRun 0 2 es' s' ∧ s'.Quiescent ∧
      callers es = [1, 2, 3] ∧ served es = [3, 1] ∧ served es' = [3, 2] ∧
      s.stock.Settled (callers es) (served es) 2 ∧ s'.count = s.count ∧
      s'.waiters.asleep.length = s.waiters.asleep.length := by
  obtain ⟨es, s, hrun, hf⟩ := exists_run step { count := 0, ceiling := 2 }
    [.wait 1, .wait 2, .post (some 1), .wait 3, .look 1, .stir 2, .post (some 1), .look 1, .look 2]
    (fun es s => (decide s.Quiescent, callers es, served es, posts es, posted es,
      es.all fun o => o.outcome != .overflow))
    (true, [1, 2, 3], [3, 1], 2, 2, true) (by decide)
  obtain ⟨es', s', hrun', hf'⟩ := exists_run step { count := 0, ceiling := 2 }
    [.post none, .post none, .wait 3, .wait 2, .wait 1]
    (fun es s => (decide s.Quiescent, (callers es).length, served es, posts es,
      es.all fun o => o.outcome != .overflow))
    (true, 3, [3, 2], 2, true) (by decide)
  simp only [Prod.mk.injEq, decide_eq_true_eq, List.all_eq_true, bne_iff_ne] at hf hf'
  obtain ⟨hq, hcallers, hserved, hposts, hposted, hes⟩ := hf
  obtain ⟨hq', hcallers', hserved', hposts', hes'⟩ := hf'
  have hnew : create 0 2 = .ok { count := 0, ceiling := 2 } := create_eq_ok_iff.2 ⟨by decide, rfl⟩
  have h : IsRun 0 2 es s := ⟨_, hnew, hrun⟩
  have h' : IsRun 0 2 es' s' := ⟨_, hnew, hrun'⟩
  obtain ⟨hsettled, hsame⟩ := h.waits_settled_by_totals hq
  obtain ⟨hcount, hasleep⟩ := hsame es' s' h' hq' (by rw [hcallers, hcallers']; rfl)
    (by rw [hposts, hposts']) hes hes'
  rw [hposted] at hsettled
  exact ⟨es, s, es', s', h, hq, h', hq', hcallers, hserved, hserved', hsettled, hcount, hasleep⟩

end IsRun

end Threading.Semaphore

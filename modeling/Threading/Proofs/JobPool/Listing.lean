import Threading.Proofs.JobPool.Custody
import Threading.Proofs.JobPool.Pruning

/-!
# What a submit leaves on the list

A submit looks at each thread that was on the list when it took the lock, once and in this
order, and keeps those that are there when it looks (`Surveyed`). No look is mistaken: a
handle on the list was not joined, so it tells whether its thread is gone
(`IsRun.look_true`). When the thread of the job is made, the list holds the threads that were
kept, and the new one after them (`IsRun.listed_of_accepted`).
-/

namespace Threading.JobPool

variable {τ : Type}

/-- The threads that were there when a submit looked. -/
def there (seen : List (Nat × Bool)) : List Nat := (seen.filter fun x => !x.2).map Prod.fst

/-- How far a submit came with the list, which was `listed` when it took the lock: it has seen
    these threads, and kept those that were there. -/
def Surveyed (listed : List Nat) (seen : List (Nat × Bool)) (p : JobPool τ) : Submitting → Prop
  | .pruning kept rest | .collecting kept _ rest =>
    seen.map Prod.fst ++ rest = listed ∧ kept = there seen
  | .creating => seen.map Prod.fst = listed ∧ p.listed = there seen

/-! ## One step -/

section Step

variable {p : JobPool τ} {a : Action τ} {e : Effect (JobPool τ) (Outcome τ)} {s : Submit τ}
  {es : History τ} {ms : List (Moment τ)} {listed : List Nat} {seen : List (Nat × Bool)}

theorem look?_eq_some {m : Moment τ} {i : Nat} {gone : Bool} (h : look? m = some (i, gone)) :
    ∃ c, errand? m = some (c, i, .look gone) := by
  rw [look?] at h
  split at h
  · next c k b heq =>
    cases h
    exact ⟨c, heq⟩
  · cases h

/-- A submit that goes through the list looks at the first thread that is left. -/
theorem look?_of_pruning {o : Occurrence (Action τ) (Outcome τ)} {c : ThreadId} {memory : Bool}
    {kept rest : List Nat} {i : Nat} {j : JobThread τ} (ho : o.action = .prune c memory)
    (hsub : p.submitting = some s) (hst : s.stage = .pruning kept (i :: rest))
    (hj : p.threads[i]? = some j) : look? (p, o) = some (i, j.handle.isFinished) := by
  simp [look?, errand?, ho, hsub, hst, hj]

/-- A thread that can be joined tells whether it is gone. -/
theorem look?_of_running {o : Occurrence (Action τ) (Outcome τ)} {c : ThreadId} {memory : Bool}
    {kept rest : List Nat} {i : Nat} {j : JobThread τ} (ho : o.action = .prune c memory)
    (hsub : p.submitting = some s) (hst : s.stage = .pruning kept (i :: rest))
    (hj : p.threads[i]? = some j) (hs : j.Sound) (hr : j.handle.stage = .running) :
    look? (p, o) = some (i, j.handle.hasExited) := by
  rw [look?_of_pruning ho hsub hst hj, isFinished_eq hs, hr]
  rfl

/-- Only a submit looks at threads on the list. -/
theorem Transition.look?_eq_none (ht : Transition p a e) (hsub : p.submitting = some s)
    (ha : isSubmitStep s.caller a = false) :
    look? (p, e.after a) = none := by
  refine Option.eq_none_iff_forall_ne_some.2 ?_
  rintro ⟨i, gone⟩ hlook
  obtain ⟨c, herrand⟩ := look?_eq_some hlook
  rcases errand_cases herrand with ⟨memory, s', rfl, -⟩ | ⟨-, ⟨_, -, hn⟩ | ⟨_, -, hn⟩⟩
  · cases ht with
    | keep hsub' | forget hsub' | pruneMark hsub' | pruneCollect hsub' | noRoom hsub'
    | makeRoom hsub' =>
      obtain rfl := Option.some.inj (hsub.symm.trans hsub')
      simp [isSubmitStep] at ha
  · cases hn
  · cases hn

/-- A submit that goes on has seen what it has seen. -/
theorem Transition.surveyed (ht : Transition p a e) (ho : Orderly p)
    (hs : ∀ j ∈ p.threads, j.Sound) (hsub : p.submitting = some s)
    (h : Surveyed listed seen p s.stage) (hends : ¬EndsSubmit s.caller (e.after a)) :
    e.state.threads.length = p.threads.length ∧
    ∃ stage, e.state.submitting = some { s with stage } ∧
      Surveyed listed (seen ++ (look? (p, e.after a)).toList) e.state stage := by
  cases ha : isSubmitStep s.caller a with
  | false =>
    have hlook := ht.look?_eq_none hsub ha
    refine ⟨?_, s.stage, ht.untouched ho hsub ha, ?_⟩
    · cases ht with
      | accept hsub' =>
        obtain rfl := Option.some.inj (hsub.symm.trans hsub')
        simp [isSubmitStep] at ha
      | _ => simp [setSubmitting, setDestroying]
    · rw [hlook, Option.toList_none, List.append_nil]
      -- Nobody else changes the list.
      have hlisted : e.state.listed = p.listed := by
        cases ht with
        | noRoom hsub' | makeRoom hsub' | accept hsub' =>
          obtain rfl := Option.some.inj (hsub.symm.trans hsub')
          simp [isSubmitStep] at ha
        | call hadmits => simp [(isCalling_of_admits hadmits).1] at hsub
        | _ => rfl
      revert h
      cases s.stage with
      | creating => exact And.imp_right fun h => hlisted.trans h
      | _ => exact id
  | true =>
    cases ht with
    | @keep s' memory kept rest i j hsub' hst hj hr hg =>
      obtain rfl := Option.some.inj (hsub.symm.trans hsub')
      rw [hst] at h
      rw [look?_of_running rfl hsub hst hj (hs j (List.mem_of_getElem? hj)) hr, hg]
      exact ⟨rfl, _, rfl, by simpa [Surveyed, there] using h⟩
    | @forget s' memory kept rest i j hsub' hst hj hr =>
      obtain rfl := Option.some.inj (hsub.symm.trans hsub')
      have hfin : j.handle.isFinished = true := by
        simp [isFinished_eq (hs j (List.mem_of_getElem? hj)), hr]
      rw [hst] at h
      rw [look?_of_pruning rfl hsub hst hj, hfin]
      exact ⟨rfl, _, rfl, by simpa [Surveyed, there] using h⟩
    | @pruneMark s' memory kept rest i j hsub' hst hj hr hg =>
      obtain rfl := Option.some.inj (hsub.symm.trans hsub')
      rw [hst] at h
      rw [look?_of_running rfl hsub hst hj (hs j (List.mem_of_getElem? hj)) hr, hg]
      exact ⟨List.length_set, _, rfl, by simpa [Surveyed, there] using h⟩
    | pruneCollect hsub' hst =>
      obtain rfl := Option.some.inj (hsub.symm.trans hsub')
      rw [hst] at h
      refine ⟨List.length_set, _, rfl, ?_⟩
      simpa [look?, errand?, Effect.after, hsub, hst, Surveyed] using h
    | makeRoom hsub' hst =>
      obtain rfl := Option.some.inj (hsub.symm.trans hsub')
      rw [hst] at h
      refine ⟨rfl, _, rfl, ?_⟩
      simpa [look?, errand?, Effect.after, hsub, hst, Surveyed] using h
    | noRoom | decline => exact absurd ⟨ha, .inr ⟨_, _, rfl⟩⟩ hends
    | accept => exact absurd ⟨ha, .inl rfl⟩ hends
    | _ => cases ha

end Step

/-! ## A whole submit -/

section IsRun

variable {permits : UInt32} {es fs : History τ} {p q : JobPool τ} {c : ThreadId} {job : τ}

/-- A submit that did not end has seen the threads at which it looked. -/
theorem IsRun.surveyed (h : IsRun permits es p) {listed : List Nat}
    (hsub : p.submitting = some ⟨c, job, .pruning [] listed⟩) (hf : Run step p fs q)
    (hopen : ∀ o ∈ fs, ¬EndsSubmit c o) :
    q.threads.length = p.threads.length ∧ ∃ stage, q.submitting = some ⟨c, job, stage⟩ ∧
      Surveyed listed (looks (moments step p fs)) q stage := by
  refine hf.invariant (fun fs q => (∀ o ∈ fs, ¬EndsSubmit c o) →
    q.threads.length = p.threads.length ∧ ∃ stage, q.submitting = some ⟨c, job, stage⟩ ∧
      Surveyed listed (looks (moments step p fs)) q stage)
    (fun _ => ⟨rfl, _, hsub, rfl, rfl⟩) (fun gs v a e hrun ih he hall => ?_) hopen
  obtain ⟨hbefore, hlast⟩ := List.forall_mem_append.1 hall
  obtain ⟨hlen, stage, hv, hsurveyed⟩ := ih hbefore
  have hr := h.append hrun
  obtain ⟨hlen', stage', hsub', hsurveyed'⟩ :=
    (transition_of_step hr.sound he).surveyed hr.orderly hr.sound hv hsurveyed
      (hlast _ (List.mem_singleton_self _))
  rw [hrun.moments_snoc, looks, filterMap_snoc]
  exact ⟨hlen'.trans hlen, stage', hsub', hsurveyed'⟩

/-- When a submit makes its thread, the list holds the threads that were there when the submit
    looked, and the new one. -/
theorem IsRun.listed_of_accepted (h : IsRun permits es p)
    {e f : Effect (JobPool τ) (Outcome τ)} (he : p.step (.submit c job) = some e)
    (hmoved : e.outcome = .moved) (hf : Run step e.state fs q)
    (hopen : ∀ o ∈ fs, ¬EndsSubmit c o) {t : ThreadId}
    (hq : q.step (.create c (.ok t)) = some f) :
    (looks (moments step e.state fs)).map Prod.fst = p.listed ∧
      f.state.listed = there (looks (moments step e.state fs)) ++ [p.threads.length] := by
  have hr := h.snoc he
  have hopened : e.state.submitting = some ⟨c, job, .pruning [] p.listed⟩ ∧
      e.state.threads.length = p.threads.length := by
    cases transition_of_step h.sound he with
    | refuse => cases hmoved
    | submit => exact ⟨rfl, rfl⟩
  obtain ⟨hlen, stage, hsub, hsurveyed⟩ := hr.surveyed hopened.1 hf hopen
  cases transition_of_step (hr.append hf).sound hq with
  | accept hsub' hst =>
    have hstage : stage = .creating :=
      (congrArg Submit.stage (Option.some.inj (hsub.symm.trans hsub'))).trans hst
    obtain ⟨hseen, hlisted⟩ := hstage ▸ hsurveyed
    exact ⟨hseen, by rw [hlisted, hlen, hopened.2]⟩

/-- A submit that looks at a thread sees whether it is gone. -/
theorem IsRun.look_true (h : IsRun permits es p) {o : Occurrence (Action τ) (Outcome τ)} {i : Nat}
    {gone : Bool} (hlook : look? (p, o) = some (i, gone)) :
    ∃ j, p.threads[i]? = some j ∧ j.handle.hasExited = gone := by
  obtain ⟨c, herrand⟩ := look?_eq_some hlook
  rcases errand_cases herrand with
    ⟨memory, s, -, hsub, ⟨kept, rest, hst, hgone⟩ | ⟨_, _, -, hb⟩⟩ | ⟨-, ⟨_, -, hn⟩ | ⟨_, -, hn⟩⟩
  · obtain ⟨j, hj⟩ : ∃ j, p.threads[i]? = some j :=
      ⟨_, List.getElem?_eq_getElem (h.orderly.inHand_lt (inHand_of_errand herrand))⟩
    refine ⟨j, hj, ?_⟩
    cases hgone
    rw [hj, Option.any_some, isFinished_eq (h.sound_at hj), h.custody.running_of_pruning hsub hst hj]
    rfl
  · cases hb
  · cases hn
  · cases hn

end IsRun

end Threading.JobPool

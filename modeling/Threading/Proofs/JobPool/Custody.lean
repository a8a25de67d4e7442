import Threading.Proofs.JobPool.Teardown

/-!
# Who has the handle of a thread

The handle of a thread is on the list, or a destroy took it and did not come to it yet, or
nobody is going to join it any more. What is done with handles is read off the history,
with the state that each step found (`errand?`): a submit looks whether the thread is gone,
a destroy comes to the thread, somebody who waited for it is done.

* A handle on the list, or left to a destroy, is one that nobody joined, or its joiner is
  waiting (`Custody.in_hand`). So a submit never meets a handle that somebody else joined.
* Nobody comes back to a handle after its join (`Custody.joined`), so each handle is joined
  once at most (`Custody.calls_nodup`).
* Nothing gets lost: a handle that is in nobody's hands was joined, or the job of its thread
  ran the destroy that took it (`Custody.hands`).

The list is thus known exactly: it holds the threads of the accepted jobs in order, without
those that a submit joined and those that a destroy took (`Custody.known_eq`).
-/

namespace Threading.JobPool

variable {τ : Type}

/-- A step of a pool, with the state that it found. -/
abbrev Moment (τ : Type) := JobPool τ × Occurrence (Action τ) (Outcome τ)

/-- What a caller does with the handle of a thread. -/
inductive Errand
  /-- A submit looks whether the thread is gone, and joins it if it is. -/
  | look (gone : Bool)
  /-- A destroy joins the thread. -/
  | join
  /-- The caller is done waiting for the thread, in a submit or in a destroy. -/
  | collect (inSubmit : Bool)
  deriving DecidableEq

/-- What a step does with the handle of a thread: who does it, and with which thread. -/
def errand? (m : Moment τ) : Option (ThreadId × Nat × Errand) :=
  match m.2.action with
  | .prune c _ => match m.1.submitting.map Submit.stage with
    | some (.pruning _ (i :: _)) =>
      some (c, i, .look (m.1.threads[i]?.any fun j => j.handle.isFinished))
    | some (.collecting _ i _) => some (c, i, .collect true)
    | _ => none
  | .proceed c => match m.1.destroying c with
    | some (.joining (i :: _)) => some (c, i, .join)
    | some (.collecting i _) => some (c, i, .collect false)
    | _ => none
  | _ => none

/-- The thread that a submit looks at, and whether it is gone. -/
def look? (m : Moment τ) : Option (Nat × Bool) :=
  match errand? m with
  | some (_, i, .look gone) => some (i, gone)
  | _ => none

/-- The thread whose handle is joined, by a submit that finds it gone or by a destroy. -/
def call? (m : Moment τ) : Option Nat :=
  match errand? m with
  | some (_, i, .look true) | some (_, i, .join) => some i
  | _ => none

/-- Who is done waiting, and for which thread. -/
def join? (m : Moment τ) : Option (ThreadId × Nat) :=
  match errand? m with
  | some (c, i, .collect _) => some (c, i)
  | _ => none

/-- The thread for which a submit is done waiting. -/
def pruned? (m : Moment τ) : Option Nat :=
  match errand? m with
  | some (_, i, .collect true) => some i
  | _ => none

/-- The threads that a destroy takes. -/
def takes (m : Moment τ) : List Nat :=
  match m.2.action with
  | .destroy _ => m.1.listed
  | _ => []

/-- The threads that submits looked at, each with whether it was gone. -/
def looks (ms : List (Moment τ)) : List (Nat × Bool) := ms.filterMap look?

/-- The threads whose handles were joined. -/
def calls (ms : List (Moment τ)) : List Nat := ms.filterMap call?

/-- The joins that are over: who waited, and for which thread. -/
def joins (ms : List (Moment τ)) : List (ThreadId × Nat) := ms.filterMap join?

/-- The threads that submits joined. -/
def pruned (ms : List (Moment τ)) : List Nat := ms.filterMap pruned?

/-- The threads that destroys took. -/
def taken (ms : List (Moment τ)) : List Nat := ms.flatMap takes

/-- No submit joined the thread, and no destroy took it. -/
def isLeft (ms : List (Moment τ)) (i : Nat) : Bool :=
  !(pruned ms).contains i && !(taken ms).contains i

/-- The steps of a pool that was made with these permits. -/
def observed (permits : UInt32) (es : History τ) : List (Moment τ) :=
  match create permits with
  | .ok q => moments step q es
  | .error _ => []

/-- Somebody has the handle of the thread `i`, and may have to join it still. -/
def InHand (p : JobPool τ) (i : Nat) : Prop :=
  i ∈ p.known ∨ ∃ c d, p.destroying c = some d ∧ i ∈ d.left

/-- Who has the handle of which thread, after what was observed. -/
structure Custody (es : History τ) (ms : List (Moment τ)) (p : JobPool τ) : Prop where
  known_eq : p.known = (List.range p.threads.length).filter (isLeft ms)
  left_nodup : ∀ c d, p.destroying c = some d → d.left.Nodup
  bounded : ∀ i ∈ pruned ms ++ taken ms ++ calls ms ++ (joins ms).map Prod.snd, i < p.threads.length
  /-- A handle in somebody's hands can be joined, or its joiner waits. -/
  in_hand : ∀ i j, InHand p i → p.threads[i]? = some j →
    j.handle.stage = .running ∨ ∃ c, p.awaits c = some i
  /-- Whoever joined a handle waits for the thread, or is done with it. -/
  called : ∀ i ∈ calls ms, InHand p i → ∃ c, p.awaits c = some i
  joined : ∀ x ∈ joins ms, ¬InHand p x.2
  calls_nodup : (calls ms).Nodup
  joins_nodup : ((joins ms).map Prod.snd).Nodup
  /-- A handle is in somebody's hands, or it was joined, or it was taken by a destroy that the
      job of its thread ran. -/
  hands : ∀ i j, p.threads[i]? = some j → InHand p i ∨ i ∈ (joins ms).map Prod.snd ∨
    i ∈ taken ms ∧ ∃ c, j.thread? = some c ∧ firstDestroyer es = some c

/-! ## One step -/

section Step

variable {p : JobPool τ} {a : Action τ} {e : Effect (JobPool τ) (Outcome τ)} {es : History τ}
  {ms : List (Moment τ)} {i : Nat} {c x : ThreadId} {errand : Errand}

/-- What a step with an errand found, in a submit or in a destroy. -/
theorem errand_cases {o : Occurrence (Action τ) (Outcome τ)}
    (h : errand? (p, o) = some (c, i, errand)) :
    (∃ memory s, o.action = .prune c memory ∧ p.submitting = some s ∧
      ((∃ kept rest, s.stage = .pruning kept (i :: rest) ∧
        errand = .look (p.threads[i]?.any fun j => j.handle.isFinished)) ∨
      ∃ kept rest, s.stage = .collecting kept i rest ∧ errand = .collect true)) ∨
    (o.action = .proceed c ∧
      ((∃ rest, p.destroying c = some (.joining (i :: rest)) ∧ errand = .join) ∨
      ∃ rest, p.destroying c = some (.collecting i rest) ∧ errand = .collect false)) := by
  obtain ⟨action, outcome, notices⟩ := o
  cases action with
  | prune y memory =>
    cases hsub : p.submitting with
    | none => simp [errand?, hsub] at h
    | some s =>
      cases hst : s.stage with
      | pruning kept rest =>
        cases rest with
        | nil => simp [errand?, hsub, hst] at h
        | cons k rest =>
          simp only [errand?, hsub, hst, Option.map_some, Option.some.injEq, Prod.mk.injEq] at h
          obtain ⟨rfl, rfl, rfl⟩ := h
          exact .inl ⟨memory, s, rfl, rfl, .inl ⟨kept, rest, hst, rfl⟩⟩
      | collecting kept k rest =>
        simp only [errand?, hsub, hst, Option.map_some, Option.some.injEq, Prod.mk.injEq] at h
        obtain ⟨rfl, rfl, rfl⟩ := h
        exact .inl ⟨memory, s, rfl, rfl, .inr ⟨kept, rest, hst, rfl⟩⟩
      | creating => simp [errand?, hsub, hst] at h
  | proceed y =>
    cases hd : p.destroying y with
    | none => simp [errand?, hd] at h
    | some d =>
      cases d with
      | joining rest =>
        cases rest with
        | nil => simp [errand?, hd] at h
        | cons k rest =>
          simp only [errand?, hd, Option.some.injEq, Prod.mk.injEq] at h
          obtain ⟨rfl, rfl, rfl⟩ := h
          exact .inr ⟨rfl, .inl ⟨rest, hd, rfl⟩⟩
      | collecting k rest =>
        simp only [errand?, hd, Option.some.injEq, Prod.mk.injEq] at h
        obtain ⟨rfl, rfl, rfl⟩ := h
        exact .inr ⟨rfl, .inr ⟨rest, hd, rfl⟩⟩
  | _ => simp [errand?] at h

/-- Nobody but its holder does anything with a handle. -/
theorem inHand_of_errand {o : Occurrence (Action τ) (Outcome τ)}
    (h : errand? (p, o) = some (c, i, errand)) : InHand p i := by
  rcases errand_cases h with ⟨_, s, -, hsub, ⟨kept, rest, hst, -⟩ | ⟨kept, rest, hst, -⟩⟩ |
    ⟨-, ⟨rest, hd, -⟩ | ⟨rest, hd, -⟩⟩
  · exact .inl (by simp [known, hsub, hst, Submitting.known])
  · exact .inl (by simp [known, hsub, hst, Submitting.known])
  · exact .inr ⟨c, _, hd, List.mem_cons_self⟩
  · exact .inr ⟨c, _, hd, List.mem_cons_self⟩

theorem Orderly.inHand_lt (ho : Orderly p) (h : InHand p i) : i < p.threads.length := by
  rcases h with h | ⟨c, d, hd, hi⟩
  · exact ho.known_lt i h
  · exact ho.left_lt c d hd i hi

/-- A handle is in the hands of a destroy only if that is the first one. -/
theorem Teardown.first_of_left (ht : Teardown es p) {d : Joining} (hd : p.destroying c = some d)
    (hi : i ∈ d.left) : firstDestroyer es = some c :=
  (ht.busy c d hd (List.ne_nil_of_mem hi)).1

/-- Only one caller has a handle. -/
theorem Teardown.same_of_left (ht : Teardown es p) {d d' : Joining} {k : Nat}
    (hd : p.destroying c = some d) (hi : i ∈ d.left) (hd' : p.destroying x = some d')
    (hk : k ∈ d'.left) : x = c :=
  Option.some.inj ((ht.first_of_left hd' hk).symm.trans (ht.first_of_left hd hi))

/-- Whoever waits for a thread has its handle. -/
theorem inHand_of_awaits (h : p.awaits c = some i) : InHand p i := by
  cases hsub : p.submitting with
  | some s =>
    rw [awaits, hsub] at h
    dsimp only at h
    split at h
    · cases hst : s.stage with
      | collecting kept k rest =>
        rw [hst] at h
        cases h
        exact .inl (by simp [known, hsub, hst, Submitting.known])
      | _ =>
        rw [hst] at h
        cases h
    · cases h
  | none =>
    rw [awaits_of_not_submitting hsub, Option.bind_eq_some_iff] at h
    obtain ⟨d, hd, haw⟩ := h
    cases d with
    | joining rest => cases haw
    | collecting k rest =>
      cases haw
      exact .inr ⟨c, _, hd, List.mem_cons_self⟩

/-- Whoever is done waiting for a thread did wait for it. -/
theorem Orderly.awaits_of_collect (ho : Orderly p) {o : Occurrence (Action τ) (Outcome τ)}
    {b : Bool} (h : errand? (p, o) = some (c, i, .collect b)) :
    ∃ x, p.awaits x = some i := by
  rcases errand_cases h with ⟨_, s, -, hsub, ⟨kept, rest, -, hn⟩ | ⟨kept, rest, hst, -⟩⟩ |
    ⟨-, ⟨rest, -, hn⟩ | ⟨rest, hd, -⟩⟩
  · cases hn
  · exact ⟨s.caller, by simp [awaits, hsub, hst, Submitting.awaited]⟩
  · cases hn
  · refine ⟨c, ?_⟩
    rw [awaits_of_not_submitting (ho.of_destroying hd).2.2, hd, Option.bind_some, Joining.awaited]

/-- Nobody waits for a thread to whose handle somebody comes. -/
theorem Orderly.not_awaited (ho : Orderly p) (htd : Teardown es p)
    {o : Occurrence (Action τ) (Outcome τ)} (h : errand? (p, o) = some (c, i, errand))
    (hne : ∀ b, errand ≠ .collect b) (x : ThreadId) : p.awaits x ≠ some i := by
  intro hx
  rcases errand_cases h with ⟨_, s, -, hsub, ⟨kept, rest, hst, -⟩ | ⟨_, _, -, hb⟩⟩ |
    ⟨-, ⟨rest, hd, -⟩ | ⟨_, -, hb⟩⟩
  · simp [awaits, hsub, hst, Submitting.awaited] at hx
  · exact hne _ hb
  · rw [awaits_of_not_submitting (ho.of_destroying hd).2.2, Option.bind_eq_some_iff] at hx
    obtain ⟨d, hd', haw⟩ := hx
    cases d with
    | joining => cases haw
    | collecting k rest' =>
      cases haw
      -- The caller that waits would be the one that does not.
      obtain rfl := htd.same_of_left hd List.mem_cons_self hd' List.mem_cons_self
      rw [hd] at hd'
      cases hd'
  · exact hne _ hb

/-- A step gives nobody a handle, but for that of a thread it makes. -/
theorem Transition.inHand (ht : Transition p a e) (h : InHand e.state i) :
    InHand p i ∨ i = p.threads.length ∧ e.state.threads.length = i + 1 := by
  rcases h with h | ⟨c, d', hd', hi⟩
  · exact (ht.mem_known h).imp_left .inl
  · obtain ⟨o, ho, hg⟩ := ht.goes_to hd'
    rcases hg.left with ⟨d, rfl, hleft⟩ | ⟨rfl, rfl⟩
    · exact .inl (.inr ⟨c, d, ho, hleft i hi⟩)
    · cases ht with
      | call ha =>
        rw [InHand, known_of_not_submitting (isCalling_of_admits ha).1]
        exact .inl (.inl hi)

/-- A handle that nobody joined stays in somebody's hands, until its joiner is done waiting,
    or the destroy that took it sees that it was called on the thread. -/
theorem Transition.inHand_kept (ht : Transition p a e) (ho : Orderly p) (htd : Teardown es p)
    (hs : ∀ j ∈ p.threads, j.Sound) (hcu : Custody es ms p) (h : InHand p i) :
    InHand e.state i ∨ (∃ c b, errand? (p, e.after a) = some (c, i, .collect b)) ∨
      ∃ c rest j, p.destroying c = some (.joining (i :: rest)) ∧ p.threads[i]? = some j ∧
        j.thread? = some c := by
  rcases h with h | ⟨c, d, hd, hi⟩
  · cases ht with
    | submit ha =>
      exact .inl (.inl (by simpa [known, Submitting.known, (isCalling_of_admits ha).1] using h))
    | keep hsub hst | pruneMark hsub hst =>
      exact .inl (.inl (by simpa [known, setSubmitting, Submitting.known, hsub, hst] using h))
    | @forget s _ kept rest k j hsub hst hj hr =>
      by_cases hik : i = k
      · subst hik
        -- A handle on the list can be joined, or the submit waits for its thread.
        rcases hcu.in_hand i j (.inl h) hj with hrunning | ⟨x, hx⟩
        · exact absurd hrunning hr
        · simp [awaits, hsub, hst, Submitting.awaited] at hx
      · simp only [known, hsub, hst, Submitting.known, List.mem_append, List.mem_cons] at h
        exact .inl (.inl (by simpa [known, setSubmitting, Submitting.known, hik] using h))
    | @pruneCollect s _ kept rest k j _ hsub hst =>
      by_cases hik : i = k
      · subst hik
        exact .inr (.inl ⟨s.caller, true, by simp [errand?, Effect.after, hsub, hst]⟩)
      · simp only [known, hsub, hst, Submitting.known, List.mem_append, List.mem_cons] at h
        exact .inl (.inl (by simpa [known, Submitting.known, hik] using h))
    | noRoom hsub hst | makeRoom hsub hst | decline hsub hst =>
      exact .inl (.inl (by simpa [known, setSubmitting, Submitting.known, hsub, hst] using h))
    | accept hsub hst =>
      exact .inl (.inl (List.mem_append_left _ (by simpa [known, Submitting.known, hsub, hst] using h)))
    | @call c ha =>
      obtain ⟨hsub, hd, -⟩ := isCalling_of_admits ha
      rw [known_of_not_submitting hsub] at h
      exact .inl (.inr ⟨c, .joining p.listed, (Calls.lookup_begin hd).trans (if_pos rfl), h⟩)
    | _ => exact .inl (.inl h)
  · obtain ⟨o, he, hg⟩ := ht.goes_from hd
    cases hg with
    | same => exact .inl (.inr ⟨c, d, he, hi⟩)
    | @passes k rest j ha hj hr =>
      rcases List.mem_cons.1 hi with rfl | hi
      · have hsj := hs j (List.mem_of_getElem? hj)
        have hown : j.handle.isCurrent c = true := by
          refine hr.resolve_left (not_not_intro ?_)
          refine (hcu.in_hand i j (.inr ⟨c, _, hd, List.mem_cons_self⟩) hj).resolve_right ?_
          rintro ⟨x, hx⟩
          have herrand : errand? (p, e.after a) = some (c, i, .join) := by
            simp [errand?, Effect.after, ha, hd]
          exact ho.not_awaited htd herrand (fun b hb => by cases hb) x hx
        exact .inr (.inr ⟨c, rest, j, hd, hj,
          JobThread.thread?_eq_some_iff.2 (hsj.onlyJoined.of_isCurrent hown)⟩)
      · exact .inl (.inr ⟨c, _, he, hi⟩)
    | marks => exact .inl (.inr ⟨c, _, he, hi⟩)
    | @collects k rest j ha hj hg =>
      rcases List.mem_cons.1 hi with rfl | hi
      · exact .inr (.inl ⟨c, false, by simp [errand?, Effect.after, ha, hd]⟩)
      · exact .inl (.inr ⟨c, _, he, hi⟩)
    | ends => cases hi

/-- A destroy that is done with a handle leaves it in nobody's hands. -/
theorem Teardown.not_inHand (htd : Teardown es p) (ho : Orderly p) {q : JobPool τ} {d d' : Joining}
    (hd : p.destroying c = some d) (hi : i ∈ d.left) (hq : q.destroys = p.destroys)
    (hlisted : q.listed = p.listed) (hsub : q.submitting = p.submitting) (hd' : i ∉ d'.left) :
    ¬InHand (q.setDestroying c d') i := by
  obtain ⟨-, hnil, hnone⟩ := ho.of_destroying hd
  rintro (hknown | ⟨x, f, hx, hf⟩)
  · rw [known_of_not_submitting (p := q.setDestroying c d') (hsub.trans hnone)] at hknown
    exact List.not_mem_nil ((hlisted.trans hnil) ▸ hknown)
  · rw [destroying_setDestroying hq] at hx
    split at hx
    · rw [hd, Option.map_some] at hx
      cases hx
      exact hd' hf
    · next hne => exact hne (htd.same_of_left hd hi hx hf)

/-- Nobody has a handle whose joiner is done waiting. -/
theorem Transition.not_inHand_of_collect (ht : Transition p a e) (ho : Orderly p)
    (htd : Teardown es p) (hcu : Custody es ms p) {b : Bool}
    (h : errand? (p, e.after a) = some (c, i, .collect b)) : ¬InHand e.state i := by
  have hknown : p.known.Nodup := by
    rw [hcu.known_eq]
    exact List.nodup_range.filter _
  rcases errand_cases h with ⟨memory, s, ha, hsub, ⟨_, _, -, hb⟩ | ⟨kept, rest, hst, -⟩⟩ |
    ⟨ha, ⟨_, -, hb⟩ | ⟨rest, hd, -⟩⟩
  · cases hb
  · have hd := (ho.of_submitting hsub).2
    rw [known, hsub] at hknown
    simp only [hst, Submitting.known, List.nodup_append, List.nodup_cons] at hknown
    cases ht with
    | keep hsub' hst' | forget hsub' hst' | pruneMark hsub' hst' | noRoom hsub' hst'
    | makeRoom hsub' hst' =>
      obtain rfl := Option.some.inj (hsub.symm.trans hsub')
      simp [hst] at hst'
    | pruneCollect hsub' hst' =>
      obtain rfl := Option.some.inj (hsub.symm.trans hsub')
      cases hst.symm.trans hst'
      rintro (hi | ⟨x, d, hd', -⟩)
      · rcases List.mem_append.1 hi with hi | hi
        · exact hknown.2.2 i hi i List.mem_cons_self rfl
        · exact hknown.2.1.1 hi
      · rw [destroying_of_unshut (by exact hd)] at hd'
        cases hd'
    | _ => cases ha
  · cases hb
  · cases ht with
    | pass hd' | mark hd' | finishDestroy hd' =>
      cases ha
      rw [hd] at hd'
      cases hd'
    | collect hd' =>
      cases ha
      cases hd.symm.trans hd'
      exact htd.not_inHand ho hd List.mem_cons_self rfl rfl rfl
        (List.nodup_cons.1 (hcu.left_nodup c _ hd)).1
    | _ => cases ha

/-- Whoever waits for a thread waits until the wait is over. -/
theorem Transition.awaits_kept (ht : Transition p a e) (ho : Orderly p)
    (hs : ∀ j ∈ p.threads, j.Sound) (h : p.awaits x = some i) :
    e.state.awaits x = some i ∨ ∃ b, errand? (p, e.after a) = some (x, i, .collect b) := by
  cases hsub : p.submitting with
  | some s =>
    have h' := h
    rw [awaits, hsub] at h'
    dsimp only at h'
    split at h'
    · next hx =>
      subst hx
      cases ht with
      | keep hsub' hst | forget hsub' hst | pruneMark hsub' hst | noRoom hsub' hst
      | makeRoom hsub' hst | accept hsub' hst | decline hsub' hst =>
        obtain rfl := Option.some.inj (hsub.symm.trans hsub')
        rw [hst] at h'
        cases h'
      | pruneCollect hsub' hst =>
        obtain rfl := Option.some.inj (hsub.symm.trans hsub')
        rw [hst] at h'
        cases h'
        exact .inr ⟨true, by simp [errand?, Effect.after, hsub, hst]⟩
      | submit ha | call ha => simp [(isCalling_of_admits ha).1] at hsub
      | pass hd | mark hd | collect hd | finishDestroy hd => simp [(ho.of_destroying hd).2.2] at hsub
      | _ => exact .inl h
    · cases h'
  | none =>
    have h' := h
    rw [awaits_of_not_submitting hsub, Option.bind_eq_some_iff] at h'
    obtain ⟨d, hd, haw⟩ := h'
    cases d with
    | joining => cases haw
    | collecting k rest =>
      cases haw
      obtain ⟨o, he, hg⟩ := ht.goes_from hd
      cases hg with
      | same =>
        refine .inl ?_
        rw [awaits_of_not_submitting ((ht.orderly ho hs).of_destroying he).2.2, he, Option.bind_some,
          Joining.awaited]
      | collects ha => exact .inr ⟨false, by simp [errand?, Effect.after, ha, hd]⟩

/-- Whoever joins a handle waits for its thread, unless nobody has the handle any more. -/
theorem Transition.awaits_of_call (ht : Transition p a e) (ho : Orderly p) (htd : Teardown es p)
    (hs : ∀ j ∈ p.threads, j.Sound) (hcu : Custody es ms p)
    (h : errand? (p, e.after a) = some (c, i, errand)) (hcall : errand = .look true ∨ errand = .join)
    (hin : InHand e.state i) : ∃ x, e.state.awaits x = some i := by
  -- Nobody waits for the thread yet, so the handle can be joined.
  have hrunning {j : JobThread τ} (hj : p.threads[i]? = some j) : j.handle.stage = .running := by
    refine (hcu.in_hand i j (inHand_of_errand h) hj).resolve_right ?_
    rintro ⟨x, hx⟩
    exact ho.not_awaited htd h (by rcases hcall with rfl | rfl <;> exact nofun) x hx
  rcases errand_cases h with ⟨memory, s, ha, hsub, ⟨kept, rest, hst, hlook⟩ | ⟨_, _, -, hb⟩⟩ |
    ⟨ha, ⟨rest, hd, -⟩ | ⟨_, -, hb⟩⟩
  · cases ht with
    | keep hsub' hst' hj hr hg =>
      obtain rfl := Option.some.inj (hsub.symm.trans hsub')
      cases hst.symm.trans hst'
      rw [hj, Option.any_some, isFinished_eq (hs _ (List.mem_of_getElem? hj)), hr, hg] at hlook
      rcases hcall with rfl | rfl <;> cases hlook
    | forget hsub' hst' hj hr =>
      obtain rfl := Option.some.inj (hsub.symm.trans hsub')
      cases hst.symm.trans hst'
      exact absurd (hrunning hj) hr
    | pruneMark hsub' hst' =>
      obtain rfl := Option.some.inj (hsub.symm.trans hsub')
      cases hst.symm.trans hst'
      exact ⟨s.caller, by rw [awaits_submitting hsub rfl, if_pos rfl, Submitting.awaited]⟩
    | pruneCollect hsub' hst' | noRoom hsub' hst' | makeRoom hsub' hst' =>
      obtain rfl := Option.some.inj (hsub.symm.trans hsub')
      simp [hst] at hst'
    | _ => cases ha
  · rcases hcall with rfl | rfl <;> cases hb
  · have hsub := (ho.of_destroying hd).2.2
    cases ht with
    | @pass _ k rest j hd' hj hr =>
      cases ha
      cases hd.symm.trans hd'
      -- The destroy goes on without the handle, which nobody else has.
      exact absurd hin (htd.not_inHand ho hd List.mem_cons_self rfl rfl rfl
        (List.nodup_cons.1 (hcu.left_nodup c _ hd)).1)
    | mark hd' =>
      cases ha
      cases hd.symm.trans hd'
      exact ⟨c, (awaits_setDestroying hsub hsub rfl hd).trans (if_pos rfl)⟩
    | collect hd' | finishDestroy hd' =>
      cases ha
      rw [hd] at hd'
      cases hd'
    | _ => cases ha
  · rcases hcall with rfl | rfl <;> cases hb

end Step

/-! ## Every moment -/

section Keep

variable {p q : JobPool τ} {a : Action τ} {e : Effect (JobPool τ) (Outcome τ)} {es : History τ}
  {ms : List (Moment τ)} {m : Moment τ} {i : Nat}

theorem taken_snoc : taken (ms ++ [m]) = taken ms ++ takes m := by
  rw [taken, List.flatMap_append, List.flatMap_singleton, taken]

theorem isLeft_snoc : isLeft (ms ++ [m]) i =
    (isLeft ms i && !(pruned? m).toList.contains i && !(takes m).contains i) := by
  rw [isLeft, pruned, filterMap_snoc, taken_snoc, isLeft, pruned]
  simp only [List.contains_append, Bool.not_or]
  ac_rfl

/-- A step that takes no handle from the list leaves the list as it is. -/
theorem Custody.known_same (h : Custody es ms p) (hk : q.known = p.known)
    (hl : q.threads.length = p.threads.length) (hm : pruned? m = none) (ht : takes m = []) :
    q.known = (List.range q.threads.length).filter (isLeft (ms ++ [m])) := by
  rw [hk, hl, h.known_eq]
  refine List.filter_congr fun i _ => ?_
  simp [isLeft_snoc, hm, ht]

/-- A submit takes the handle that it joined from the list. -/
theorem Custody.known_pruned (h : Custody es ms p) {kept rest : List Nat}
    (hp : p.known = kept ++ i :: rest) (hk : q.known = kept ++ rest)
    (hl : q.threads.length = p.threads.length) (hm : pruned? m = some i) (ht : takes m = []) :
    q.known = (List.range q.threads.length).filter (isLeft (ms ++ [m])) := by
  have hnodup : (kept ++ i :: rest).Nodup := by
    rw [← hp, h.known_eq]
    exact List.nodup_range.filter _
  have hne : ∀ k ∈ kept ++ rest, k ≠ i := by
    rintro k hk rfl
    exact (List.nodup_cons.1 (List.nodup_middle.1 hnodup)).1 hk
  obtain ⟨hkept, hrest⟩ := List.forall_mem_append.1 hne
  calc q.known
      = (kept ++ i :: rest).filter (fun k => k != i) := by
        rw [hk, List.filter_append, List.filter_cons_of_neg (by simp),
          List.filter_eq_self.2 fun k hk => by simpa using hkept k hk,
          List.filter_eq_self.2 fun k hk => by simpa using hrest k hk]
    _ = ((List.range p.threads.length).filter (isLeft ms)).filter (fun k => k != i) := by
        rw [← hp, h.known_eq]
    _ = (List.range q.threads.length).filter (isLeft (ms ++ [m])) := by
        rw [List.filter_filter, hl]
        refine List.filter_congr fun k _ => ?_
        rw [isLeft_snoc, hm, ht, Bool.eq_iff_iff]
        simp [and_comm]

/-- The handle of a new thread goes to the end of the list. -/
theorem Custody.known_added (h : Custody es ms p) (hk : q.known = p.known ++ [p.threads.length])
    (hl : q.threads.length = p.threads.length + 1) (hm : pruned? m = none) (ht : takes m = []) :
    q.known = (List.range q.threads.length).filter (isLeft (ms ++ [m])) := by
  -- Nobody did anything with it yet.
  have hnew : isLeft ms p.threads.length = true := by
    have hlt := fun hmem => Nat.lt_irrefl _ (h.bounded p.threads.length hmem)
    simp only [List.mem_append] at hlt
    simp only [isLeft, Bool.and_eq_true, Bool.not_eq_true', List.contains_eq_mem,
      decide_eq_false_iff_not]
    exact ⟨fun hmem => hlt (.inl (.inl (.inl hmem))), fun hmem => hlt (.inl (.inl (.inr hmem)))⟩
  calc q.known
      = (List.range p.threads.length).filter (isLeft ms) ++ [p.threads.length] := by
        rw [hk, h.known_eq]
    _ = (List.range (p.threads.length + 1)).filter (isLeft ms) := by
        rw [List.range_succ, List.filter_append, List.filter_singleton, hnew, cond_true]
    _ = (List.range q.threads.length).filter (isLeft (ms ++ [m])) := by
        rw [hl]
        refine List.filter_congr fun k _ => ?_
        simp [isLeft_snoc, hm, ht]

/-- A destroy takes all handles that are on the list. -/
theorem Custody.known_taken (h : Custody es ms p) (hk : q.known = [])
    (hl : q.threads.length = p.threads.length) (ht : takes m = p.known) :
    q.known = (List.range q.threads.length).filter (isLeft (ms ++ [m])) := by
  rw [hk, hl, eq_comm, List.filter_eq_nil_iff]
  intro k hk hleft
  rw [isLeft_snoc, Bool.and_eq_true, Bool.and_eq_true, ht] at hleft
  have hknown : k ∈ p.known := h.known_eq ▸ List.mem_filter.2 ⟨hk, hleft.1.1⟩
  simp [hknown] at hleft

/-- A handle on the list can be joined, or the submit waits for its thread. -/
theorem Custody.running_of_pruning (h : Custody es ms p) {s : Submit τ} {kept rest : List Nat}
    {j : JobThread τ} (hsub : p.submitting = some s) (hst : s.stage = .pruning kept (i :: rest))
    (hj : p.threads[i]? = some j) : j.handle.stage = .running := by
  refine (h.in_hand i j (.inl (by simp [known, hsub, hst, Submitting.known])) hj).resolve_right ?_
  rintro ⟨x, hx⟩
  simp [awaits, hsub, hst, Submitting.awaited] at hx

/-- The list after a step. -/
theorem Transition.known_eq (ht : Transition p a e) (h : Custody es ms p) :
    e.state.known =
      (List.range e.state.threads.length).filter (isLeft (ms ++ [(p, e.after a)])) := by
  cases ht with
  | submit ha =>
    refine h.known_same ?_ rfl rfl rfl
    simp [known, Submitting.known, (isCalling_of_admits ha).1]
  | keep hsub hst =>
    refine h.known_same ?_ rfl ?_ rfl
    · simp [known, setSubmitting, Submitting.known, hsub, hst]
    · simp [pruned?, errand?, Effect.after, hsub, hst]
  | forget hsub hst hj hr => exact absurd (h.running_of_pruning hsub hst hj) hr
  | pruneMark hsub hst =>
    refine h.known_same ?_ List.length_set ?_ rfl
    · simp [known, Submitting.known, hsub, hst]
    · simp [pruned?, errand?, Effect.after, hsub, hst]
  | @pruneCollect s memory kept rest i j result hsub hst =>
    refine h.known_pruned (i := i) ?_ rfl List.length_set ?_ rfl
    · simp only [known, hsub, hst, Submitting.known]
    · simp [pruned?, errand?, Effect.after, hsub, hst]
  | noRoom hsub hst | makeRoom hsub hst =>
    refine h.known_same ?_ rfl ?_ rfl
    · simp [known, Submitting.known, hsub, hst]
    · simp [pruned?, errand?, Effect.after, hsub, hst]
  | decline hsub hst =>
    refine h.known_same ?_ rfl rfl rfl
    simp [known, Submitting.known, hsub, hst]
  | accept hsub hst =>
    refine h.known_added ?_ (by simp) rfl rfl
    simp [known, Submitting.known, hsub, hst]
  | call ha =>
    have hsub := (isCalling_of_admits ha).1
    refine h.known_taken (known_of_not_submitting (by exact hsub)) rfl ?_
    exact (known_of_not_submitting hsub).symm
  | move | take | sleep | giveBack | finish => exact h.known_same rfl List.length_set rfl rfl
  | pass hd | mark hd | collect hd =>
    refine h.known_same rfl ?_ ?_ rfl
    · simp [setDestroying]
    · simp [pruned?, errand?, Effect.after, hd]
  | finishDestroy hd =>
    refine h.known_same rfl rfl ?_ rfl
    simp [pruned?, errand?, Effect.after, hd]
  | _ => exact h.known_same rfl rfl rfl rfl

/-- What can be done with a handle is done with one that somebody has. -/
theorem mem_errands {k : Nat}
    (h : k ∈ (pruned? m).toList ++ (call? m).toList ++ ((join? m).map Prod.snd).toList) :
    ∃ c errand, errand? m = some (c, k, errand) := by
  cases hm : errand? m with
  | none => simp [pruned?, call?, join?, hm] at h
  | some x =>
    obtain ⟨c, i, errand⟩ := x
    refine ⟨c, errand, ?_⟩
    cases errand with
    | look gone => cases gone <;> simp_all [pruned?, call?, join?]
    | join => simp_all [pruned?, call?, join?]
    | collect b => cases b <;> simp_all [pruned?, call?, join?]

theorem call?_eq_some {k : Nat} (h : call? m = some k) :
    ∃ c errand, errand? m = some (c, k, errand) ∧ (errand = .look true ∨ errand = .join) := by
  rw [call?] at h
  split at h
  · next c i heq =>
    cases h
    exact ⟨c, _, heq, .inl rfl⟩
  · next c i heq =>
    cases h
    exact ⟨c, _, heq, .inr rfl⟩
  · cases h

theorem join?_eq_some {x : ThreadId × Nat} (h : join? m = some x) :
    ∃ b, errand? m = some (x.1, x.2, .collect b) := by
  rw [join?] at h
  split at h
  · next c i b heq =>
    cases h
    exact ⟨b, heq⟩
  · cases h

/-- Whatever a submit joined was joined. -/
theorem mem_joins_of_pruned (h : i ∈ pruned ms) : i ∈ (joins ms).map Prod.snd := by
  rw [pruned, List.mem_filterMap] at h
  obtain ⟨m, hm, hi⟩ := h
  rw [pruned?] at hi
  split at hi
  · next c _ heq =>
    cases hi
    exact List.mem_map.2 ⟨(c, i), List.mem_filterMap.2 ⟨m, hm, by rw [join?, heq]⟩, rfl⟩
  · cases hi

/-- A destroy takes handles that are on the list. -/
theorem Transition.inHand_of_takes (ht : Transition p a e) (h : i ∈ takes (p, e.after a)) :
    InHand p i := by
  cases ht with
  | call ha =>
    rw [InHand, known_of_not_submitting (isCalling_of_admits ha).1]
    exact .inl h
  | _ => cases h

/-- A handle that can be joined can still be joined after a step, or somebody waits. -/
theorem Changes.running {j j' : JobThread τ} (h : Changes p a i j j')
    (hr : j.handle.stage = .running) :
    j'.handle.stage = .running ∨ ∃ c, j'.handle.joiner = some c := by
  cases h with
  | moves _ m => cases m <;> exact .inl hr
  | @marked c => exact .inr ⟨c, rfl⟩
  | _ => exact .inl hr

/-- The threads left to a destroy are different. -/
theorem Goes.left_nodup {c : ThreadId} {o : Option Joining} {d : Joining} (h : Custody es ms p)
    (ho : p.destroying c = o) (hg : Goes p a c o (some d)) : d.left.Nodup := by
  cases hg with
  | same => exact h.left_nodup c d ho
  | called _ ha =>
    have hknown : p.known = p.listed := known_of_not_submitting (isCalling_of_admits ha).1
    rw [Joining.left, ← hknown, h.known_eq]
    exact List.nodup_range.filter _
  | passes | collects => exact (List.nodup_cons.1 (h.left_nodup c _ ho)).2
  | marks => exact h.left_nodup c (.joining _) ho

section Step

variable (ht : Transition p a e) (ho : Orderly p) (htd : Teardown es p)
  (hs : ∀ j ∈ p.threads, j.Sound) (h : Custody es ms p)

include ht in
/-- A new thread is in nobody's books. -/
theorem Transition.inHand_of_lt (hi : i < p.threads.length) (hin : InHand e.state i) :
    InHand p i := by
  refine (ht.inHand hin).resolve_right ?_
  rintro ⟨rfl, -⟩
  exact Nat.lt_irrefl _ hi

include ht ho h in
theorem Transition.bounded (hi : i ∈ pruned (ms ++ [(p, e.after a)]) ++
      taken (ms ++ [(p, e.after a)]) ++ calls (ms ++ [(p, e.after a)]) ++
      (joins (ms ++ [(p, e.after a)])).map Prod.snd) : i < e.state.threads.length := by
  refine Nat.lt_of_lt_of_le ?_ ht.length_threads
  by_cases hold : i ∈ pruned ms ++ taken ms ++ calls ms ++ (joins ms).map Prod.snd
  · exact h.bounded i hold
  · -- Whoever does something with a handle, or takes it, has it.
    refine ho.inHand_lt ?_
    by_cases htake : i ∈ takes (p, e.after a)
    · exact ht.inHand_of_takes htake
    · obtain ⟨c, errand, herrand⟩ : ∃ c errand, errand? (p, e.after a) = some (c, i, errand) := by
        refine mem_errands ?_
        rw [pruned, calls, joins, filterMap_snoc, filterMap_snoc, filterMap_snoc, taken_snoc] at hi
        simp only [pruned, calls, joins, List.mem_append, List.map_append, not_or] at hi hold ⊢
        grind
      exact inHand_of_errand herrand

include ht ho htd hs h in
theorem Transition.in_hand {j' : JobThread τ} (hin : InHand e.state i)
    (hj' : e.state.threads[i]? = some j') :
    j'.handle.stage = .running ∨ ∃ c, e.state.awaits c = some i := by
  rcases ht.changed hj' with ⟨j, hj, hc⟩ | ⟨-, t, ⟨-, -, -, -⟩⟩
  · have hi := ht.inHand_of_lt (List.getElem?_eq_some_iff.1 hj).1 hin
    rcases h.in_hand i j hi hj with hr | ⟨x, hx⟩
    · refine (hc.running hr).imp_right fun ⟨c, hjoiner⟩ => ⟨c, ?_⟩
      rw [(ht.orderly ho hs).awaits_iff, joinerAt_of_getElem? hj', hjoiner]
    · rcases ht.awaits_kept ho hs hx with hx | ⟨b, herrand⟩
      · exact .inr ⟨x, hx⟩
      · exact absurd hin (ht.not_inHand_of_collect ho htd h herrand)
  · exact .inl rfl

include ht ho htd hs h in
theorem Transition.called (hi : i ∈ calls (ms ++ [(p, e.after a)])) (hin : InHand e.state i) :
    ∃ c, e.state.awaits c = some i := by
  rw [calls, filterMap_snoc, List.mem_append, Option.mem_toList] at hi
  rcases hi with hi | hi
  · have hlt := h.bounded i (List.mem_append_left _ (List.mem_append_right _ hi))
    obtain ⟨x, hx⟩ := h.called i hi (ht.inHand_of_lt hlt hin)
    rcases ht.awaits_kept ho hs hx with hx | ⟨b, herrand⟩
    · exact ⟨x, hx⟩
    · exact absurd hin (ht.not_inHand_of_collect ho htd h herrand)
  · obtain ⟨c, errand, herrand, hcall⟩ := call?_eq_some hi
    exact ht.awaits_of_call ho htd hs h herrand hcall hin

include ht ho htd h in
theorem Transition.joined {x : ThreadId × Nat} (hx : x ∈ joins (ms ++ [(p, e.after a)])) :
    ¬InHand e.state x.2 := by
  rw [joins, filterMap_snoc, List.mem_append, Option.mem_toList] at hx
  rcases hx with hx | hx
  · have hlt := h.bounded x.2 (List.mem_append_right _ (List.mem_map_of_mem hx))
    exact fun hin => h.joined x hx (ht.inHand_of_lt hlt hin)
  · obtain ⟨b, herrand⟩ := join?_eq_some hx
    exact ht.not_inHand_of_collect ho htd h herrand

include ho htd h in
/-- Nobody joins a handle that was joined. -/
theorem Custody.calls_snoc {o : Occurrence (Action τ) (Outcome τ)} :
    (calls (ms ++ [(p, o)])).Nodup := by
  rw [calls, filterMap_snoc]
  refine List.nodup_append.2 ⟨h.calls_nodup, ?_, ?_⟩
  · cases call? (p, o) <;> simp
  · rintro k hk x hx rfl
    obtain ⟨c, errand, herrand, hcall⟩ := call?_eq_some (Option.mem_toList.1 hx)
    obtain ⟨y, hy⟩ := h.called k hk (inHand_of_errand herrand)
    exact ho.not_awaited htd herrand (by rcases hcall with rfl | rfl <;> exact nofun) y hy

include h in
/-- Nobody waits for a thread again. -/
theorem Custody.joins_snoc {o : Occurrence (Action τ) (Outcome τ)} :
    ((joins (ms ++ [(p, o)])).map Prod.snd).Nodup := by
  rw [joins, filterMap_snoc, List.map_append]
  refine List.nodup_append.2 ⟨h.joins_nodup, ?_, ?_⟩
  · cases join? (p, o) <;> simp
  · rintro k hk x hx rfl
    obtain ⟨y, hy, rfl⟩ := List.mem_map.1 hk
    obtain ⟨z, hz, heq⟩ := List.mem_map.1 hx
    obtain ⟨b, herrand⟩ := join?_eq_some (Option.mem_toList.1 hz)
    exact h.joined y hy (heq ▸ inHand_of_errand herrand)

include ht ho htd hs h in
theorem Transition.hands {j' : JobThread τ} (hj' : e.state.threads[i]? = some j') :
    InHand e.state i ∨ i ∈ (joins (ms ++ [(p, e.after a)])).map Prod.snd ∨
      i ∈ taken (ms ++ [(p, e.after a)]) ∧
        ∃ c, j'.thread? = some c ∧ firstDestroyer (es ++ [e.after a]) = some c := by
  rw [joins, filterMap_snoc, List.map_append, List.mem_append, taken_snoc, List.mem_append]
  rcases ht.changed hj' with ⟨j, hj, hc⟩ | ⟨rfl, t, hnew⟩
  · rcases h.hands i j hj with hin | hjoined | ⟨htaken, c, htc, hf⟩
    · rcases ht.inHand_kept ho htd hs h hin with hin | ⟨c, b, herrand⟩ | ⟨c, rest, v, hd, hv, htc⟩
      · exact .inl hin
      · refine .inr (.inl (.inr ?_))
        simp [join?, herrand]
      · obtain rfl := Option.some.inj (hj.symm.trans hv)
        have hf := htd.first_of_left hd List.mem_cons_self
        refine .inr (.inr ⟨.inl ?_, c, hc.thread?.trans htc, firstDestroyer_keep hf⟩)
        -- A handle that is left to a destroy is not on the list, and nobody joined it.
        obtain ⟨-, hlisted, hsub⟩ := ho.of_destroying hd
        have hknown : i ∉ p.known := by simp [known_of_not_submitting hsub, hlisted]
        by_contra htaken
        rw [h.known_eq, List.mem_filter, List.mem_range, isLeft] at hknown
        have hlt := (List.getElem?_eq_some_iff.1 hj).1
        have hpruned : i ∈ pruned ms := by simpa [hlt, htaken] using hknown
        obtain ⟨y, hy, hyi⟩ := List.mem_map.1 (mem_joins_of_pruned hpruned)
        exact h.joined y hy (hyi ▸ hin)
    · exact .inr (.inl (.inl hjoined))
    · exact .inr (.inr ⟨.inl htaken, c, hc.thread?.trans htc, firstDestroyer_keep hf⟩)
  · obtain ⟨-, -, -, -⟩ := hnew
    cases ht with
    | accept => exact .inl (.inl (List.mem_append_right _ (List.mem_singleton_self _)))

include ht ho htd hs h in
/-- Every step keeps the account of the handles. -/
theorem Transition.custody : Custody (es ++ [e.after a]) (ms ++ [(p, e.after a)]) e.state where
  known_eq := ht.known_eq h
  left_nodup c _ hd := by
    obtain ⟨_, hp, hg⟩ := ht.goes_to hd
    exact hg.left_nodup h hp
  bounded _ hi := ht.bounded ho h hi
  in_hand _ _ hin hj := ht.in_hand ho htd hs h hin hj
  called _ hi hin := ht.called ho htd hs h hi hin
  joined _ hx := ht.joined ho htd h hx
  calls_nodup := h.calls_snoc ho htd
  joins_nodup := h.joins_snoc
  hands _ _ hj := ht.hands ho htd hs h hj

end Step

end Keep

section IsRun

variable {permits : UInt32} {es fs : History τ} {p q : JobPool τ}

theorem observed_nil : observed permits ([] : History τ) = [] := by
  rw [observed]
  split <;> rfl

/-- What a pool did after a run, it did where the run led. -/
theorem IsRun.observed_append (h : IsRun permits es p) (fs : History τ) :
    observed permits (es ++ fs) = observed permits es ++ moments step p fs := by
  obtain ⟨q, hq, hrun⟩ := h
  rw [observed, observed, hq]
  exact hrun.moments_append fs

theorem IsRun.observed_snoc (h : IsRun permits es p) (o : Occurrence (Action τ) (Outcome τ)) :
    observed permits (es ++ [o]) = observed permits es ++ [(p, o)] := by
  obtain ⟨q, hq, hrun⟩ := h
  rw [observed, observed, hq]
  exact hrun.moments_snoc o

/-- Every handle is accounted for. -/
theorem IsRun.custody (h : IsRun permits es p) : Custody es (observed permits es) p := by
  refine h.induction (fun es p => Custody es (observed permits es) p) (fun hne => ?_)
    fun es p a e hp ht ih => ?_
  · rw [observed_nil]
    exact {
      known_eq := rfl
      left_nodup := nofun
      bounded := nofun
      in_hand := fun i j _ hj => by simp at hj
      called := nofun
      joined := nofun
      calls_nodup := .nil
      joins_nodup := .nil
      hands := fun i j hj => by simp at hj }
  · rw [hp.observed_snoc]
    exact ht.custody hp.orderly hp.teardown hp.sound ih

end IsRun

end Threading.JobPool

import Threading.Proofs.JobPool.Custody
import Threading.Proofs.JobPool.Jobs
import Threading.Proofs.JobPool.Limit
import Threading.Proofs.JobPool.Listing

/-!
# The panics of jobs are reported

Whoever is done waiting for the thread of a job that panicked reports it. A handle is joined
once at most, so no panic is reported twice; and no join of such a thread goes without a report
(`Reported.reports_eq`), nor is anything else reported as an error (`Reported.errors_eq`).

* A submit that comes to a handle after its thread was gone joins it before it ends, whether
  the submit ends well or not (`IsRun.joined_by_submit`).
* Otherwise the destroy that took the handle joins it before it returns
  (`IsRun.joined_by_destroy`), unless it was called by the job: then nobody ever does
  (`IsRun.not_joined_by_own`).
* `IsRun.panics_reported` puts the laws together.
-/

namespace Threading

/-- The threads at which a submit has still to look, or for which it waits. -/
def Submitting.unseen : Submitting → List Nat
  | .pruning _ rest => rest
  | .collecting _ i rest => i :: rest
  | .creating => []

namespace JobThread

variable {τ : Type}

/-- The job panicked. -/
def hasPanicked (j : JobThread τ) : Bool :=
  match j.place, j.handle.spawned with
  | .returning panicked, _ => panicked
  | .outside, some { progress := .ended panicked, .. } => panicked
  | .outside, some { progress := .lowered panicked, .. } => panicked
  | .outside, some { progress := .exited panicked, .. } => panicked
  | _, _ => false

end JobThread

namespace JobPool

variable {τ : Type}

/-- The thread whose job panics. -/
def panic? (o : Occurrence (Action τ) (Outcome τ)) : Option Nat :=
  match o.action with
  | .jobEnded i true => some i
  | _ => none

/-- The threads whose jobs panicked. -/
def panics (es : History τ) : List Nat := es.filterMap panic?

/-- How the panic of a job is logged. -/
def panicRecord : Record := ⟨.error, "workpool::thread_pool::naive", "thread `naive-job` panicked"⟩

/-- The errors that a pool logged. -/
def errors (es : History τ) : List Record :=
  ((es.flatMap fun o => o.notices).map Notice.record).filter fun r => r.level == .error

/-- Who reports the end of which thread as an error. -/
def report? (m : Moment τ) : Option (ThreadId × Nat) :=
  if errors [m.2] = [] then none else join? m

/-- The reports: who made them, and of which thread. -/
def reports (ms : List (Moment τ)) : List (ThreadId × Nat) := ms.filterMap report?

/-- Those who reported the panic of the job of the thread `i`. -/
def reporters (ms : List (Moment τ)) (i : Nat) : List ThreadId :=
  ((reports ms).filter fun x => x.2 == i).map Prod.fst

/-- Which panics were reported, after what was observed. -/
structure Reported (es : History τ) (ms : List (Moment τ)) (p : JobPool τ) : Prop where
  named : ∀ j ∈ p.threads, j.handle.name = jobName
  gone : ∀ x ∈ joins ms, ∃ j, p.threads[x.2]? = some j ∧ j.handle.hasExited = true
  panics_iff : ∀ i j, p.threads[i]? = some j → (i ∈ panics es ↔ j.hasPanicked = true)
  panics_lt : ∀ i ∈ panics es, i < p.threads.length
  /-- The panics of the threads that were joined are reported, in this order. -/
  reports_eq : reports ms = (joins ms).filter fun x => (panics es).contains x.2
  /-- Nothing else is reported as an error. -/
  errors_eq : errors es = List.replicate (reports ms).length panicRecord

/-! ## One step -/

section Step

variable {p : JobPool τ} {a : Action τ} {e : Effect (JobPool τ) (Outcome τ)} {es : History τ}
  {ms : List (Moment τ)} {i : Nat} {c : ThreadId} {j j' : JobThread τ}

theorem panics_snoc (es : History τ) (o : Occurrence (Action τ) (Outcome τ)) :
    panics (es ++ [o]) = panics es ++ (panic? o).toList :=
  filterMap_snoc panic? es o

theorem errors_snoc (es : History τ) (o : Occurrence (Action τ) (Outcome τ)) :
    errors (es ++ [o]) = errors es ++ errors [o] := by
  simp [errors]

theorem Changes.name (h : Changes p a i j j') : j'.handle.name = j.handle.name := by
  cases h with
  | moves _ m => cases m <;> rfl
  | _ => rfl

/-- Whether a job panicked is settled when it ends. -/
theorem Changes.hasPanicked (h : Changes p a i j j') (ha : ∀ panicked, a ≠ .jobEnded i panicked) :
    j'.hasPanicked = j.hasPanicked := by
  cases h with
  | moves _ m => cases m <;> simp_all [JobThread.hasPanicked]
  | takes hb | sleeps hb => rcases place_of_asks hb with hp | hp <;> simp [JobThread.hasPanicked, hp]
  | givesBack hp => simp [JobThread.hasPanicked, hp]
  | ends ha' => exact absurd ha' (ha _)
  | _ => rfl

/-- A thread whose job panicked has it behind it, or its job ends so now. -/
theorem Transition.panicked (ht : Transition p a e) (hj' : e.state.threads[i]? = some j') :
    (∃ j, p.threads[i]? = some j ∧
      (j'.hasPanicked = true ↔ j.hasPanicked = true ∨ panic? (e.after a) = some i)) ∨
    (i = p.threads.length ∧ j'.hasPanicked = false ∧ panic? (e.after a) = none) := by
  by_cases hend : ∃ k panicked, a = .jobEnded k panicked
  · obtain ⟨k, panicked, rfl⟩ := hend
    cases ht with
    | @finish _ v job _ hv hp _ =>
      refine .inl ?_
      by_cases hik : k = i
      · subst hik
        obtain rfl := Option.some.inj ((getElem?_set_self_of_some hv _).symm.trans hj')
        refine ⟨v, hv, ?_⟩
        cases panicked <;> simp [JobThread.hasPanicked, hp, panic?, Effect.after]
      · rw [List.getElem?_set_ne hik] at hj'
        refine ⟨j', hj', ?_⟩
        cases panicked <;> simp [panic?, Effect.after, hik]
  · have hnone : panic? (e.after a) = none := by
      rw [panic?]
      split
      · next k heq => exact absurd ⟨k, true, heq⟩ hend
      · rfl
    rcases ht.changed hj' with ⟨j, hj, hc⟩ | ⟨rfl, t, ⟨-, -, -, -⟩⟩
    · refine .inl ⟨j, hj, ?_⟩
      rw [hc.hasPanicked fun panicked ha => hend ⟨i, panicked, ha⟩, hnone]
      simp
    · exact .inr ⟨rfl, rfl, hnone⟩

/-- A thread that is gone tells whether its job panicked. -/
theorem joinResult_eq (hs : j.Sound) (hn : j.handle.name = jobName) {result : Except Error Unit}
    (hr : j.handle.joinResult = some result) :
    result = if j.hasPanicked then .error (.panicked "naive-job") else .ok () := by
  obtain ⟨t, panicked, hsp, rfl⟩ := Handle.joinResult_eq_some_iff.1 hr
  have hg : j.handle.hasExited = true := by rw [JobThread.hasExited_eq hsp, Progress.isOver]
  have hp : j.hasPanicked = panicked := by
    simp [JobThread.hasPanicked, hs.outside_of_hasExited hg, hsp]
  rw [hp, hn]
  rfl

theorem record_eq_panicRecord :
    (Notice.jobJoinFailed (.panicked "naive-job")).record = panicRecord := by decide

/-- The end of a wait is logged as an error if the job of the thread panicked. -/
theorem errors_joined {o : Occurrence (Action τ) (Outcome τ)} {result : Except Error Unit}
    (hs : j.Sound) (hn : j.handle.name = jobName) (hr : j.handle.joinResult = some result)
    (ho : o.notices = .threadJoined j.handle.name.text :: joinNotices result) :
    errors [o] = if j.hasPanicked then [panicRecord] else [] := by
  rw [joinResult_eq hs hn hr] at ho
  rw [errors, List.flatMap_singleton, ho]
  cases j.hasPanicked with
  | false => rfl
  | true =>
    rw [if_pos rfl, if_pos rfl, joinNotices, List.map_cons, List.map_singleton,
      record_eq_panicRecord]
    rfl

/-- What a step logs as an error. -/
theorem Transition.errors (ht : Transition p a e) (hs : ∀ j ∈ p.threads, j.Sound)
    (hn : ∀ j ∈ p.threads, j.handle.name = jobName) {permits : UInt32} (hp : Permitted permits p) :
    (JobPool.errors [e.after a] = [] ∧ join? (p, e.after a) = none) ∨
    ∃ c i j, join? (p, e.after a) = some (c, i) ∧ p.threads[i]? = some j ∧
      j.handle.hasExited = true ∧ e.state.threads[i]? = some j.collected ∧
      panic? (e.after a) = none ∧
      JobPool.errors [e.after a] = if j.hasPanicked then [panicRecord] else [] := by
  cases ht with
  | @pruneCollect s _ _ _ i j _ hsub hst hj _ hg hr =>
    have hmem := List.mem_of_getElem? hj
    refine .inr ⟨s.caller, i, j, ?_, hj, hg, getElem?_set_self_of_some hj _, rfl,
      errors_joined (hs _ hmem) (hn _ hmem) hr rfl⟩
    simp [join?, errand?, Effect.after, hsub, hst]
  | @collect c i _ j _ hd hj _ hg hr =>
    have hmem := List.mem_of_getElem? hj
    refine .inr ⟨c, i, j, ?_, hj, hg, getElem?_set_self_of_some hj _, rfl,
      errors_joined (hs _ hmem) (hn _ hmem) hr rfl⟩
    simp [join?, errand?, Effect.after, hd]
  | keep hsub hst | forget hsub hst | pruneMark hsub hst | noRoom hsub hst | makeRoom hsub hst =>
    refine .inl ⟨rfl, ?_⟩
    simp [join?, errand?, Effect.after, hsub, hst]
  | pass hd _ hr =>
    refine .inl ⟨?_, by simp [join?, errand?, Effect.after, hd]⟩
    split <;> rfl
  | mark hd | finishDestroy hd =>
    exact .inl ⟨rfl, by simp [join?, errand?, Effect.after, hd]⟩
  | giveBack hj hplace _ hf =>
    refine .inl ⟨?_, rfl⟩
    simp [JobPool.errors, Effect.after, (hp.post hj hplace hf).1, permitNotices]
  | _ => exact .inl ⟨rfl, rfl⟩

/-- A job that panics now was running. -/
theorem Transition.of_panic (ht : Transition p a e) (hs : ∀ j ∈ p.threads, j.Sound)
    (h : panic? (e.after a) = some i) :
    ∃ j, p.threads[i]? = some j ∧ j.handle.hasExited = false := by
  cases ht with
  | @finish k j job panicked hj hp =>
    have hout := (hs j (List.mem_of_getElem? hj)).outside_of_hasExited
    cases panicked with
    | false => cases h
    | true =>
      cases h
      refine ⟨j, hj, ?_⟩
      by_contra hg
      rw [hout (by simpa using hg)] at hp
      cases hp
  | _ => cases h

/-- What is known of threads that are gone does not change. -/
theorem Reported.panics_joined (h : Reported es ms p) (ht : Transition p a e)
    (hs : ∀ j ∈ p.threads, j.Sound) {x : ThreadId × Nat} (hx : x ∈ joins ms) :
    (panics (es ++ [e.after a])).contains x.2 = (panics es).contains x.2 := by
  obtain ⟨j, hj, hg⟩ := h.gone x hx
  have hne : panic? (e.after a) ≠ some x.2 := fun hpanic => by
    obtain ⟨v, hv, hthere⟩ := ht.of_panic hs hpanic
    obtain rfl := Option.some.inj (hj.symm.trans hv)
    rw [hg] at hthere
    cases hthere
  rw [panics_snoc, List.contains_append, Bool.eq_iff_iff]
  simp [hne]

theorem reports_snoc (m : Moment τ) : reports (ms ++ [m]) = reports ms ++ (report? m).toList :=
  filterMap_snoc report? ms m

theorem joins_snoc (m : Moment τ) : joins (ms ++ [m]) = joins ms ++ (join? m).toList :=
  filterMap_snoc join? ms m

/-- A thread that nobody waited for was not reported. -/
theorem Reported.reporters_eq_nil (h : Reported es ms p) (hi : i ∉ (joins ms).map Prod.snd) :
    reporters ms i = [] := by
  rw [reporters, List.map_eq_nil_iff, List.filter_eq_nil_iff, h.reports_eq]
  intro x hx heq
  exact hi (List.mem_map.2 ⟨x, List.mem_of_mem_filter hx, eq_of_beq heq⟩)

/-- Whoever waited for a thread whose job panicked is the only one who reported it. -/
theorem Reported.reporters_eq_singleton (h : Reported es ms p) (hcu : Custody es ms p)
    (hjoin : (c, i) ∈ joins ms) (hpanic : i ∈ panics es) : reporters ms i = [c] := by
  have hnodup : ((reports ms).map Prod.snd).Nodup := by
    rw [h.reports_eq]
    exact hcu.joins_nodup.sublist (List.filter_sublist.map _)
  have hmem : (c, i) ∈ reports ms := by
    rw [h.reports_eq, List.mem_filter]
    exact ⟨hjoin, by simpa using hpanic⟩
  rw [reporters, filter_snd_eq_singleton hnodup hmem, List.map_singleton]

/-- Every step keeps the account of the reports. -/
theorem Transition.reported (ht : Transition p a e) (hs : ∀ j ∈ p.threads, j.Sound)
    {permits : UInt32} (hp : Permitted permits p) (h : Reported es ms p) :
    Reported (es ++ [e.after a]) (ms ++ [(p, e.after a)]) e.state := by
  have hstep := ht.errors hs h.named hp
  have hold : (joins ms).filter (fun x => (panics (es ++ [e.after a])).contains x.2) =
      (joins ms).filter fun x => (panics es).contains x.2 :=
    List.filter_congr fun x hx => h.panics_joined ht hs hx
  exact {
    named := fun j' hj' => by
      rcases ht.mem_changed hj' with ⟨i, j, hj, hc⟩ | ⟨t, ⟨-, -, -, -⟩⟩
      · exact hc.name.trans (h.named j (List.mem_of_getElem? hj))
      · rfl
    gone := fun x hx => by
      rw [joins_snoc, List.mem_append, Option.mem_toList] at hx
      rcases hx with hx | hx
      · obtain ⟨j, hj, hg⟩ := h.gone x hx
        obtain ⟨j', hj', hc⟩ := ht.changes hj
        exact ⟨j', hj', hc.hasExited (hs j (List.mem_of_getElem? hj)) hg⟩
      · rcases hstep with ⟨-, hnone⟩ | ⟨c, i, j, hjoin, -, hg, hj', -⟩
        · rw [hnone] at hx
          cases hx
        · rw [hjoin] at hx
          cases hx
          exact ⟨_, hj', hg⟩
    panics_iff := fun i j' hj' => by
      rw [panics_snoc, List.mem_append, Option.mem_toList]
      rcases ht.panicked hj' with ⟨j, hj, hiff⟩ | ⟨rfl, hnot, hnone⟩
      · rw [hiff, h.panics_iff i j hj]
      · have hnew : p.threads.length ∉ panics es := fun hi => Nat.lt_irrefl _ (h.panics_lt _ hi)
        simp [hnot, hnone, hnew]
    panics_lt := fun i hi => by
      rw [panics_snoc, List.mem_append, Option.mem_toList] at hi
      refine Nat.lt_of_lt_of_le ?_ ht.length_threads
      rcases hi with hi | hi
      · exact h.panics_lt i hi
      · obtain ⟨j, hj, -⟩ := ht.of_panic hs hi
        exact (List.getElem?_eq_some_iff.1 hj).1
    reports_eq := by
      rw [reports_snoc, joins_snoc, List.filter_append, hold, h.reports_eq, report?]
      rcases hstep with ⟨hnil, hnone⟩ | ⟨c, i, j, hjoin, hj, -, -, hpanic, herrors⟩
      · simp [hnil, hnone]
      · rw [herrors, hjoin, panics_snoc, hpanic, Option.toList_none, List.append_nil]
        have hiff := h.panics_iff i j hj
        cases hb : j.hasPanicked <;> simp_all
    errors_eq := by
      rw [errors_snoc, reports_snoc, h.errors_eq, report?]
      rcases hstep with ⟨hnil, -⟩ | ⟨c, i, j, hjoin, -, -, -, -, herrors⟩
      · simp [hnil]
      · rw [herrors, hjoin]
        cases hb : j.hasPanicked <;> simp [List.replicate_succ'] }

end Step

/-! ## Who joins the thread of a job -/

section Joiner

variable {p : JobPool τ} {a : Action τ} {e : Effect (JobPool τ) (Outcome τ)} {es : History τ}
  {ms : List (Moment τ)} {s : Submit τ} {i : Nat} {c : ThreadId} {j : JobThread τ}

/-- A submit that has still to come to a thread that is gone joins it. -/
theorem Transition.unseen (ht : Transition p a e) (ho : Orderly p) (h : Custody es ms p)
    (hsub : p.submitting = some s) (hi : i ∈ s.stage.unseen) (hj : p.threads[i]? = some j)
    (hg : j.handle.hasExited = true) : join? (p, e.after a) = some (s.caller, i) ∨
      ∃ stage, e.state.submitting = some { s with stage } ∧ i ∈ stage.unseen := by
  cases ha : isSubmitStep s.caller a with
  | false => exact .inr ⟨s.stage, ht.untouched ho hsub ha, hi⟩
  | true =>
    cases ht with
    | @keep s' _ kept rest k v hsub' hst hv _ hthere =>
      obtain rfl := Option.some.inj (hsub.symm.trans hsub')
      rw [hst] at hi
      refine .inr ⟨_, rfl, (List.mem_cons.1 hi).resolve_left ?_⟩
      rintro rfl
      obtain rfl := Option.some.inj (hj.symm.trans hv)
      rw [hg] at hthere
      cases hthere
    | forget hsub' hst hv hr =>
      obtain rfl := Option.some.inj (hsub.symm.trans hsub')
      exact absurd (h.running_of_pruning hsub hst hv) hr
    | pruneMark hsub' hst =>
      obtain rfl := Option.some.inj (hsub.symm.trans hsub')
      rw [hst] at hi
      exact .inr ⟨_, rfl, hi⟩
    | pruneCollect hsub' hst =>
      obtain rfl := Option.some.inj (hsub.symm.trans hsub')
      rw [hst] at hi
      rcases List.mem_cons.1 hi with rfl | hi
      · exact .inl (by simp [join?, errand?, Effect.after, hsub, hst])
      · exact .inr ⟨_, rfl, hi⟩
    | noRoom hsub' hst | makeRoom hsub' hst | accept hsub' hst | decline hsub' hst =>
      obtain rfl := Option.some.inj (hsub.symm.trans hsub')
      rw [hst] at hi
      cases hi
    | _ => cases ha

/-- A submit ends when it came to all threads on the list. -/
theorem Transition.unseen_of_ends (ht : Transition p a e) (hsub : p.submitting = some s)
    (h : EndsSubmit s.caller (e.after a)) : s.stage.unseen = [] := by
  obtain ⟨ha, hout⟩ := h
  cases ht with
  | noRoom hsub' hst | accept hsub' hst | decline hsub' hst =>
    obtain rfl := Option.some.inj (hsub.symm.trans hsub')
    rw [hst, Submitting.unseen]
  | keep | forget | pruneMark | pruneCollect | makeRoom => simp [Effect.after] at hout
  | _ => cases ha

/-- After the first destroy was called, nobody else has a handle. -/
theorem Teardown.of_first (htd : Teardown es p) (ho : Orderly p) (hf : firstDestroyer es = some c)
    (hin : InHand p i) : p.submitting = none ∧ ∃ d, p.destroying c = some d ∧ i ∈ d.left := by
  have hshut : p.shutdown = true := by
    by_contra hs
    rw [(htd.unshut (by simpa using hs)).1] at hf
    cases hf
  obtain ⟨hlisted, hsub⟩ := ho.shut hshut
  refine ⟨hsub, ?_⟩
  rcases hin with hknown | ⟨x, d, hd, hi⟩
  · rw [known_of_not_submitting hsub, hlisted] at hknown
    cases hknown
  · obtain rfl := Option.some.inj ((htd.first_of_left hd hi).symm.trans hf)
    exact ⟨d, hd, hi⟩

/-- After the first destroy was called, nobody else has to do with a handle. -/
theorem Teardown.caller_of_errand (htd : Teardown es p) (ho : Orderly p)
    (hf : firstDestroyer es = some c) {o : Occurrence (Action τ) (Outcome τ)} {x : ThreadId}
    {errand : Errand} (h : errand? (p, o) = some (x, i, errand)) : x = c := by
  obtain ⟨hnone, d, hd, hi⟩ := htd.of_first ho hf (inHand_of_errand h)
  rcases errand_cases h with ⟨_, s, -, hsub, -⟩ | ⟨-, ⟨rest, hx, -⟩ | ⟨rest, hx, -⟩⟩
  · rw [hnone] at hsub
    cases hsub
  · exact htd.same_of_left hd hi hx List.mem_cons_self
  · exact htd.same_of_left hd hi hx List.mem_cons_self

/-- A destroy that has still to come to a thread other than its own joins it. -/
theorem Transition.left (ht : Transition p a e) (ho : Orderly p) (htd : Teardown es p)
    (htd' : Teardown (es ++ [e.after a]) e.state) (hs : ∀ j ∈ p.threads, j.Sound)
    (h : Custody es ms p) {d : Joining} (hd : p.destroying c = some d) (hi : i ∈ d.left)
    (hj : p.threads[i]? = some j) (htc : j.thread? ≠ some c) :
    join? (p, e.after a) = some (c, i) ∨ ∃ d, e.state.destroying c = some d ∧ i ∈ d.left := by
  have hf := htd.first_of_left hd hi
  rcases ht.inHand_kept ho htd hs h (.inr ⟨c, d, hd, hi⟩) with hin | ⟨x, b, herrand⟩ |
    ⟨x, rest, v, hd', hv, htx⟩
  · exact .inr (htd'.of_first (ht.orderly ho hs) (firstDestroyer_keep hf) hin).2
  · obtain rfl := htd.caller_of_errand ho hf herrand
    exact .inl (by rw [join?, herrand])
  · obtain rfl := htd.same_of_left hd hi hd' List.mem_cons_self
    obtain rfl := Option.some.inj (hj.symm.trans hv)
    exact absurd htx htc

/-- The thread that called the first destroy is joined by nobody. -/
theorem Teardown.not_joined_by_own (htd : Teardown es p) (ho : Orderly p) (hs : j.Sound)
    (hf : firstDestroyer es = some c) (hj : p.threads[i]? = some j) (htc : j.thread? = some c)
    {o : Occurrence (Action τ) (Outcome τ)} (x : ThreadId) : join? (p, o) ≠ some (x, i) := by
  intro hjoin
  obtain ⟨b, herrand⟩ := join?_eq_some hjoin
  obtain rfl := htd.caller_of_errand ho hf herrand
  obtain ⟨y, hy⟩ := ho.awaits_of_collect herrand
  -- It would wait for itself.
  obtain ⟨hnone, d, hd, hi⟩ := htd.of_first ho hf (inHand_of_awaits hy)
  obtain ⟨progress, hsp⟩ := JobThread.thread?_eq_some_iff.1 htc
  have hjoiner : j.handle.joiner = some y :=
    (joinerAt_of_getElem? hj).symm.trans ((ho.awaits_iff y i).1 hy)
  rw [awaits_of_not_submitting hnone, Option.bind_eq_some_iff] at hy
  obtain ⟨d', hd', haw⟩ := hy
  have hi' : i ∈ d'.left := by
    cases d' with
    | joining => cases haw
    | collecting k rest =>
      cases haw
      exact List.mem_cons_self
  obtain rfl := htd.same_of_left hd hi hd' hi'
  rcases hs.onlyJoined.joined _ hsp with ⟨-, -, hnobody⟩ | ⟨-, -, hne, -⟩
  · rw [hnobody] at hjoiner
    cases hjoiner
  · exact hne hjoiner

end Joiner

section IsRun

variable {permits : UInt32} {es fs : History τ} {p q : JobPool τ} {s : Submit τ} {i : Nat}
  {c : ThreadId} {j : JobThread τ} {a : Action τ} {e : Effect (JobPool τ) (Outcome τ)}

/-- Every panic is accounted for. -/
theorem IsRun.reported (h : IsRun permits es p) : Reported es (observed permits es) p := by
  refine h.induction (fun es p => Reported es (observed permits es) p) (fun hne => ?_)
    fun es p a e hp ht ih => ?_
  · rw [observed_nil]
    exact {
      named := fun _ hj => absurd hj List.not_mem_nil
      gone := fun _ hx => absurd hx List.not_mem_nil
      panics_iff := fun i j hj => by simp at hj
      panics_lt := fun _ hi => absurd hi List.not_mem_nil
      reports_eq := rfl
      errors_eq := rfl }
  · rw [hp.observed_snoc]
    exact ht.reported hp.sound hp.permitted ih

/-- A submit that has still to come to a thread that is gone joins it before it ends. -/
theorem IsRun.joined_by_submit (h : IsRun permits es p) (hsub : p.submitting = some s)
    (hi : i ∈ s.stage.unseen) (hj : p.threads[i]? = some j) (hg : j.handle.hasExited = true)
    (hf : Run step p fs q) (he : q.step a = some e) (hends : EndsSubmit s.caller (e.after a)) :
    (s.caller, i) ∈ joins (moments step p fs) := by
  have hkept : (∃ j, q.threads[i]? = some j ∧ j.handle.hasExited = true) ∧
      ((s.caller, i) ∈ joins (moments step p fs) ∨
        ∃ stage, q.submitting = some { s with stage } ∧ i ∈ stage.unseen) := by
    refine hf.invariant (fun fs q => (∃ j, q.threads[i]? = some j ∧ j.handle.hasExited = true) ∧
      ((s.caller, i) ∈ joins (moments step p fs) ∨
        ∃ stage, q.submitting = some { s with stage } ∧ i ∈ stage.unseen))
      ⟨⟨j, hj, hg⟩, .inr ⟨s.stage, hsub, hi⟩⟩ ?_
    rintro gs v b f hrun ⟨⟨x, hx, hgx⟩, hjoin⟩ hstep
    have hv := h.append hrun
    have ht := transition_of_step hv.sound hstep
    obtain ⟨x', hx', hc⟩ := ht.changes hx
    refine ⟨⟨x', hx', hc.hasExited (hv.sound_at hx) hgx⟩, ?_⟩
    rw [hrun.moments_snoc, joins_snoc, List.mem_append, Option.mem_toList]
    rcases hjoin with hjoin | ⟨stage, hvsub, hvi⟩
    · exact .inl (.inl hjoin)
    · rcases ht.unseen hv.orderly hv.custody hvsub hvi hx hgx with hnow | hlater
      · exact .inl (.inr hnow)
      · exact .inr hlater
  refine hkept.2.resolve_right ?_
  rintro ⟨stage, hqsub, hqi⟩
  have hnil := (transition_of_step (h.append hf).sound he).unseen_of_ends hqsub hends
  dsimp only at hnil
  rw [hnil] at hqi
  cases hqi

/-- A destroy that has still to come to a thread other than its own joins it before it returns. -/
theorem IsRun.joined_by_destroy (h : IsRun permits es p) {d : Joining}
    (hd : p.destroying c = some d) (hi : i ∈ d.left) (hj : p.threads[i]? = some j)
    (htc : j.thread? ≠ some c) (hf : Run step p fs q) (he : q.step (.proceed c) = some e)
    (hret : e.outcome = .returned) : (c, i) ∈ joins (moments step p fs) := by
  have hkept : (∃ j, q.threads[i]? = some j ∧ j.thread? ≠ some c) ∧
      ((c, i) ∈ joins (moments step p fs) ∨ ∃ d, q.destroying c = some d ∧ i ∈ d.left) := by
    refine hf.invariant (fun fs q => (∃ j, q.threads[i]? = some j ∧ j.thread? ≠ some c) ∧
      ((c, i) ∈ joins (moments step p fs) ∨ ∃ d, q.destroying c = some d ∧ i ∈ d.left))
      ⟨⟨j, hj, htc⟩, .inr ⟨d, hd, hi⟩⟩ ?_
    rintro gs v b f hrun ⟨⟨x, hx, hxc⟩, hjoin⟩ hstep
    have hv := h.append hrun
    have ht := transition_of_step hv.sound hstep
    obtain ⟨x', hx', hc⟩ := ht.changes hx
    refine ⟨⟨x', hx', hc.thread? ▸ hxc⟩, ?_⟩
    rw [hrun.moments_snoc, joins_snoc, List.mem_append, Option.mem_toList]
    rcases hjoin with hjoin | ⟨d', hvd, hvi⟩
    · exact .inl (.inl hjoin)
    · rcases ht.left hv.orderly hv.teardown (hv.snoc hstep).teardown hv.sound hv.custody hvd hvi hx
        hxc with hnow | hlater
      · exact .inl (.inr hnow)
      · exact .inr hlater
  refine hkept.2.resolve_right ?_
  rintro ⟨d', hqd, hqi⟩
  have hreturned : returned? (e.after (.proceed c)) = some c := by
    rw [returned?, Effect.after, hret]
  rw [returned?_after (transition_of_step (h.append hf).sound he) hreturned] at hqd
  cases hqd
  cases hqi

/-- A job that ran the destroy that took its handle is joined by nobody. -/
theorem IsRun.not_joined_by_own (h : IsRun permits es p) (hfirst : firstDestroyer es = some c)
    (hj : p.threads[i]? = some j) (htc : j.thread? = some c) (hf : Run step p fs q) :
    i ∉ (joins (moments step p fs)).map Prod.snd := by
  refine (hf.invariant (fun fs q => firstDestroyer (es ++ fs) = some c ∧
    (∃ j, q.threads[i]? = some j ∧ j.thread? = some c) ∧
    i ∉ (joins (moments step p fs)).map Prod.snd)
    ⟨by rwa [List.append_nil], ⟨j, hj, htc⟩, by simp [moments, joins]⟩ ?_).2.2
  rintro gs v b f hrun ⟨hvf, ⟨x, hx, hxc⟩, hnot⟩ hstep
  have hv := h.append hrun
  have ht := transition_of_step hv.sound hstep
  obtain ⟨x', hx', hc⟩ := ht.changes hx
  refine ⟨?_, ⟨x', hx', hc.thread?.trans hxc⟩, ?_⟩
  · rw [← List.append_assoc]
    exact firstDestroyer_keep hvf
  · rw [hrun.moments_snoc, joins_snoc, List.map_append, List.mem_append, not_or]
    refine ⟨hnot, fun hlast => ?_⟩
    obtain ⟨y, hy, rfl⟩ := List.mem_map.1 hlast
    exact hv.teardown.not_joined_by_own hv.orderly (hv.sound_at hx) hvf hx hxc y.1
      (Option.mem_toList.1 hy)

theorem reporters_append (ms ns : List (Moment τ)) (i : Nat) :
    reporters (ms ++ ns) i = reporters ms i ++ reporters ns i := by
  simp only [reporters, reports, List.filterMap_append, List.filter_append, List.map_append]

/-- A handle that is in somebody's hands was not reported. -/
theorem IsRun.reporters_of_inHand (h : IsRun permits es p) (hin : InHand p i) :
    reporters (observed permits es) i = [] := by
  refine h.reported.reporters_eq_nil fun hi => ?_
  obtain ⟨x, hx, rfl⟩ := List.mem_map.1 hi
  exact h.custody.joined x hx hin

/-- The panic of a job is reported when the join of its thread is over. -/
theorem IsRun.reporters_of_joined (h : IsRun permits es p) (hf : Run step p fs q)
    (hin : InHand p i) (hjoin : (c, i) ∈ joins (moments step p fs))
    (hpanic : i ∈ panics (es ++ fs)) : reporters (moments step p fs) i = [c] := by
  have hall : reporters (observed permits (es ++ fs)) i = [c] := by
    refine (h.append hf).reported.reporters_eq_singleton (h.append hf).custody ?_ hpanic
    rw [h.observed_append, joins, List.filterMap_append]
    exact List.mem_append_right _ hjoin
  rwa [h.observed_append, reporters_append, h.reporters_of_inHand hin, List.nil_append] at hall

end IsRun

/-! ## All panics -/

/-- The panics of the jobs of a pool are reported once each, by the caller that is to do it. -/
structure PanicsReported (permits : UInt32) (es : History τ) (p : JobPool τ) : Prop where
  /-- The thread `i` is that of the accepted job `i`. -/
  jobs : Accounted es p
  /-- The list holds the threads of the accepted jobs, in order, but for those that a submit
      joined and those that a destroy took. -/
  listed : p.known = (List.range (accepted es).length).filter (isLeft (observed permits es))
  /-- A submit that makes its thread looked once at each thread on the list, saw whether it was
      gone, and kept those that were not, in order. -/
  kept : ∀ c job e fs q t f, p.step (.submit c job) = some e → e.outcome = .moved →
    Run step e.state fs q → (∀ o ∈ fs, ¬EndsSubmit c o) → q.step (.create c (.ok t)) = some f →
    (looks (moments step e.state fs)).map Prod.fst = p.listed ∧
    (∀ m ∈ moments step e.state fs, ∀ i gone, look? m = some (i, gone) →
      ∃ j, m.1.threads[i]? = some j ∧ j.handle.hasExited = gone) ∧
    f.state.listed = there (looks (moments step e.state fs)) ++ [(accepted es).length]
  joined_once : (calls (observed permits es)).Nodup
  /-- The records of errors are those of the reports, with this text. -/
  records : errors es = List.replicate (reports (observed permits es)).length panicRecord
  once : ∀ i, (reporters (observed permits es) i).length ≤ 1
  only : ∀ x ∈ reports (observed permits es), x.2 ∈ panics es
  /-- The first submit that takes the lock after the thread is gone reports the panic, before it
      ends, be it with an error. -/
  first_submit : ∀ c job e fs q i j a f, p.step (.submit c job) = some e → e.outcome = .moved →
    i ∈ p.listed → p.threads[i]? = some j → j.handle.hasExited = true → i ∈ panics es →
    Run step e.state fs q → q.step a = some f → EndsSubmit c (f.after a) →
    reporters (moments step e.state fs) i = [c]
  /-- So does a submit that has the lock already, if it has still to look at the thread. -/
  under_way : ∀ s fs q i j a f, p.submitting = some s → i ∈ s.stage.unseen →
    p.threads[i]? = some j → j.handle.hasExited = true → i ∈ panics es →
    Run step p fs q → q.step a = some f → EndsSubmit s.caller (f.after a) →
    reporters (moments step p fs) i = [s.caller]
  /-- A destroy that takes the handle reports the panic before it returns, unless it was called
      by the job. -/
  destroy : ∀ c e fs q i j f, p.step (.destroy c) = some e → i ∈ p.listed →
    p.threads[i]? = some j → j.thread? ≠ some c → Run step e.state fs q →
    q.step (.proceed c) = some f → f.outcome = .returned →
    i ∈ panics (es ++ e.after (.destroy c) :: fs) → reporters (moments step e.state fs) i = [c]
  /-- If it was called by the job, nobody ever does. -/
  own : ∀ c e fs q i j, p.step (.destroy c) = some e → i ∈ p.listed →
    p.threads[i]? = some j → j.thread? = some c → Run step e.state fs q →
    reporters (observed permits (es ++ e.after (.destroy c) :: fs)) i = []
  /-- A panic is reported, or somebody has the handle, or the job ran the destroy that took it. -/
  settled : ∀ i ∈ panics es, (∃ c, reporters (observed permits es) i = [c]) ∨
    reporters (observed permits es) i = [] ∧ (InHand p i ∨ i ∈ taken (observed permits es) ∧
      ∃ j c, p.threads[i]? = some j ∧ j.thread? = some c ∧ firstDestroyer es = some c)

section Panics

variable {permits : UInt32} {es fs : History τ} {p q : JobPool τ} {i : Nat} {c : ThreadId}
  {j : JobThread τ} {a : Action τ} {e f : Effect (JobPool τ) (Outcome τ)} {job : τ}

theorem IsRun.length_threads (h : IsRun permits es p) :
    p.threads.length = (accepted es).length := by
  rw [← h.accounted.length, jobs, List.length_map]

/-- A submit that reports the panic of a job joined its thread, as it had still to look at it. -/
theorem IsRun.reported_by_submit (h : IsRun permits es p) {s : Submit τ}
    (hsub : p.submitting = some s) (hi : i ∈ s.stage.unseen) (hj : p.threads[i]? = some j)
    (hg : j.handle.hasExited = true) (hpanic : i ∈ panics es) (hf : Run step p fs q)
    (hq : q.step a = some f) (hends : EndsSubmit s.caller (f.after a)) :
    reporters (moments step p fs) i = [s.caller] := by
  refine h.reporters_of_joined hf (.inl ?_) (h.joined_by_submit hsub hi hj hg hf hq hends) ?_
  · revert hi
    simp only [known, hsub]
    cases s.stage with
    | pruning | collecting => exact List.mem_append_right _
    | creating => exact fun hi => absurd hi List.not_mem_nil
  · rw [panics, List.filterMap_append]
    exact List.mem_append_left _ hpanic

/-- A destroy takes the whole list. -/
theorem destroying_of_destroy (h : IsRun permits es p) (he : p.step (.destroy c) = some e) :
    e.state.destroying c = some (.joining p.listed) ∧ e.state.threads = p.threads := by
  cases transition_of_step h.sound he with
  | call ha =>
    exact ⟨(Calls.lookup_begin (isCalling_of_admits ha).2.1).trans (if_pos rfl), rfl⟩

/-- Every panic of a job is reported exactly once, by the submit or the destroy that joins its
    thread, but for the job that ran the destroy that took its handle. -/
theorem IsRun.panics_reported (h : IsRun permits es p) : PanicsReported permits es p where
  jobs := h.accounted
  listed := by rw [h.custody.known_eq, h.length_threads]
  kept c job e fs q t f he hmoved hf hopen hq := by
    obtain ⟨hseen, hlisted⟩ := h.listed_of_accepted he hmoved hf hopen hq
    refine ⟨hseen, fun m hm i gone hlook => ?_, h.length_threads ▸ hlisted⟩
    obtain ⟨gs, hgs⟩ := hf.of_mem_moments hm
    exact ((h.snoc he).append hgs).look_true hlook
  joined_once := h.custody.calls_nodup
  records := h.reported.errors_eq
  once i := by
    by_cases hi : i ∈ (joins (observed permits es)).map Prod.snd
    · obtain ⟨⟨c, i⟩, hx, rfl⟩ := List.mem_map.1 hi
      by_cases hpanic : i ∈ panics es
      · rw [h.reported.reporters_eq_singleton h.custody hx hpanic]
        exact Nat.le_refl 1
      · rw [reporters, h.reported.reports_eq, List.filter_filter, List.length_map,
          List.filter_eq_nil_iff.2]
        · exact Nat.zero_le 1
        · rintro x - hx
          simp only [List.contains_eq_mem, Bool.and_eq_true, beq_iff_eq, decide_eq_true_eq] at hx
          exact hpanic (hx.1 ▸ hx.2)
    · rw [h.reported.reporters_eq_nil hi]
      exact Nat.zero_le 1
  only x hx := by
    rw [h.reported.reports_eq, List.mem_filter] at hx
    simpa using hx.2
  first_submit c job e fs q i j a f he hmoved hi hj hg hpanic hf hq hends := by
    have hr := h.snoc he
    cases transition_of_step h.sound he with
    | refuse => cases hmoved
    | submit =>
      refine hr.reported_by_submit rfl hi hj hg ?_ hf hq hends
      rw [panics_snoc]
      exact List.mem_append_left _ hpanic
  under_way _ _ _ _ _ _ _ hsub hi hj hg hpanic hf hq hends :=
    h.reported_by_submit hsub hi hj hg hpanic hf hq hends
  destroy c e fs q i j f he hi hj htc hf hq hret hpanic := by
    obtain ⟨hd, hthreads⟩ := destroying_of_destroy h he
    have hr := h.snoc he
    refine hr.reporters_of_joined hf (.inr ⟨c, _, hd, hi⟩)
      (hr.joined_by_destroy hd hi (hthreads ▸ hj) htc hf hq hret) ?_
    rwa [List.append_assoc]
  own c e fs q i j he hi hj htc hf := by
    obtain ⟨hd, hthreads⟩ := destroying_of_destroy h he
    have hr := h.snoc he
    have hnot := hr.not_joined_by_own (hr.teardown.first_of_left hd hi) (hthreads ▸ hj) htc hf
    have hall : es ++ e.after (.destroy c) :: fs = es ++ [e.after (.destroy c)] ++ fs := by
      rw [List.append_assoc, List.singleton_append]
    rw [hall]
    refine (hr.append hf).reported.reporters_eq_nil ?_
    rw [hr.observed_append, joins, List.filterMap_append, List.map_append, List.mem_append, not_or]
    refine ⟨fun hbefore => ?_, hnot⟩
    obtain ⟨x, hx, rfl⟩ := List.mem_map.1 hbefore
    exact hr.custody.joined x hx (.inr ⟨c, _, hd, hi⟩)
  settled i hpanic := by
    obtain ⟨j, hj⟩ : ∃ j, p.threads[i]? = some j :=
      ⟨_, List.getElem?_eq_getElem (h.reported.panics_lt i hpanic)⟩
    by_cases hin : InHand p i
    · exact .inr ⟨h.reporters_of_inHand hin, .inl hin⟩
    by_cases hjoined : i ∈ (joins (observed permits es)).map Prod.snd
    · obtain ⟨⟨c, i⟩, hx, rfl⟩ := List.mem_map.1 hjoined
      exact .inl ⟨c, h.reported.reporters_eq_singleton h.custody hx hpanic⟩
    · refine .inr ⟨h.reported.reporters_eq_nil hjoined, .inr ?_⟩
      obtain ⟨htaken, c, htc, hfirst⟩ :=
        ((h.custody.hands i j hj).resolve_left hin).resolve_left hjoined
      exact ⟨htaken, j, c, hj, htc, hfirst⟩

/-- All three jobs panic. The thread of the first is joined by a submit that gets no thread, the
    thread of the second by the destroy that the third calls: nobody reports the third. -/
theorem panics_reported_of_three_jobs :
    ∃ (es : History Nat) (p : JobPool Nat), IsRun 3 es p ∧ panics es = [0, 1, 2] ∧
      (List.range 3).map (reporters (observed 3 es)) = [[8], [3], []] ∧
      errors es = [panicRecord, panicRecord] ∧ PanicsReported 3 es p := by
  obtain ⟨es, p, h, hf⟩ := exists_isRun 3
    [.submit 7 10, .prune 7 true, .create 7 (.ok 1), .submit 7 11, .prune 7 true, .prune 7 true,
      .create 7 (.ok 2), .submit 7 12, .prune 7 true, .prune 7 true, .prune 7 true,
      .create 7 (.ok 3), .advance 0 none, .advance 0 none, .advance 0 none, .advance 0 none,
      .advance 1 none, .advance 1 none, .advance 1 none, .advance 1 none, .advance 2 none,
      .advance 2 none, .advance 2 none, .advance 2 none, .jobEnded 0 true, .advance 0 none,
      .advance 0 none, .advance 0 none, .submit 8 13, .prune 8 true, .prune 8 true, .prune 8 true,
      .prune 8 true, .prune 8 true, .create 8 (.error (.other "")), .destroy 3, .jobEnded 1 true,
      .proceed 3, .advance 1 none, .advance 1 none, .advance 1 none, .proceed 3, .proceed 3,
      .proceed 3, .jobEnded 2 true]
    (fun es _ => (panics es, (List.range 3).map (reporters (observed 3 es)),
      (reports (observed 3 es)).length)) ([0, 1, 2], [[8], [3], []], 2) (by decide)
  simp only [Prod.mk.injEq] at hf
  have hreported := h.panics_reported
  refine ⟨es, p, h, hf.1, hf.2.1, ?_, hreported⟩
  rw [hreported.records, hf.2.2]
  rfl

end Panics

end JobPool

end Threading

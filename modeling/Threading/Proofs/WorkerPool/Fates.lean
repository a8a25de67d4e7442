import Mathlib.Data.List.Induction
import Threading.Proofs.Records
import Threading.Proofs.WorkerPool.Told

/-!
# The log tells the fate of every worker

Three parties write about a worker: whoever makes the pool, if the thread is refused
(`countP_unavailable_starts`); the worker itself, when its loop ended; and the destroy that waited
for its thread, if a task had panicked on it. After a destroy returned on a thread outside the
pool, the log tells which of three fates the worker had (`Fate`, `IsRun.fate`), and at every
moment how many tasks began on it (`IsRun.fates_told`).
-/

namespace Threading.WorkerPool

variable {τ : Type}

/-! ## The log -/

/-- How many records say of the worker `i` that it has no thread, that a task took it along, and
    that it exits. -/
def recordsOf (log : List Record) (i : Nat) : List Nat :=
  [log.countP fun r => r.reads .warn s!"Worker {i} unavailable",
    log.countP fun r => r.reads .error s!"Worker {i} lost to a panicking task",
    log.countP fun r => r.reads .debug s!"Worker {i} exiting"]

section Log

variable {label : String} {answers : List (Except Refusal ThreadId)} {es : History τ}
  {f : Effect (WorkerPool τ) Unit} {i : Nat}

/-- The notice that a worker has no thread. -/
def isUnavailable (i : Nat) : Notice → Bool
  | .workerUnavailable k _ => k == i
  | _ => false

theorem reads_unavailable (n : Notice) :
    n.record.reads .warn s!"Worker {i} unavailable" = isUnavailable i n := by
  rw [Bool.eq_iff_iff, Notice.reads_unavailable_iff]
  cases n <;> simp [isUnavailable]

/-- A record that only one notice can give is counted with the notice. -/
theorem countP_record {is : Record → Bool} {n : Notice}
    (h : ∀ m : Notice, is m.record = true ↔ m = n) (ns : List Notice) :
    (ns.map Notice.record).countP is = ns.count n := by
  rw [List.countP_map, List.count_eq_countP]
  refine List.countP_congr fun m _ => ?_
  rw [Function.comp_apply, h, beq_iff_eq]

theorem count_taskBegun (ns : List Notice) (i : Nat) :
    ns.count (.taskBegun i) = (ns.filterMap beginner?).count i := by
  rw [List.count_eq_countP, List.count_eq_countP, List.countP_filterMap]
  refine List.countP_congr fun n _ => ?_
  cases n <;> simp [beginner?]

/-- Only the beginnings of tasks are traced. -/
theorem countP_trace (ns : List Notice) :
    ((ns.map Notice.record).countP fun r => r.level == .trace) =
      (ns.filterMap beginner?).length := by
  rw [List.countP_map, List.length_filterMap_eq_countP]
  refine List.countP_congr fun n _ => ?_
  cases n <;> simp [beginner?, Notice.record]

theorem count_map_fst (xs : List (Nat × τ)) (i : Nat) :
    (xs.map Prod.fst).count i = (ofWorker i xs).length := by
  rw [ofWorker, List.length_map, ← List.countP_eq_length_filter, List.count_eq_countP,
    List.countP_map]
  rfl

/-- What is reported when a pool is made. -/
theorem notices_of_create (h : create label answers = .ok f) :
    f.notices = (answers.mapIdx (startWorker (τ := τ) label)).flatMap (fun s => s.notices) ++
      [.poolStarted label (f.state.workers.countP fun w => w.handle.stage != .idle)
        answers.length] := by
  rw [create] at h
  split at h
  · cases h
  · cases h
    rfl

/-- Whoever makes a pool writes no error, and nothing that a worker writes. -/
theorem notices_of_create_quiet (h : create label answers = .ok f) {n : Notice}
    (hn : n ∈ f.notices) : (n.record.level == .error) = false ∧ beginner? n = none ∧
      ∀ i panicked, n ≠ farewell i panicked := by
  have hfarewell (hn : ∀ k, n ≠ .workerLost k ∧ n ≠ .workerExiting k) (i : Nat) (panicked : Bool) :
      n ≠ farewell i panicked := by
    rw [farewell]
    split
    · exact (hn i).1
    · exact (hn i).2
  rw [notices_of_create h, List.mem_append, List.mem_flatMap, List.mem_singleton] at hn
  rcases hn with ⟨s, hs, hn⟩ | rfl
  · obtain ⟨k, hk, rfl⟩ := List.mem_mapIdx.1 hs
    cases hanswer : answers[k] with
    | ok t =>
      rw [hanswer, startWorker, List.mem_singleton] at hn
      subst hn
      exact ⟨rfl, rfl, hfarewell (by simp)⟩
    | error refusal =>
      simp only [hanswer, startWorker, List.mem_cons, List.not_mem_nil, or_false] at hn
      rcases hn with rfl | rfl <;> exact ⟨rfl, rfl, hfarewell (by simp)⟩
  · exact ⟨rfl, rfl, hfarewell (by simp)⟩

/-- Whoever makes a pool writes once of each worker whose thread was refused that it is not
    there. -/
theorem countP_unavailable_starts (answers : List (Except Refusal ThreadId)) (i : Nat) :
    ((answers.mapIdx (startWorker (τ := τ) label)).flatMap fun s => s.notices).countP
      (isUnavailable i) = (answers[i]?.any isRefused).toNat := by
  induction answers using List.reverseRecOn with
  | nil => rfl
  | append_singleton answers answer ih =>
    have hlast : (startWorker (τ := τ) label answers.length answer).notices.countP
        (isUnavailable i) = (answers.length == i && isRefused answer).toNat := by
      cases answer with
      | ok t => rw [isRefused, Except.toOption, Option.isNone_some, Bool.and_false]; rfl
      | error refusal =>
        cases h : answers.length == i <;>
          simp [startWorker, isUnavailable, isRefused, Except.toOption, h]
    rw [List.mapIdx_concat, List.flatMap_append, List.countP_append, ih, List.flatMap_singleton,
      hlast, List.getElem?_append]
    split
    · next hlt => simp [Nat.ne_of_gt hlt]
    · next hge =>
      rw [List.getElem?_eq_none (Nat.not_lt.1 hge), Option.any_none, Bool.toNat_false, Nat.zero_add,
        List.getElem?_singleton]
      by_cases heq : answers.length = i
      · simp [heq]
      · have hne : i - answers.length ≠ 0 := by omega
        simp [heq, hne]

end Log

/-! ## Fates -/

/-- What the log of a pool that was made with these answers tells about the worker `i`, after a
    destroy returned outside the pool: one of three tales, which exclude each other. -/
inductive Fate (label : String) (answers : List (Except Refusal ThreadId)) (es : History τ)
    (i : Nat) : Prop
  /-- The thread was refused: one record says so. -/
  | refused {refusal : Refusal} :
    answers[i]? = some (.error refusal) → ofWorker i (panicked es) = [] →
    recordsOf (logged label answers es) i = [1, 0, 0] →
    joinErrors (observed label answers es) i = [] → Fate label answers es i
  /-- A task panicked on the worker: one record says that it is lost, and the destroy that joined
      its thread, called outside the pool, wrote the one that reports the panic. -/
  | lost {t : ThreadId} {task : τ} {c : ThreadId} :
    answers[i]? = some (.ok t) → ofWorker i (panicked es) = [task] →
    recordsOf (logged label answers es) i = [0, 1, 0] → c ∉ granted answers →
    joinErrors (observed label answers es) i = [(c, panicReport (workerName label i))] →
    Fate label answers es i
  /-- The worker survived: one record says that it exits. -/
  | survived {t : ThreadId} :
    answers[i]? = some (.ok t) → ofWorker i (panicked es) = [] →
    recordsOf (logged label answers es) i = [0, 0, 1] →
    joinErrors (observed label answers es) i = [] → Fate label answers es i

/-- What the log of a pool tells about its workers. -/
structure FatesTold (label : String) (answers : List (Except Refusal ThreadId)) (es : History τ) :
    Prop where
  fates : (∃ x ∈ results es, x.1 ∉ granted answers) → ∀ i < answers.length,
    Fate label answers es i
  /-- There are no errors but these two of each worker that was lost. -/
  errors : (∃ x ∈ results es, x.1 ∉ granted answers) →
    ((logged label answers es).countP fun r => r.level == .error) = 2 * (panicked es).length
  /-- At every moment, there is a trace for each task that began, -/
  traces : ((logged label answers es).countP fun r => r.level == .trace) = (begun es).length
  /-- which says that the worker runs it. -/
  running : ∀ i : Nat, ((logged label answers es).countP fun r =>
    r.reads .trace s!"Worker {i} running a task") = (ofWorker i (begun es)).length

section IsRun

variable {label : String} {answers : List (Except Refusal ThreadId)} {es : History τ}
  {p : WorkerPool τ} {i : Nat} {w : Worker τ}

theorem IsRun.logged_eq (h : IsRun label answers es p) :
    ∃ f : Effect (WorkerPool τ) Unit, create label answers = .ok f ∧
      logged label answers es = (f.notices ++ reported es).map Notice.record := by
  obtain ⟨-, f, hf, -⟩ := h
  exact ⟨f, hf, by rw [logged, hf]⟩

/-- How often the log says what only workers and destroys say. -/
theorem IsRun.countP_logged (h : IsRun label answers es p) (is : Record → Bool) {n : Notice}
    (his : ∀ m : Notice, is m.record = true ↔ m = n) (hn : ∀ f : Effect (WorkerPool τ) Unit,
      create label answers = .ok f → n ∉ f.notices) :
    (logged label answers es).countP is = (reported es).count n := by
  obtain ⟨f, hf, hlogged⟩ := h.logged_eq
  rw [hlogged, countP_record his, List.count_append, List.count_eq_zero.2 (hn f hf), Nat.zero_add]

/-- What the log says of a worker. -/
theorem IsRun.recordsOf_eq (h : IsRun label answers es p) (hw : p.workers[i]? = some w) :
    recordsOf (logged label answers es) i =
      [(answers[i]?.any isRefused).toNat, (w.hasTold true).toNat, (w.hasTold false).toNat] := by
  have htold := h.told hw
  have hunavailable : ((logged label answers es).countP fun r =>
      r.reads .warn s!"Worker {i} unavailable") = (answers[i]?.any isRefused).toNat := by
    obtain ⟨f, hf, hlogged⟩ := h.logged_eq
    have hnone : (reported es).countP (isUnavailable i) = 0 := by
      refine List.countP_eq_zero.2 fun n hn => ?_
      cases n with
      | workerUnavailable k error => exact absurd hn (h.not_unavailable k error)
      | _ => simp [isUnavailable]
    have hmade : f.notices.countP (isUnavailable i) = (answers[i]?.any isRefused).toNat := by
      rw [notices_of_create hf, List.countP_append, countP_unavailable_starts]
      rfl
    rw [hlogged, List.countP_map, List.countP_congr fun n _ => by
      rw [Function.comp_apply, reads_unavailable], List.countP_append, hmade, hnone, Nat.add_zero]
  have hlost := h.countP_logged (fun r => r.reads .error s!"Worker {i} lost to a panicking task")
    (fun _ => Notice.reads_lost_iff) fun f hf hn =>
      (notices_of_create_quiet hf hn).2.2 i true rfl
  have hexiting := h.countP_logged (fun r => r.reads .debug s!"Worker {i} exiting")
    (fun _ => Notice.reads_exiting_iff) fun f hf hn =>
      (notices_of_create_quiet hf hn).2.2 i false rfl
  rw [recordsOf, hunavailable, hlost, hexiting]
  rw [← htold.farewells true, ← htold.farewells false]
  rfl

/-- The thread of a worker is the one that was granted for it. -/
theorem IsRun.thread?_at (h : IsRun label answers es p) (hw : p.workers[i]? = some w) :
    ∃ answer, answers[i]? = some answer ∧ w.thread? = answer.toOption := by
  have hthread := congrArg (fun xs => xs[i]?) h.threads
  simp only [List.getElem?_map, hw, Option.map_some] at hthread
  obtain ⟨answer, hanswer, heq⟩ := Option.map_eq_some_iff.1 hthread.symm
  exact ⟨answer, hanswer, heq.symm⟩

/-- Once a destroy returned outside the pool, a worker whose loop ended said so, and was reported if
    it was lost. -/
theorem IsRun.settled (h : IsRun label answers es p)
    (hout : ∃ x ∈ results es, x.1 ∉ granted answers) (hw : p.workers[i]? = some w) :
    (∀ panicked, w.hasTold panicked = (w.ending? == some panicked)) ∧ w.isReported = w.isLost := by
  have hs := h.sound_at hw
  refine ⟨fun panicked => hs.hasTold_of_isGone ?_ panicked, ?_⟩
  · exact (h.counted hout).atRest.gone w (List.mem_of_getElem? hw)
  · cases hlost : w.isLost with
    | false => rw [Worker.isReported, hlost, Bool.and_false]
    | true =>
      have hthread := hs.thread?_isSome_of_ending? (beq_iff_eq.1 hlost)
      rw [Worker.isReported, hlost, h.isCollected hout hw hthread]
      rfl

/-- What the log tells about a worker is its fate. -/
theorem IsRun.fate (h : IsRun label answers es p) (hout : ∃ x ∈ results es, x.1 ∉ granted answers)
    (hw : p.workers[i]? = some w) : Fate label answers es i := by
  have hs := h.sound_at hw
  have htold := h.told hw
  obtain ⟨hsaid, hreported⟩ := h.settled hout hw
  have hrecords := h.recordsOf_eq hw
  obtain ⟨answer, hanswer, hthread⟩ := h.thread?_at hw
  rw [hsaid, hsaid, hanswer, Option.any_some] at hrecords
  cases answer with
  | error refusal =>
    have hnone : w.ending? = none := by
      by_contra hne
      obtain ⟨b, hb⟩ := Option.ne_none_iff_exists'.1 hne
      have hsome := hs.thread?_isSome_of_ending? hb
      rw [hthread] at hsome
      cases hsome
    have hlost : w.isLost = false := by rw [Worker.isLost, hnone]; rfl
    rw [hnone] at hrecords
    refine .refused hanswer ?_ hrecords (htold.unreported (hreported.trans hlost))
    exact List.length_eq_zero_iff.1 (by rw [htold.losses, hlost]; rfl)
  | ok t =>
    have hcollected := h.isCollected hout hw (by rw [hthread]; rfl)
    obtain ⟨b, hb⟩ := hs.ending?_of_isCollected hcollected
    have hlost : w.isLost = b := by rw [Worker.isLost, hb]; cases b <;> rfl
    rw [hb] at hrecords
    cases b with
    | true =>
      obtain ⟨c, hc, hjoin⟩ := htold.reported (hreported.trans hlost)
      have hone : (ofWorker i (panicked es)).length = 1 := by rw [htold.losses, hlost]; rfl
      obtain ⟨task, htask⟩ := List.length_eq_one_iff.1 hone
      exact .lost hanswer htask hrecords hc hjoin
    | false =>
      refine .survived hanswer ?_ hrecords (htold.unreported (hreported.trans hlost))
      exact List.length_eq_zero_iff.1 (by rw [htold.losses, hlost]; rfl)

/-- The log of a pool tells the fate of every worker, and of every task that began. -/
theorem IsRun.fates_told (h : IsRun label answers es p) : FatesTold label answers es where
  fates hout i hi := by
    have hlength : p.workers.length = answers.length := by
      simpa using congrArg List.length h.threads
    exact h.fate hout (List.getElem?_eq_getElem (hlength.symm ▸ hi))
  errors hout := by
    obtain ⟨f, hf, hlogged⟩ := h.logged_eq
    have hmade : (f.notices.map Notice.record).countP (fun r => r.level == .error) = 0 := by
      refine List.countP_eq_zero.2 fun r hr => ?_
      obtain ⟨n, hn, rfl⟩ := List.mem_map.1 hr
      rw [(notices_of_create_quiet hf hn).1]
      exact Bool.false_ne_true
    have hall : ∀ w ∈ p.workers, w.hasTold true = w.isLost ∧ w.isReported = w.isLost := fun w hw => by
      obtain ⟨i, hi⟩ := List.getElem?_of_mem hw
      obtain ⟨hsaid, hreported⟩ := h.settled hout hi
      exact ⟨hsaid true, hreported⟩
    have hsaid : p.workers.countP (fun w => w.hasTold true) = (panicked es).length := by
      rw [← h.countP_isLost]
      exact List.countP_congr fun w hw => by rw [(hall w hw).1]
    have hreported : p.workers.countP Worker.isReported = (panicked es).length := by
      rw [← h.countP_isLost]
      exact List.countP_congr fun w hw => by rw [(hall w hw).2]
    have herrors := h.length_errors
    rw [hsaid, hreported, errors, ← List.countP_eq_length_filter] at herrors
    rw [hlogged, List.map_append, List.countP_append, hmade, herrors]
    omega
  traces := by
    obtain ⟨f, hf, hlogged⟩ := h.logged_eq
    have hmade : f.notices.filterMap beginner? = [] :=
      List.filterMap_eq_nil_iff.2 fun n hn => (notices_of_create_quiet hf hn).2.1
    rw [hlogged, countP_trace, List.filterMap_append, hmade, h.beginners, List.nil_append,
      List.length_map]
  running i := by
    rw [h.countP_logged (fun r => r.reads .trace s!"Worker {i} running a task")
      (fun _ => Notice.reads_running_iff) fun f hf hn =>
        Option.some_ne_none i (notices_of_create_quiet hf hn).2.1,
      count_taskBegun, h.beginners, count_map_fst]

/-- Of three workers, one has no thread, the second is lost to its task, and the third exits, after
    the destroy of the thread `9`. -/
theorem fates_told_of_three_workers :
    ∃ (es : History Nat) (p : WorkerPool Nat),
      IsRun "pool" [.error (.system 11), .ok 2, .ok 3] es p ∧
      results es = [(3, 0), (9, 0)] ∧ panicked es = [(1, 10)] ∧ begun es = [(1, 10), (2, 11)] ∧
      FatesTold "pool" [.error (.system 11), .ok 2, .ok 3] es := by
  obtain ⟨es, p, h, hf⟩ := exists_isRun "pool" [.error (.system 11), .ok 2, .ok 3]
    [.submit 10 true none, .submit 11 true none, .advance 1, .advance 1, .advance 1, .advance 1,
      .advance 2, .advance 2, .advance 2, .advance 2, .destroy 3, .proceed 3, .proceed 3,
      .proceed 3, .proceed 3, .taskEnded 1 true, .advance 1, .destroy 9, .proceed 9, .proceed 9,
      .proceed 9, .proceed 9, .proceed 9, .proceed 9, .taskEnded 2 false, .advance 2, .advance 2,
      .advance 1, .advance 1, .advance 1, .advance 2, .advance 2, .advance 2, .proceed 9,
      .proceed 9, .proceed 9, .proceed 9, .proceed 9, .proceed 9, .proceed 9, .proceed 9]
    (fun es _ => (results es, panicked es, begun es))
    ([(3, 0), (9, 0)], [(1, 10)], [(1, 10), (2, 11)]) (by decide) (by decide)
  simp only [Prod.mk.injEq] at hf
  exact ⟨es, p, h, hf.1, hf.2.1, hf.2.2, h.fates_told⟩

end IsRun

end Threading.WorkerPool

import Mathlib.Order.Bounds.Basic
import Threading.Proofs.BlockingQueue
import Threading.Proofs.WorkerPool.Order

/-!
# Lists that cannot grow

A list asks for memory only when it is full, so whether the next element finds room
without memory does not depend on the present length alone: the list keeps the room it
once had. That room is the least capacity (`IsCapacity`) that holds the greatest length
that the list ever had (`IsRoom`).

* A step adds an element for which room was found, or keeps the room and adds none
  (`Grows`). So the room that a list has can be told from all its lengths (`Run.room`).
* An element that finds no room is not added, and its step leaves everything as it was.
  Such a step can be taken out of a history: what follows it is possible without it, comes
  to the same and leads to the same state (`Run.forget`).

`growth_fails_atomically` says what this means for the pushes of a queue and for the
submits of a pool.
-/

namespace Threading

/-! ## Room -/

/-- A capacity that a list can have: 0, 4, 8, 16, … -/
def IsCapacity (n : Nat) : Prop := n = 0 ∨ ∃ k, n = 4 * 2 ^ k

/-- The least capacity that holds `peak` elements. -/
def IsRoom (peak capacity : Nat) : Prop := IsLeast {c | IsCapacity c ∧ peak ≤ c} capacity

theorem isCapacity_grownCapacity {c : Nat} (hc : IsCapacity c) : IsCapacity (grownCapacity c) := by
  obtain rfl | ⟨k, rfl⟩ := hc
  · exact .inr ⟨0, rfl⟩
  · refine .inr ⟨k + 1, ?_⟩
    have hpos := Nat.two_pow_pos k
    rw [grownCapacity, pow_succ]
    omega

/-- No capacity lies between one and the next. -/
theorem grownCapacity_le {c d : Nat} (hc : IsCapacity c) (hd : IsCapacity d) (hlt : c < d) :
    grownCapacity c ≤ d := by
  obtain rfl | ⟨j, rfl⟩ := hd
  · exact absurd hlt (Nat.not_lt_zero c)
  · have hj := Nat.two_pow_pos j
    obtain rfl | ⟨k, rfl⟩ := hc
    · rw [grownCapacity]
      omega
    · have hkj : k < j := (Nat.pow_lt_pow_iff_right Nat.one_lt_two).1 (by omega)
      have hpow := Nat.pow_le_pow_right Nat.two_pos hkj
      rw [pow_succ] at hpow
      rw [grownCapacity]
      omega

theorem isRoom_zero : IsRoom 0 0 := ⟨⟨.inl rfl, Nat.le_refl 0⟩, fun c _ => Nat.zero_le c⟩

/-- A list that finds room for one more element has the least capacity for it. -/
theorem IsRoom.reserve {peak length capacity capacity' : Nat} {memory : Bool}
    (h : IsRoom peak capacity) (hle : length ≤ peak)
    (hr : reserveOne length capacity memory = some capacity') :
    IsRoom (max (length + 1) peak) capacity' := by
  obtain ⟨⟨hc, hpeak⟩, hleast⟩ := h
  rw [reserveOne] at hr
  split at hr
  · -- There was room already, and a capacity that holds more holds `peak` elements.
    next hroom =>
    cases hr
    refine ⟨⟨hc, max_le hroom hpeak⟩, fun d hd => hleast ⟨hd.1, ?_⟩⟩
    exact (le_max_right _ _).trans hd.2
  · -- The list was full, and never longer than it is now.
    next hfull =>
    split at hr
    · cases hr
      refine ⟨⟨isCapacity_grownCapacity hc, ?_⟩, fun d hd => grownCapacity_le hc hd.1 ?_⟩
      · have hgrown : capacity < grownCapacity capacity := by
          rw [grownCapacity]
          omega
        omega
      · have hd := hd.2
        omega
    · cases hr

/-- Without memory there is room for one more element below the capacity only. -/
theorem reserveOne_false_isSome_iff {length capacity : Nat} :
    (reserveOne length capacity false).isSome = true ↔ length < capacity := by
  rw [reserveOne]
  split <;> simp [*]

/-! ## Lengths and room along a run -/

/-- What a step does to the length of a list and to its capacity. -/
inductive Grows (length capacity length' capacity' : Nat) : Prop
  /-- An element is added, for which room was found. -/
  | adds {memory : Bool} : reserveOne length capacity memory = some capacity' →
    length' = length + 1 → Grows length capacity length' capacity'
  /-- No element is added. -/
  | keeps : capacity' = capacity → length' ≤ length → Grows length capacity length' capacity'

theorem IsRoom.grows {peak length capacity length' capacity' : Nat} (h : IsRoom peak capacity)
    (hle : length ≤ peak) (hg : Grows length capacity length' capacity') :
    IsRoom (max length' peak) capacity' := by
  cases hg with
  | adds hr hlength =>
    rw [hlength]
    exact h.reserve hle hr
  | keeps hcapacity hlength =>
    rw [hcapacity, max_eq_right (hlength.trans hle)]
    exact h

variable {σ α ρ : Type}

/-- The lengths that a list had during `es`, if `R` tells where histories lead. -/
def lengths (R : List (Occurrence α ρ) → σ → Prop) (length : σ → Nat)
    (es : List (Occurrence α ρ)) : Set Nat :=
  {n | ∃ fs t, fs <+: es ∧ R fs t ∧ length t = n}

section Run

variable {step : σ → α → Option (Effect σ ρ)} {s t : σ} {es : List (Occurrence α ρ)}
  {length : σ → Nat}

theorem Run.lengths_nil : lengths (Run step s) length [] = {length s} := by
  refine Set.eq_singleton_iff_unique_mem.2 ⟨⟨[], s, List.prefix_rfl, .nil, rfl⟩, ?_⟩
  rintro n ⟨fs, u, hfs, hu, rfl⟩
  obtain rfl := List.prefix_nil.1 hfs
  rw [hu.of_nil]

/-- One more step adds the length to which it leads. -/
theorem Run.lengths_snoc {o : Occurrence α ρ} (h : Run step s (es ++ [o]) t) :
    lengths (Run step s) length (es ++ [o]) =
      insert (length t) (lengths (Run step s) length es) := by
  ext n
  constructor
  · rintro ⟨fs, u, hfs, hu, rfl⟩
    obtain rfl | hfs := List.prefix_concat_iff.1 hfs
    · exact .inl (congrArg length (hu.unique h))
    · exact .inr ⟨fs, u, hfs, hu, rfl⟩
  · rintro (rfl | ⟨fs, u, hfs, hu, rfl⟩)
    · exact ⟨es ++ [o], t, List.prefix_rfl, h, rfl⟩
    · exact ⟨fs, u, hfs.trans (List.prefix_append _ _), hu, rfl⟩

/-- A list that was empty at first has the least capacity for the greatest of its lengths. -/
theorem Run.room (length capacity : σ → Nat) (h : Run step s es t) (hlength : length s = 0)
    (hcapacity : capacity s = 0)
    (hgrows : ∀ fs v a e, Run step s fs v → step v a = some e →
      Grows (length v) (capacity v) (length e.state) (capacity e.state)) :
    ∃ peak, IsGreatest (lengths (Run step s) length es) peak ∧ IsRoom peak (capacity t) := by
  refine h.invariant (fun es t => ∃ peak, IsGreatest (lengths (Run step s) length es) peak ∧
    IsRoom peak (capacity t)) ⟨0, ?_, ?_⟩ fun fs v a e hfs ⟨peak, hpeak, hroom⟩ he => ?_
  · rw [Run.lengths_nil, hlength]
    exact isGreatest_singleton
  · rw [hcapacity]
    exact isRoom_zero
  · have hv : length v ≤ peak := hpeak.2 ⟨fs, v, List.prefix_rfl, hfs, rfl⟩
    refine ⟨max (length e.state) peak, ?_, hroom.grows hv (hgrows fs v a e hfs he)⟩
    rw [(hfs.snoc he).lengths_snoc]
    exact hpeak.insert _

end Run

/-! ## Queues -/

namespace BlockingQueue

variable {α : Type} {es : History α} {q : BlockingQueue α} {a : Action α}
  {e : Effect (BlockingQueue α) (Outcome α)}

/-- The items that were handed in. -/
def given (es : History α) : List α :=
  es.filterMap fun o => match o.action with
    | .push item _ _ => some item
    | _ => none

/-- The items that went back to be dropped. -/
def dropped (es : History α) : List α :=
  es.filterMap fun o => match o.outcome with
    | .refused item => some item
    | _ => none

/-- An item that is handed in is queued, or goes back. -/
theorem Transition.given_eq (ht : Transition q a e) :
    given [e.after a] = pushed [e.after a] ++ dropped [e.after a] := by
  cases ht <;> rfl

theorem IsRun.given_perm (h : IsRun es q) : (given es).Perm (pushed es ++ dropped es) := by
  refine Run.invariant h (fun es _ => (given es).Perm (pushed es ++ dropped es)) .nil
    fun fs v a e _ ih he => ?_
  have ho := (transition_of_step he).given_eq
  simp only [given, pushed, dropped, List.filterMap_append] at ih ho ⊢
  exact perm_append_append ih ho

theorem Transition.grows (ht : Transition q a e) :
    Grows q.length q.capacity e.state.length e.state.capacity := by
  cases ht with
  | push hr | wake hr => exact .adds hr List.length_append
  | take _ hi | takeWoken _ hi | tryTake hi =>
    exact .keeps rfl (by rw [length, length, hi]; exact Nat.le_succ _)
  | refuse | sleep | sleepOn | tryEmpty | stir => exact .keeps rfl (Nat.le_refl _)

/-- A push can wake the thread that has slept longest. -/
theorem exists_push_first (q : BlockingQueue α) (item : α) (memory : Bool) :
    ∃ e, q.step (.push item memory q.poppers.first) = some e := by
  rw [step]
  split
  · exact ⟨_, rfl⟩
  · obtain ⟨poppers, hn⟩ := q.poppers.exists_notifyOne
    exact ⟨_, Option.map_eq_some_iff.2 ⟨poppers, hn, rfl⟩⟩

/-- A push is over at once, whoever sleeps. -/
theorem exists_push (q : BlockingQueue α) (item : α) (memory : Bool) :
    ∃ chosen e, q.step (.push item memory chosen) = some e :=
  ⟨q.poppers.first, q.exists_push_first item memory⟩

/-- A push succeeds if the queue has room, or finds some. -/
theorem Transition.pushResult_eq_ok_iff {item : α} {memory : Bool} {chosen : Option ThreadId}
    (ht : Transition q (.push item memory chosen) e) :
    pushResult e.outcome = .ok () ↔ (reserveOne q.length q.capacity memory).isSome = true := by
  cases ht with
  | refuse hr => simp [pushResult, hr]
  | push hr | wake hr => simp [pushResult, hr]

/-- A push of `item` into the queue `q`, after `es`, was the step `o` to the queue `q'`, and
    failed with `error`. -/
structure FailedPush (es : History α) (q : BlockingQueue α) (item : α) (error : Error)
    (o : Occurrence (Action α) (Outcome α)) (q' : BlockingQueue α) : Prop where
  allocation : error = .allocation .exhausted
  /-- The queue is as it was: nothing came in, and whoever slept sleeps. -/
  unchanged : q' = q
  silent : o.notices = []
  /-- The item goes back to be dropped, -/
  back : ∀ fs, dropped (es ++ o :: fs) = dropped es ++ item :: dropped fs
  /-- and is not queued. -/
  not_queued : ∀ fs, pushed (es ++ o :: fs) = pushed (es ++ fs)
  /-- If no item is handed in twice, this one is dropped once, and is never handed out. -/
  once : ∀ fs u, IsRun (es ++ o :: fs) u → (given (es ++ o :: fs)).Nodup →
    (dropped (es ++ o :: fs)).Nodup ∧ item ∉ popped (es ++ o :: fs) ∧ item ∉ u.items
  /-- Without the call, the same can happen, with the same answers, and to the same end. -/
  forgotten : ∀ fs u, IsRun (es ++ o :: fs) u ↔ IsRun (es ++ fs) u

/-- What pushes come to for which there is no memory, in the queue `q` after `es`. -/
structure GrowsAtomically (es : History α) (q : BlockingQueue α) : Prop where
  /-- A push is over at once. -/
  answered : ∀ item memory, ∃ chosen e, q.step (.push item memory chosen) = some e
  /-- Without memory it succeeds below the room that the greatest length left. -/
  room : ∃ peak room, IsGreatest (lengths IsRun length es) peak ∧ IsRoom peak room ∧
    ∀ item chosen e, q.step (.push item false chosen) = some e →
      (pushResult e.outcome = .ok () ↔ q.length < room)
  failed : ∀ item memory chosen e error, q.step (.push item memory chosen) = some e →
    pushResult e.outcome = .error error →
    FailedPush es q item error (e.after (.push item memory chosen)) e.state

/-- An item that went back is nowhere else. -/
theorem IsRun.dropped_once (h : IsRun es q) (hdistinct : (given es).Nodup) {item : α}
    (hitem : item ∈ dropped es) : (dropped es).Nodup ∧ item ∉ popped es ∧ item ∉ q.items := by
  have hboth := h.given_perm.nodup_iff.1 hdistinct
  rw [h.conserved] at hboth
  obtain ⟨-, hdropped, hdisjoint⟩ := List.nodup_append.1 hboth
  refine ⟨hdropped, fun hout => ?_, fun hin => ?_⟩
  · exact hdisjoint item (List.mem_append_left _ hout) item hitem rfl
  · exact hdisjoint item (List.mem_append_right _ hin) item hitem rfl

theorem IsRun.failedPush (h : IsRun es q) {item : α} {memory : Bool} {chosen : Option ThreadId}
    {error : Error} (he : q.step (.push item memory chosen) = some e)
    (herror : pushResult e.outcome = .error error) :
    FailedPush es q item error (e.after (.push item memory chosen)) e.state := by
  cases transition_of_step he with
  | push | wake => cases herror
  | refuse hr =>
    cases herror
    have hback (fs : History α) : dropped (es ++
        ⟨.push item memory chosen, .refused item, []⟩ :: fs) =
          dropped es ++ item :: dropped fs := List.filterMap_append
    exact {
      allocation := rfl
      unchanged := rfl
      silent := rfl
      back := hback
      not_queued := fun fs => by
        rw [pushed, pushed, List.filterMap_append, List.filterMap_append]
        rfl
      once := fun fs u hu hdistinct => hu.dropped_once hdistinct (by
        rw [Effect.after, hback]
        exact List.mem_append_right _ List.mem_cons_self)
      forgotten := fun fs u => h.forget he rfl }

/-- The list has the least capacity for the greatest of its lengths. -/
theorem IsRun.room (h : IsRun es q) :
    ∃ peak, IsGreatest (lengths IsRun length es) peak ∧ IsRoom peak q.capacity :=
  Run.room length capacity h rfl rfl fun _ _ _ _ _ he => (transition_of_step he).grows

theorem IsRun.growsAtomically (h : IsRun es q) : GrowsAtomically es q where
  answered := q.exists_push
  room := by
    obtain ⟨peak, hpeak, hroom⟩ := h.room
    refine ⟨peak, q.capacity, hpeak, hroom, fun item chosen e he => ?_⟩
    rw [(transition_of_step he).pushResult_eq_ok_iff, reserveOne_false_isSome_iff]
  failed _ _ _ _ _ he herror := h.failedPush he herror

end BlockingQueue

/-! ## Pools -/

namespace WorkerPool

variable {τ : Type} {label : String} {answers : List (Except Refusal ThreadId)} {es : History τ}
  {p : WorkerPool τ} {a : Action τ} {e : Effect (WorkerPool τ) (Outcome τ)}

theorem Transition.grows (ht : Transition p a e) :
    Grows p.pending p.capacity e.state.pending e.state.capacity := by
  cases ht with
  | accept _ _ hr | rouse _ _ hr => exact .adds hr List.length_append
  | take _ _ hp => exact .keeps rfl (by rw [pending, pending, hp]; exact Nat.le_succ _)
  | spend | drain | abandonLast => exact .keeps rfl (Nat.zero_le _)
  | _ => exact .keeps rfl (Nat.le_refl _)

/-- The first sleeping worker can be notified. -/
theorem exists_notifyOne (p : WorkerPool τ) :
    ∃ workers, p.notifyOne p.firstAsleep = some workers := by
  cases hfirst : p.firstAsleep with
  | none => exact ⟨_, by rw [notifyOne, hfirst]; rfl⟩
  | some i =>
    have hi := List.of_findIdx?_eq_some (p := Worker.isAsleep) hfirst
    split at hi
    · next w hw =>
      obtain ⟨handle, loop⟩ := w
      cases Worker.isAsleep_iff.1 hi
      exact ⟨_, by rw [notifyOne, hw]⟩
    · cases hi

/-- A submit that wakes the first sleeping worker is over at once. -/
theorem exists_submit_first (ha : p.abandoned = false) (task : τ) (memory : Bool) :
    ∃ e, p.step (.submit task memory p.firstAsleep) = some e := by
  rw [step, ha, if_neg Bool.false_ne_true]
  split
  · exact ⟨_, rfl⟩
  · split
    · exact ⟨_, rfl⟩
    · obtain ⟨workers, hn⟩ := p.exists_notifyOne
      exact ⟨_, Option.map_eq_some_iff.2 ⟨workers, hn, rfl⟩⟩

/-- A submit is over at once, whoever sleeps. -/
theorem exists_submit (ha : p.abandoned = false) (task : τ) (memory : Bool) :
    ∃ chosen e, p.step (.submit task memory chosen) = some e :=
  ⟨p.firstAsleep, exists_submit_first ha task memory⟩

/-- Before the shutdown a submit succeeds if the list has room, or finds some. -/
theorem Transition.accepted_iff {task : τ} {memory : Bool} {chosen : Option Nat}
    (ht : Transition p (.submit task memory chosen) e) (hs : p.shutdown = false) :
    e.outcome = .accepted ↔ (reserveOne p.pending p.capacity memory).isSome = true := by
  cases ht with
  | refuse _ hr =>
    obtain ⟨hshut, -⟩ | ⟨-, hr, -⟩ := hr
    · rw [hs] at hshut
      cases hshut
    · simp [hr]
  | accept _ _ hr | rouse _ _ hr => simp [hr]
  | move _ m => cases m

/-- A task that went back is nowhere else. -/
theorem Accounted.rejected_once (h : Accounted es p) (hdistinct : (submitted es).Nodup) {task : τ}
    (htask : task ∈ rejected es) :
    (rejected es).Nodup ∧ task ∉ (begun es).map Prod.snd ∧ task ∉ freed es ∧ task ∉ p.tasks := by
  have hboth := h.answered.nodup_iff.1 hdistinct
  rw [h.in_order] at hboth
  obtain ⟨-, hrejected, hdisjoint⟩ := List.nodup_append.1 hboth
  have haccepted (hin : task ∈ (begun es).map Prod.snd ++ freed es ++ p.tasks) : False :=
    hdisjoint task hin task htask rfl
  refine ⟨hrejected, fun hb => haccepted ?_, fun hf => haccepted ?_, fun hq => haccepted ?_⟩
  · exact List.mem_append_left _ (List.mem_append_left _ hb)
  · exact List.mem_append_left _ (List.mem_append_right _ hf)
  · exact List.mem_append_right _ hq

/-- A submit of `task` to the pool `p`, after `es`, was the step `o` to the pool `p'`, and failed
    with `error`. -/
structure FailedSubmit (label : String) (answers : List (Except Refusal ThreadId))
    (es : History τ) (p : WorkerPool τ) (task : τ) (error : Error)
    (o : Occurrence (Action τ) (Outcome τ)) (p' : WorkerPool τ) : Prop where
  allocation : error = .allocation .exhausted
  /-- The pool is as it was: nothing came in, and whoever slept sleeps. -/
  unchanged : p' = p
  silent : o.notices = []
  /-- The task goes back to be dropped, -/
  back : ∀ fs, rejected (es ++ o :: fs) = rejected es ++ task :: rejected fs
  /-- and is not queued. -/
  not_queued : ∀ fs, accepted (es ++ o :: fs) = accepted (es ++ fs)
  /-- If no task is handed in twice, this one is dropped once, and is never begun. -/
  once : ∀ fs r, IsRun label answers (es ++ o :: fs) r → (submitted (es ++ o :: fs)).Nodup →
    (rejected (es ++ o :: fs)).Nodup ∧ task ∉ (begun (es ++ o :: fs)).map Prod.snd ∧
      task ∉ freed (es ++ o :: fs) ∧ task ∉ r.tasks
  /-- Without the call, the same can happen, with the same answers, and to the same end. -/
  forgotten : ∀ fs r, IsRun label answers (es ++ o :: fs) r ↔ IsRun label answers (es ++ fs) r

/-- What submits come to for which there is no memory, in the pool `p` after `es`. -/
structure GrowsAtomically (label : String) (answers : List (Except Refusal ThreadId))
    (es : History τ) (p : WorkerPool τ) : Prop where
  /-- A submit is over at once. -/
  answered : ∀ task memory, ∃ chosen e, p.step (.submit task memory chosen) = some e
  /-- Without memory it succeeds below the room that the greatest length left. -/
  room : ∃ peak room, IsGreatest (lengths (IsRun label answers) pending es) peak ∧
    IsRoom peak room ∧ ∀ task chosen e, p.step (.submit task false chosen) = some e →
      (e.outcome = .accepted ↔ p.pending < room)
  failed : ∀ task memory chosen e error back, p.step (.submit task memory chosen) = some e →
    e.outcome = .rejected error back →
    FailedSubmit label answers es p task error (e.after (.submit task memory chosen)) e.state

theorem isRun_eq (hd : (granted answers).Nodup) {f : Effect (WorkerPool τ) Unit}
    (hf : create label answers = .ok f) : IsRun label answers = Run step f.state := by
  funext fs r
  refine propext ⟨fun ⟨_, g, hg, hr⟩ => ?_, fun hr => ⟨hd, f, hf, hr⟩⟩
  obtain rfl : f = g := Except.ok.inj (hf.symm.trans hg)
  exact hr

theorem IsRun.forget (h : IsRun label answers es p) (he : p.step a = some e) (hsame : e.state = p)
    {fs : History τ} {r : WorkerPool τ} :
    IsRun label answers (es ++ e.after a :: fs) r ↔ IsRun label answers (es ++ fs) r := by
  obtain ⟨hd, f, hf, hrun⟩ := h
  rw [isRun_eq hd hf]
  exact hrun.forget he hsame

/-- The list has the least capacity for the greatest of its lengths. -/
theorem IsRun.room (h : IsRun label answers es p) :
    ∃ peak, IsGreatest (lengths (IsRun label answers) pending es) peak ∧
      IsRoom peak p.capacity := by
  obtain ⟨hd, f, hf, hrun⟩ := h
  obtain ⟨workers, hstate, -⟩ := create_eq_ok hf
  rw [isRun_eq hd hf]
  refine hrun.room pending capacity (by rw [hstate]; rfl) (by rw [hstate]) fun fs v a e hfs he => ?_
  have hv : IsRun label answers fs v := ⟨hd, f, hf, hfs⟩
  exact (transition_of_step hv.sound he).grows

theorem IsRun.failedSubmit (h : IsRun label answers es p) (hs : p.shutdown = false) {task back : τ}
    {memory : Bool} {chosen : Option Nat} {error : Error}
    (he : p.step (.submit task memory chosen) = some e) (ho : e.outcome = .rejected error back) :
    FailedSubmit label answers es p task error (e.after (.submit task memory chosen)) e.state := by
  cases transition_of_step h.sound he with
  | accept | rouse => cases ho
  | move _ m => cases m
  | refuse _ hr =>
    obtain ⟨hshut, -⟩ | ⟨-, -, rfl⟩ := hr
    · rw [hs] at hshut
      cases hshut
    cases ho
    have hback (fs : History τ) : rejected (es ++
        ⟨.submit task memory chosen, .rejected (.allocation .exhausted) task, []⟩ :: fs) =
          rejected es ++ task :: rejected fs := List.filterMap_append
    exact {
      allocation := rfl
      unchanged := rfl
      silent := rfl
      back := hback
      not_queued := fun fs => by
        rw [accepted_append, accepted_append]
        rfl
      once := fun fs r hr hdistinct => hr.accounted.rejected_once hdistinct (by
        rw [Effect.after, hback]
        exact List.mem_append_right _ List.mem_cons_self)
      forgotten := fun fs r => h.forget he rfl }

theorem IsRun.growsAtomically (h : IsRun label answers es p) (hs : p.shutdown = false) :
    GrowsAtomically label answers es p where
  answered := by
    refine exists_submit ?_
    by_contra ha
    have hshut := (h.teardown.abandoned (by simpa using ha)).1
    simp [hs] at hshut
  room := by
    obtain ⟨peak, hpeak, hroom⟩ := h.room
    refine ⟨peak, p.capacity, hpeak, hroom, fun task chosen e he => ?_⟩
    rw [(transition_of_step h.sound he).accepted_iff hs, reserveOne_false_isSome_iff]
  failed _ _ _ _ _ _ he ho := h.failedSubmit hs he ho

end WorkerPool

/-! ## Queues and pools -/

/-- A push, or a submit to a pool that is not shut down, for which there is no memory, succeeds
    as long as there are fewer elements than the room that the greatest length left. Otherwise it
    fails and that is all: what was handed in is dropped, nobody is woken, and whatever happens
    later might as well happen if the call had not been made. -/
theorem growth_fails_atomically {α τ : Type} :
    (∀ (es : BlockingQueue.History α) (q : BlockingQueue α), BlockingQueue.IsRun es q →
      BlockingQueue.GrowsAtomically es q) ∧
    ∀ (label : String) (answers : List (Except Refusal ThreadId)) (es : WorkerPool.History τ)
      (p : WorkerPool τ), WorkerPool.IsRun label answers es p → p.shutdown = false →
      WorkerPool.GrowsAtomically label answers es p :=
  ⟨fun _ _ h => h.growsAtomically, fun _ _ _ _ h hs => h.growsAtomically hs⟩

/-- A thread that waits for an item sleeps on when the very first push fails. Later the queue
    has room for eight, although it was down to two items when memory was exhausted again. The
    pool has room for four tasks from the first one on. -/
theorem growth_fails_atomically_below_the_peak :
    (∃ (es : BlockingQueue.History Nat) (q : BlockingQueue Nat), BlockingQueue.IsRun es q ∧
      BlockingQueue.GrowsAtomically es q ∧ q.length = 8 ∧
      BlockingQueue.dropped es = [13, 11, 12]) ∧
    ∃ (es : WorkerPool.History Nat) (p : WorkerPool Nat), WorkerPool.IsRun "pool" [.ok 1] es p ∧
      WorkerPool.GrowsAtomically "pool" [.ok 1] es p ∧ p.pending = 4 ∧
      WorkerPool.rejected es = [5, 6] := by
  constructor
  · obtain ⟨es, q, hrun, hf⟩ := exists_run BlockingQueue.step ({} : BlockingQueue Nat)
      [.pop 1, .push 13 false none, .push 0 true (some 1), .push 1 true none, .push 2 true none,
        .push 3 true none, .push 4 true none, .look 1, .tryPop, .tryPop, .push 5 false none,
        .push 6 false none, .push 7 false none, .push 8 false none, .push 9 false none,
        .push 10 false none, .push 11 false none, .push 12 false none]
      (fun es q => (q.length, BlockingQueue.dropped es)) (8, [13, 11, 12]) (by decide)
    simp only [Prod.mk.injEq] at hf
    exact ⟨es, q, hrun, (growth_fails_atomically (τ := Nat)).1 es q hrun, hf⟩
  · obtain ⟨es, p, hrun, hf⟩ := WorkerPool.exists_isRun "pool" [.ok 1]
      [.submit 0 true none, .advance 0, .advance 0, .advance 0, .advance 0, .submit 1 false none,
        .submit 2 false none, .submit 3 false none, .submit 4 false none, .submit 5 false none,
        .submit 6 false none]
      (fun es p => (p.shutdown, p.pending, WorkerPool.rejected es)) (false, 4, [5, 6])
      (by decide) (by decide)
    simp only [Prod.mk.injEq] at hf
    exact ⟨es, p, hrun,
      (growth_fails_atomically (α := Nat)).2 "pool" [.ok 1] es p hrun hf.1, hf.2⟩

end Threading

import Threading.BlockingQueue
import Threading.Proofs.Condition
import Threading.Proofs.Run

/-!
# First in, first out

A queue begins empty, and lives through calls of any threads, in any order (`IsRun`).
`Transition` lists its steps, with what they need and what they change. What came in and
what went out is read off the history: `pushed` are the items that were queued, `popped`
the items that were handed out, each in the order of the steps.

* A step queues an item behind the others, or hands out the first one, or leaves the items
  as they are (`Transition.conserved`). So what was in a queue and came in is what went out
  and is there, in this order (`conserved_of_run`).
* Every item can be traced to the thread that pushed it (`labelled`).
* A thread waits no longer only when there is an item for it (`IsRun.never_wokeEmpty`).
* `IsRun.first_in_first_out` puts the laws together.
-/

namespace Threading.BlockingQueue

variable {α : Type}

/-- The action `a` is possible in `q`, and has this effect. -/
inductive Transition (q : BlockingQueue α) :
    Action α → Effect (BlockingQueue α) (Outcome α) → Prop
  /-- The queue cannot grow. -/
  | refuse {item : α} {memory : Bool} {chosen : Option ThreadId} :
    reserveOne q.length q.capacity memory = none →
    Transition q (.push item memory chosen) { state := q, outcome := .refused item }
  /-- An item is queued while no thread sleeps. -/
  | push {item : α} {memory : Bool} {capacity : Nat} :
    reserveOne q.length q.capacity memory = some capacity → q.poppers.asleep = [] →
    Transition q (.push item memory none)
      { state := { q with items := q.items ++ [item], capacity }, outcome := .pushed }
  /-- An item is queued, and a sleeping thread is woken. -/
  | wake {item : α} {memory : Bool} {capacity : Nat} {t : ThreadId} :
    reserveOne q.length q.capacity memory = some capacity → t ∈ q.poppers.asleep →
    Transition q (.push item memory (some t))
      { state := {
          items := q.items ++ [item]
          capacity
          poppers := ⟨q.poppers.asleep.erase t, q.poppers.woken ++ [t]⟩ }
        outcome := .pushed }
  /-- A thread takes the first item. -/
  | take {t : ThreadId} {item : α} {items : List α} :
    q.poppers.holds t = false → q.items = item :: items →
    Transition q (.pop t) { state := { q with items }, outcome := .popped item }
  /-- A thread finds no item, and goes to sleep. -/
  | sleep {t : ThreadId} :
    q.poppers.holds t = false → q.items = [] →
    Transition q (.pop t)
      { state := { q with poppers := q.poppers.sleep t }, outcome := .asleep }
  /-- A woken thread takes the first item. -/
  | takeWoken {t : ThreadId} {item : α} {items : List α} :
    t ∈ q.poppers.woken → q.items = item :: items →
    Transition q (.look t)
      { state := { q with items, poppers := q.poppers.leave t }, outcome := .popped item }
  /-- A woken thread finds no item, and sleeps on. -/
  | sleepOn {t : ThreadId} :
    t ∈ q.poppers.woken → q.items = [] →
    Transition q (.look t)
      { state := { q with poppers := q.poppers.sleepAgain t }, outcome := .asleep }
  /-- The first item is taken by a thread that would not have waited. -/
  | tryTake {item : α} {items : List α} :
    q.items = item :: items →
    Transition q .tryPop { state := { q with items }, outcome := .popped item }
  /-- There is no item for a thread that does not wait. -/
  | tryEmpty :
    q.items = [] → Transition q .tryPop { state := q, outcome := .empty }
  /-- A sleeping thread wakes for no reason. -/
  | stir {t : ThreadId} :
    t ∈ q.poppers.asleep →
    Transition q (.stir t)
      { state := { q with poppers := ⟨q.poppers.asleep.erase t, q.poppers.woken ++ [t]⟩ }
        outcome := .stirred }

/-! ## Histories -/

/-- What happened to a queue. -/
abbrev History (α : Type) := List (Occurrence (Action α) (Outcome α))

/-- The queue was made, then `es` happened, and now it is `q`. -/
def IsRun (es : History α) (q : BlockingQueue α) : Prop := Run step {} es q

/-- The item that was queued. -/
def pushed? : Occurrence (Action α) (Outcome α) → Option α
  | { action := .push item _ _, outcome := .pushed, .. } => some item
  | _ => none

/-- The item that was handed out. -/
def popped? : Occurrence (Action α) (Outcome α) → Option α
  | { outcome := .popped item, .. } => some item
  | _ => none

/-- The items that were queued, the first one first. -/
def pushed (es : History α) : List α := es.filterMap pushed?

/-- The items that were handed out, the first one first. -/
def popped (es : History α) : List α := es.filterMap popped?

theorem pushed_snoc (es : History α) (o : Occurrence (Action α) (Outcome α)) :
    pushed (es ++ [o]) = pushed es ++ (pushed? o).toList :=
  filterMap_snoc pushed? es o

theorem popped_snoc (es : History α) (o : Occurrence (Action α) (Outcome α)) :
    popped (es ++ [o]) = popped es ++ (popped? o).toList :=
  filterMap_snoc popped? es o

/-- What belongs to the thread `t`. -/
def own {β : Type} (t : ThreadId) (xs : List (ThreadId × β)) : List β :=
  xs.filterMap fun x => if x.1 = t then some x.2 else none

/-- The items that were queued, each with the thread that pushed it. -/
def labelled (ls : List (ThreadId × Occurrence (Action α) (Outcome α))) : List (ThreadId × α) :=
  ls.filterMap fun x => (pushed? x.2).map fun item => (x.1, item)

theorem map_labelled (ls : List (ThreadId × Occurrence (Action α) (Outcome α))) :
    (labelled ls).map Prod.snd = pushed (ls.map Prod.snd) := by
  rw [labelled, pushed, List.map_filterMap, List.filterMap_map]
  congr 1
  funext x
  cases h : pushed? x.2 <;> simp [h]

/-- The items that a thread pushed are those that can be traced to it. -/
theorem own_labelled (t : ThreadId) (ls : List (ThreadId × Occurrence (Action α) (Outcome α))) :
    own t (labelled ls) = pushed (own t ls) := by
  rw [own, labelled, pushed, own, List.filterMap_filterMap, List.filterMap_filterMap]
  congr 1
  funext x
  by_cases ht : x.1 = t
  · cases h : pushed? x.2 <;> simp [h, ht]
  · cases h : pushed? x.2 <;> simp [ht]

/-! ## One step -/

section Step

variable {q : BlockingQueue α} {a : Action α} {e : Effect (BlockingQueue α) (Outcome α)}

theorem transition_of_push {item : α} {memory : Bool} {chosen : Option ThreadId}
    (he : q.step (.push item memory chosen) = some e) :
    Transition q (.push item memory chosen) e := by
  rw [step.eq_def] at he
  dsimp only at he
  split at he
  · next hr =>
    cases he
    exact .refuse hr
  · next capacity hr =>
    obtain ⟨poppers, hn, rfl⟩ := Option.map_eq_some_iff.1 he
    rcases Condition.notifyOne_eq_some hn with ⟨rfl, hasleep, rfl⟩ | ⟨t, rfl, ht, rfl⟩
    · exact .push hr hasleep
    · exact .wake hr ht

/-- Where an item is queued, a thread that waits no longer takes the first one. -/
theorem takeFirst_eq (h : q.isEmpty = false) : ∃ item items, q.items = item :: items ∧
    q.takeFirst = { state := { q with items }, outcome := .popped item } := by
  obtain ⟨items, capacity, poppers⟩ := q
  cases items with
  | nil => cases h
  | cons item items => exact ⟨item, items, rfl, rfl⟩

/-- Every step of a queue is a transition. -/
theorem transition_of_step (he : q.step a = some e) : Transition q a e := by
  cases a with
  | push item memory chosen => exact transition_of_push he
  | pop t =>
    rw [step.eq_def] at he
    dsimp only at he
    split at he
    · cases he
    · next hw =>
      have hw : q.poppers.holds t = false := by simpa using hw
      split at he
      · next hempty =>
        cases he
        exact .sleep hw (List.isEmpty_iff.1 hempty)
      · next hempty =>
        obtain ⟨item, items, hi, htake⟩ := takeFirst_eq (Bool.eq_false_iff.2 hempty)
        rw [htake] at he
        cases he
        exact .take hw hi
  | look t =>
    rw [step.eq_def] at he
    dsimp only at he
    split at he
    · cases he
    · next hw =>
      have hw : t ∈ q.poppers.woken := by simpa using hw
      split at he
      · next hempty =>
        cases he
        exact .sleepOn hw (List.isEmpty_iff.1 hempty)
      · next hempty =>
        have hleft : ({ q with poppers := q.poppers.leave t } : BlockingQueue α).isEmpty = false :=
          Bool.eq_false_iff.2 hempty
        obtain ⟨item, items, hi, htake⟩ := takeFirst_eq hleft
        rw [htake] at he
        cases he
        exact .takeWoken hw hi
  | tryPop =>
    rw [step.eq_def] at he
    dsimp only at he
    split at he
    · next hi =>
      cases he
      exact .tryEmpty hi
    · next item items hi =>
      cases he
      exact .tryTake hi
  | stir t =>
    obtain ⟨poppers, hn, rfl⟩ := Option.map_eq_some_iff.1 he
    obtain ⟨ht, rfl⟩ := Condition.stir_eq_some hn
    exact .stir ht

/-- A step queues an item last, or hands out the first one, or does neither. -/
theorem Transition.conserved (ht : Transition q a e) :
    q.items ++ (pushed? (e.after a)).toList = (popped? (e.after a)).toList ++ e.state.items := by
  cases ht with
  | push | wake => rfl
  | take _ hi | takeWoken _ hi | tryTake hi => exact (List.append_nil _).trans hi
  | refuse | sleep | sleepOn | tryEmpty | stir => exact List.append_nil _

/-- A thread that waits no longer finds an item. -/
theorem Transition.ne_wokeEmpty (ht : Transition q a e) : e.outcome ≠ .wokeEmpty := by
  intro ho
  cases ht <;> cases ho

/-- A push that the queue has no room for leaves it as it was, and queues nothing. -/
theorem Transition.refused (ht : Transition q a e) {x : α} (ho : e.outcome = .refused x) :
    e.state = q ∧ pushed? (e.after a) = none ∧
      ∃ memory chosen, a = .push x memory chosen ∧
        reserveOne q.length q.capacity memory = none := by
  cases ht with
  | refuse hr =>
    cases ho
    exact ⟨rfl, rfl, _, _, rfl, hr⟩
  | _ => cases ho

/-- A try finds the first item, or no item is there. -/
theorem step_tryPop (q : BlockingQueue α) : ∃ e, q.step .tryPop = some e ∧
    (q.items = [] ∧ e.outcome = .empty ∧ e.state = q ∨
      ∃ item, q.items = item :: e.state.items ∧ e.outcome = .popped item) := by
  rw [step.eq_def]
  dsimp only
  split
  · next hi => exact ⟨_, rfl, .inl ⟨hi, rfl, rfl⟩⟩
  · next item items hi => exact ⟨_, rfl, .inr ⟨item, hi, rfl⟩⟩

/-- As many tries as there are items hand them all out, in order. -/
theorem play_tryPop (q : BlockingQueue α) : ∃ fs q',
    play step q (List.replicate q.length .tryPop) = some (fs, q') ∧
      popped fs = q.items ∧ q'.items = [] := by
  obtain ⟨items, capacity, poppers⟩ := q
  induction items with
  | nil => exact ⟨[], _, rfl, rfl, rfl⟩
  | cons item items ih =>
    obtain ⟨fs, q', hplay, hpopped, hempty⟩ := ih
    refine ⟨⟨.tryPop, .popped item, []⟩ :: fs, q', ?_, congrArg (item :: ·) hpopped, hempty⟩
    -- The first try leaves the queue with the other items.
    have hrest : (play step ⟨items, capacity, poppers⟩ (List.replicate items.length .tryPop)).map
        (fun x => (⟨.tryPop, .popped item, []⟩ :: x.1, x.2)) =
          some (⟨.tryPop, .popped item, []⟩ :: fs, q') :=
      Option.map_eq_some_iff.2 ⟨_, hplay, rfl⟩
    exact hrest

end Step

/-! ## Every moment -/

section Run

variable {es fs : History α} {q q' : BlockingQueue α}

/-- What was in a queue, and came in, went out or is there, in the same order. -/
theorem conserved_of_run (hf : Run step q fs q') : q.items ++ pushed fs = popped fs ++ q'.items := by
  refine hf.invariant (fun gs v => q.items ++ pushed gs = popped gs ++ v.items)
    (List.append_nil _) fun gs v a e _ ih he => ?_
  -- The law of the step moves the items that are there past those that were handed out.
  calc q.items ++ pushed (gs ++ [e.after a])
      = (q.items ++ pushed gs) ++ (pushed? (e.after a)).toList := by
        rw [pushed_snoc, List.append_assoc]
    _ = popped gs ++ (v.items ++ (pushed? (e.after a)).toList) := by
        rw [ih, List.append_assoc]
    _ = popped (gs ++ [e.after a]) ++ e.state.items := by
        rw [(transition_of_step he).conserved, popped_snoc, List.append_assoc]

/-- Everything that was queued was handed out in the same order, or is still there. -/
theorem IsRun.conserved (hr : IsRun es q) : pushed es = popped es ++ q.items :=
  conserved_of_run hr

/-- No thread ever stops waiting while there is no item. -/
theorem IsRun.never_wokeEmpty (hr : IsRun es q) : ∀ o ∈ es, o.outcome ≠ .wokeEmpty := by
  refine hr.invariant (fun es _ => ∀ o ∈ es, o.outcome ≠ .wokeEmpty)
    (fun o ho => absurd ho List.not_mem_nil) fun fs v a e _ ih he => ?_
  exact List.forall_mem_append.2
    ⟨ih, List.forall_mem_singleton.2 (transition_of_step he).ne_wokeEmpty⟩

/-- Where the items that were queued and handed out come from, if every step is known with the
    thread that took it. -/
theorem IsRun.own_order (hr : IsRun es q)
    {ls : List (ThreadId × Occurrence (Action α) (Outcome α))} (hls : ls.map Prod.snd = es) :
    ∃ handed queued : List (ThreadId × α), handed.map Prod.snd = popped es ∧
      queued.map Prod.snd = q.items ∧
      ∀ t, pushed (own t ls) = own t handed ++ own t queued := by
  have hall : (labelled ls).map Prod.snd = popped es ++ q.items := by
    rw [map_labelled, hls, hr.conserved]
  -- The items handed out are the first ones that were queued, the others wait.
  refine ⟨(labelled ls).take (popped es).length, (labelled ls).drop (popped es).length,
    ?_, ?_, fun t => ?_⟩
  · rw [List.map_take, hall, List.take_left]
  · rw [List.map_drop, hall, List.drop_left]
  · rw [← own_labelled, own, own, own, ← List.filterMap_append, List.take_append_drop]

/-- How the items of a queue come in and go out. -/
structure FirstInFirstOut (es : History α) (q : BlockingQueue α) : Prop where
  /-- What was queued was handed out in the same order, or is still there. -/
  conserved : pushed es = popped es ++ q.items
  length : (popped es).length + q.length = (pushed es).length
  isEmpty_iff : q.isEmpty = true ↔ popped es = pushed es
  /-- The items that a thread pushed go out, and wait, in the order in which it pushed them. -/
  own_order : ∀ ls : List (ThreadId × Occurrence (Action α) (Outcome α)), ls.map Prod.snd = es →
    ∃ handed queued : List (ThreadId × α), handed.map Prod.snd = popped es ∧
      queued.map Prod.snd = q.items ∧ ∀ t, pushed (own t ls) = own t handed ++ own t queued
  /-- A try always ends at once, and finds nothing only if there is nothing. -/
  tried : ∃ e, q.step .tryPop = some e ∧
    (q.items = [] ∧ e.outcome = .empty ∧ e.state = q ∨
      ∃ item, q.items = item :: e.state.items ∧ e.outcome = .popped item)
  /-- A queue that is taken apart hands back what is left, -/
  destroyed : pushed es = popped es ++ q.destroy
  /-- and so does one that is emptied by tries. -/
  drained : ∃ fs q', play step q (List.replicate q.length .tryPop) = some (fs, q') ∧
    popped fs = q.destroy ∧ q'.isEmpty = true
  /-- A push for which there is no memory does nothing. -/
  refused : ∀ a e item, q.step a = some e → e.outcome = .refused item →
    e.state = q ∧ pushed (es ++ [e.after a]) = pushed es ∧
      ∃ memory chosen, a = .push item memory chosen ∧
        reserveOne q.length q.capacity memory = none

/-- A queue is first in, first out. The items that were queued, in the order of the pushes, are
    those that were handed out, in the order in which they were, and then those still there:
    nothing is lost, invented or handed out twice, and no two items change places. -/
theorem IsRun.first_in_first_out (hr : IsRun es q) : FirstInFirstOut es q where
  conserved := hr.conserved
  length := by rw [hr.conserved, List.length_append, BlockingQueue.length]
  isEmpty_iff := by
    rw [hr.conserved, isEmpty, List.isEmpty_iff]
    exact List.self_eq_append_right.symm
  own_order _ hls := hr.own_order hls
  tried := step_tryPop q
  destroyed := hr.conserved
  drained := by
    obtain ⟨fs, q', hplay, hpopped, hempty⟩ := play_tryPop q
    exact ⟨fs, q', hplay, hpopped, List.isEmpty_iff.2 hempty⟩
  refused a e item he ho := by
    obtain ⟨hstate, hnone, hpush⟩ := (transition_of_step he).refused ho
    exact ⟨hstate, by rw [pushed_snoc, hnone, Option.toList_none, List.append_nil], hpush⟩

/-- The thread `1` waits for an item, and is woken by one that another thread takes before it
    looks. The fifth item finds no room. -/
theorem first_in_first_out_of_stolen_item :
    ∃ (es : History Nat) (q : BlockingQueue Nat), IsRun es q ∧ FirstInFirstOut es q ∧
      pushed es = [7, 8, 9, 10, 11, 12] ∧ popped es = [7, 8] ∧ q.destroy = [9, 10, 11, 12] := by
  obtain ⟨es, q, hrun, hf⟩ := exists_run step ({} : BlockingQueue Nat)
    [.pop 1, .push 7 true (some 1), .tryPop, .look 1, .push 8 true (some 1), .look 1,
      .push 9 true none, .push 10 true none, .push 11 true none, .push 12 true none,
      .push 13 false none]
    (fun es q => (pushed es, popped es)) ([7, 8, 9, 10, 11, 12], [7, 8]) (by decide)
  simp only [Prod.mk.injEq] at hf
  have hr : IsRun es q := hrun
  have hfifo := hr.first_in_first_out
  refine ⟨es, q, hr, hfifo, hf.1, hf.2, ?_⟩
  have hleft := hfifo.destroyed
  rw [hf.1, hf.2] at hleft
  simpa using hleft.symm

end Run

end Threading.BlockingQueue

import Threading.Proofs.BlockingQueue
import Threading.Proofs.Stock

/-!
# Items in total

The items of a queue are a stock, and a thread that calls a pop comes for one of them
(`Transition.deal`). Items also go to threads that try for one and do not wait; every
item that was handed out went to a pop or to a try (`Transition.length_popped`).

A queue is *quiescent* if nobody who waits can go on: all of them are asleep
(`Quiescent`). Then no thread sleeps beside an item, and the totals tell how many pops
returned, how many threads sleep and how many items are left
(`IsRun.pops_settled_by_totals`): a push wakes one thread at most, and the item may be
gone before that thread looks, but then another call has it.
-/

namespace Threading.BlockingQueue

variable {α : Type}

/-- The thread that calls a pop. -/
def caller? (o : Occurrence (Action α) (Outcome α)) : Option ThreadId :=
  match o.action with
  | .pop t => some t
  | _ => none

/-- The thread that takes an item, at once or after it was woken, and returns from its pop. -/
def served? (o : Occurrence (Action α) (Outcome α)) : Option ThreadId :=
  match o.action, o.outcome with
  | .pop t, .popped _ => some t
  | .look t, .popped _ => some t
  | _, _ => none

/-- The item that a try found. -/
def found? (o : Occurrence (Action α) (Outcome α)) : Option α :=
  match o.action, o.outcome with
  | .tryPop, .popped item => some item
  | _, _ => none

/-- The threads that called a pop, in order. -/
def callers (es : History α) : List ThreadId := es.filterMap caller?

/-- The threads whose pops returned, in order. -/
def served (es : History α) : List ThreadId := es.filterMap served?

/-- The items that tries found, in order. -/
def found (es : History α) : List α := es.filterMap found?

/-- The items as a stock. -/
def stock (q : BlockingQueue α) : Stock := { size := q.length, takers := q.poppers }

/-- Nobody who waits can go on: no thread is woken and about to look. Every other call is
    over in one step, or its thread goes to sleep. -/
def Quiescent (q : BlockingQueue α) : Prop := ∀ t, q.step (.look t) = none

section Step

variable {q : BlockingQueue α} {a : Action α} {e : Effect (BlockingQueue α) (Outcome α)}

/-- A thread can look if it was woken. -/
theorem step_look_eq_none_iff {t : ThreadId} : q.step (.look t) = none ↔ t ∉ q.poppers.woken := by
  rw [step.eq_def]
  dsimp only
  split
  · next hw => simpa using hw
  · next hw => split <;> simpa using hw

/-- A thread can call a pop if it does not wait. -/
theorem exists_pop {t : ThreadId} (ht : q.poppers.holds t = false) : ∃ e, q.step (.pop t) = some e := by
  rw [step.eq_def]
  dsimp only
  rw [ht]
  split
  · next hw => cases hw
  · split <;> exact ⟨_, rfl⟩

theorem quiescent_iff : q.Quiescent ↔ q.poppers.woken = [] := by
  rw [Quiescent, List.eq_nil_iff_forall_not_mem]
  exact forall_congr' fun _ => step_look_eq_none_iff

instance : Decidable q.Quiescent := decidable_of_iff _ quiescent_iff.symm

/-- Every step is a deal with the items: a thread that pops comes for one, and is served when
    it takes one. -/
theorem Transition.deal (ht : Transition q a e) :
    q.stock.Deal (caller? (e.after a)) (served? (e.after a)) e.state.stock := by
  cases ht with
  | refuse => exact .fewer (Nat.le_refl _)
  | push _ hasleep => exact .add hasleep
  | wake _ ht => exact .wake ht (Nat.le_of_eq List.length_append)
  | take hw hi => exact .take hw (congrArg List.length hi)
  | sleep hw hi => exact .sleep hw (congrArg List.length hi)
  | takeWoken hw hi => exact .takeWoken hw (congrArg List.length hi)
  | sleepOn hw hi => exact .sleepOn hw (congrArg List.length hi)
  | tryTake hi =>
    have hsize := congrArg List.length hi
    exact .fewer (Nat.le_trans (Nat.le_succ _) (Nat.le_of_eq hsize.symm))
  | tryEmpty => exact .fewer (Nat.le_refl _)
  | stir ht => exact .wake ht (Nat.le_succ _)

/-- An item that is handed out goes to a pop or to a try. -/
theorem Transition.length_popped (ht : Transition q a e) :
    (popped? (e.after a)).toList.length =
      (served? (e.after a)).toList.length + (found? (e.after a)).toList.length := by
  cases ht <;> rfl

end Step

section IsRun

variable {es : History α} {q : BlockingQueue α}

/-- The items that were handed out went to pops and to tries. -/
theorem IsRun.length_popped (h : IsRun es q) :
    (popped es).length = (served es).length + (found es).length := by
  refine Run.invariant h
    (fun es _ => (popped es).length = (served es).length + (found es).length) rfl
    fun es q a e _ ih he => ?_
  have hstep := (transition_of_step he).length_popped
  rw [served, found] at ih
  rw [popped_snoc, served, found, filterMap_snoc, filterMap_snoc, List.length_append,
    List.length_append, List.length_append]
  omega

/-- Every item that was queued went to a pop or to a try, or is still there. -/
theorem IsRun.length_pushed (h : IsRun es q) :
    (pushed es).length = (served es).length + (found es).length + q.length := by
  rw [h.conserved, List.length_append, h.length_popped, BlockingQueue.length]

/-- In a quiescent queue, as many pops returned as there were items for, of those that were
    queued and that no try found. The other threads that called a pop are asleep, and none
    of them sleeps beside an item. -/
theorem IsRun.pops_settled_by_totals (h : IsRun es q) (hq : q.Quiescent) :
    (found es).length ≤ (pushed es).length ∧
      q.stock.Settled (callers es) (served es) ((pushed es).length - (found es).length) := by
  have htotal := h.length_pushed
  refine ⟨by omega, Stock.settled_of_run h rfl (fun _ _ _ he => (transition_of_step he).deal)
    (quiescent_iff.1 hq) ?_⟩
  change (served es).length + q.length = _
  omega

/-- The threads `1` and `2` sleep. The item that the thread `1` is woken for goes to a try, and the
    one that the thread `2` is woken for to the thread `3`, before they look. Then the thread `2`
    wakes for no reason, and the thread `1` for another item. -/
theorem pops_settled_by_totals_of_stolen_items :
    ∃ (es : History Nat) (q : BlockingQueue Nat), IsRun es q ∧ q.Quiescent ∧
      pushed es = [7, 8, 9] ∧ found es = [7] ∧ callers es = [1, 2, 3] ∧ served es = [3, 1] ∧
      (found es).length ≤ (pushed es).length ∧
      q.stock.Settled (callers es) (served es) ((pushed es).length - (found es).length) := by
  obtain ⟨es, q, hrun, hf⟩ := exists_run step ({} : BlockingQueue Nat)
    [.pop 1, .pop 2, .push 7 true (some 1), .tryPop, .push 8 true (some 2), .pop 3, .look 1,
      .look 2, .stir 2, .push 9 true (some 1), .look 1, .look 2, .tryPop]
    (fun es q => (decide q.Quiescent, pushed es, found es, callers es, served es))
    (true, [7, 8, 9], [7], [1, 2, 3], [3, 1]) (by decide)
  simp only [Prod.mk.injEq, decide_eq_true_eq] at hf
  obtain ⟨hq, hpushed, hfound, hcallers, hserved⟩ := hf
  have h : IsRun es q := hrun
  obtain ⟨hle, hsettled⟩ := h.pops_settled_by_totals hq
  exact ⟨es, q, h, hq, hpushed, hfound, hcallers, hserved, hle, hsettled⟩

end IsRun

end Threading.BlockingQueue

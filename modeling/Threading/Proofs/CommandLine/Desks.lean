import Threading.CommandLine.PoolRun
import Threading.Proofs.Records
import Threading.Proofs.WorkerPool.Order

/-!
# What the tasks say and count

A worker has a `Desk`: the task that it runs, and how far it got in it. What became of the tasks
that workers took is a `Tally`: the desks, the tasks taken, how often each was told, and how many
counted themselves. A step of the run moves one task one place on, or leaves the tally as it is
(`Tally.Moves`, `PoolRun.moves_of_step`).

The tally is `Balanced`: a task that was taken was told, or is at a desk where it is yet to be told;
and so for the count. So when no task is at a desk, every task that was taken was told and counted
as often as it was taken (`Balanced.of_empty`).
-/

namespace Threading.CommandLine

open scoped List

/-! ## What a task says -/

/-- The record of a task. -/
def processing (task : Nat) : Record := infoRecord s!"Processing task {task}"

theorem processing_injective {i j : Nat} (h : processing i = processing j) : i = j := by
  have htext := congrArg (fun r => r.message.toList) h
  refine toDigits_injective ?_
  simpa [processing, infoRecord, toString] using htext

/-- The pool logs nothing like the record of a task. -/
theorem record_ne_processing (n : Notice) (task : Nat) : n.record ≠ processing task := by
  intro h
  have hlevel : n.record.level = .info := congrArg Record.level h
  cases n <;> cases hlevel

/-- The command logs nothing else like the record of a task. -/
theorem infoRecord_ne_processing {message : String} (h : message.toList.take 2 ≠ ['P', 'r'])
    (task : Nat) : infoRecord message ≠ processing task := by
  intro heq
  have htext := congrArg (fun r => r.message.toList.take 2) heq
  exact h (htext.trans (by simp [processing, infoRecord, toString]))

theorem count_processing_notices (notices : List Notice) (log : List Record) (task : Nat) :
    ((notices.map Notice.record).reverse ++ log).count (processing task) =
      log.count (processing task) := by
  rw [List.count_append, List.count_eq_zero.2, Nat.zero_add]
  intro hmem
  obtain ⟨n, -, hn⟩ := List.mem_map.1 (List.mem_reverse.1 hmem)
  exact record_ne_processing n task hn

theorem count_processing_cons (log : List Record) (told task : Nat) :
    (processing told :: log).count (processing task) =
      log.count (processing task) + [told].count task := by
  rw [List.count_cons, List.count_singleton]
  by_cases h : told = task
  · simp [h]
  · have hne : processing told ≠ processing task := fun heq => h (processing_injective heq)
    simp [h, hne]

/-! ## Tallies -/

/-- The task that a worker runs, and how far it got in it. -/
abbrev Desk := Option Nat × TaskPlace

namespace Desk

/-- The task, if it is yet to be told. -/
def untold? : Desk → Option Nat
  | (some task, .telling) => some task
  | _ => none

/-- The task, if it is yet to be counted. -/
def uncounted? : Desk → Option Nat
  | (some task, .telling) | (some task, .counting) => some task
  | _ => none

/-- What is to be done about the task besides its end. -/
def left : Desk → Nat
  | (some _, .telling) => 2
  | (some _, .counting) => 1
  | _ => 0

end Desk

/-- What became of the tasks that workers took. -/
@[ext]
structure Tally where
  desks : List Desk
  /-- The tasks taken, in order. -/
  taken : List Nat
  /-- How often each task was told. -/
  told : Nat → Nat
  /-- How many tasks counted themselves. -/
  completed : Nat

namespace Tally

/-- One task is one place on, or none is. -/
inductive Moves (t : Tally) : Tally → Prop
  | same : Moves t t
  | take {i task : Nat} {place : TaskPlace} : t.desks[i]? = some (none, place) →
    Moves t { t with desks := t.desks.set i (some task, place), taken := t.taken ++ [task] }
  | tell {i task : Nat} : t.desks[i]? = some (some task, .telling) →
    Moves t { t with
      desks := t.desks.set i (some task, .counting)
      told := fun x => t.told x + [task].count x }
  | count {i task : Nat} : t.desks[i]? = some (some task, .counting) →
    Moves t { t with
      desks := t.desks.set i (some task, .returning)
      completed := t.completed + 1 }
  | finish {i task : Nat} : t.desks[i]? = some (some task, .returning) →
    Moves t { t with desks := t.desks.set i (none, .telling) }

/-- No task is told or counted that was not taken, and none is lost. -/
structure Balanced (t : Tally) : Prop where
  /-- A worker without a task will begin with telling it. -/
  empty : ∀ place, (none, place) ∈ t.desks → place = .telling
  told : ∀ task, t.told task + (t.desks.filterMap Desk.untold?).count task = t.taken.count task
  counted : t.completed + (t.desks.filterMap Desk.uncounted?).length = t.taken.length

variable {t t' : Tally}

theorem Balanced.empty_set (h : t.Balanced) {i : Nat} {hand : Option Nat} {place : TaskPlace}
    (hplace : hand = none → place = .telling) (place' : TaskPlace)
    (hmem : (none, place') ∈ t.desks.set i (hand, place)) : place' = .telling := by
  rcases List.mem_or_eq_of_mem_set hmem with hmem | heq
  · exact h.empty place' hmem
  · obtain ⟨rfl, rfl⟩ := Prod.mk.inj heq
    exact hplace rfl

theorem Balanced.take (h : t.Balanced) {i task : Nat} {place : TaskPlace}
    (hi : t.desks[i]? = some (none, place)) :
    Balanced { t with
      desks := t.desks.set i (some task, place)
      taken := t.taken ++ [task] } := by
  obtain rfl := h.empty place (List.mem_of_getElem? hi)
  exact {
    empty := h.empty_set fun hnone => absurd hnone (Option.some_ne_none task)
    told := fun x => by
      have hset := count_filterMap_set_add (f := Desk.untold?) hi (some task, .telling) x
      have htold := h.told x
      simp only [Desk.untold?, Option.toList_none, Option.toList_some, List.count_nil] at hset
      simp only [List.count_append]
      omega
    counted := by
      have hset := length_filterMap_set_add (f := Desk.uncounted?) hi (some task, .telling)
      have hcounted := h.counted
      simp only [Desk.uncounted?, Option.toList_none, Option.toList_some, List.length_nil,
        List.length_singleton] at hset
      simp only [List.length_append, List.length_singleton]
      omega }

theorem Balanced.tell (h : t.Balanced) {i task : Nat}
    (hi : t.desks[i]? = some (some task, .telling)) :
    Balanced { t with
      desks := t.desks.set i (some task, .counting)
      told := fun x => t.told x + [task].count x } where
  empty := h.empty_set fun hnone => absurd hnone (Option.some_ne_none task)
  told x := by
    have hset := count_filterMap_set_add (f := Desk.untold?) hi (some task, .counting) x
    have htold := h.told x
    simp only [Desk.untold?, Option.toList_none, Option.toList_some, List.count_nil] at hset
    dsimp only
    omega
  counted := by
    have hset := length_filterMap_set_add (f := Desk.uncounted?) hi (some task, .counting)
    exact (congrArg _ (Nat.add_right_cancel hset)).trans h.counted

theorem Balanced.count (h : t.Balanced) {i task : Nat}
    (hi : t.desks[i]? = some (some task, .counting)) :
    Balanced { t with
      desks := t.desks.set i (some task, .returning)
      completed := t.completed + 1 } where
  empty := h.empty_set fun hnone => absurd hnone (Option.some_ne_none task)
  told x := by
    have hset := count_filterMap_set_add (f := Desk.untold?) hi (some task, .returning) x
    exact (congrArg _ (Nat.add_right_cancel hset)).trans (h.told x)
  counted := by
    have hset := length_filterMap_set_add (f := Desk.uncounted?) hi (some task, .returning)
    have hcounted := h.counted
    simp only [Desk.uncounted?, Option.toList_none, Option.toList_some, List.length_nil,
      List.length_singleton] at hset
    dsimp only
    omega

theorem Balanced.finish (h : t.Balanced) {i task : Nat}
    (hi : t.desks[i]? = some (some task, .returning)) :
    Balanced { t with desks := t.desks.set i (none, .telling) } where
  empty := h.empty_set fun _ => rfl
  told x := by
    have hset := count_filterMap_set_add (f := Desk.untold?) hi (none, .telling) x
    exact (congrArg _ (Nat.add_right_cancel hset)).trans (h.told x)
  counted := by
    have hset := length_filterMap_set_add (f := Desk.uncounted?) hi (none, .telling)
    exact (congrArg _ (Nat.add_right_cancel hset)).trans h.counted

/-- The tally is balanced after every step. -/
theorem Moves.balanced (h : t.Moves t') (hb : t.Balanced) : t'.Balanced := by
  cases h with
  | same => exact hb
  | take hi => exact hb.take hi
  | tell hi => exact hb.tell hi
  | count hi => exact hb.count hi
  | finish hi => exact hb.finish hi

/-- Nothing is to be told or counted at desks without a task. -/
theorem nothing_of_empty {desks : List Desk} (h : ∀ desk ∈ desks, desk.1 = none) :
    desks.filterMap Desk.untold? = [] ∧ desks.filterMap Desk.uncounted? = [] := by
  constructor
  all_goals
    refine List.filterMap_eq_nil_iff.2 fun ⟨hand, place⟩ hmem => ?_
    obtain rfl : hand = none := h _ hmem
    rfl

/-- The tally is balanced before anything happens. -/
theorem Balanced.untouched {desks : List Desk} (h : ∀ desk ∈ desks, desk = (none, .telling)) :
    Balanced { desks, taken := [], told := fun _ => 0, completed := 0 } := by
  obtain ⟨huntold, huncounted⟩ := nothing_of_empty fun desk hmem => congrArg Prod.fst (h desk hmem)
  refine ⟨fun place hmem => congrArg Prod.snd (h _ hmem), fun task => ?_, ?_⟩
  · rw [huntold]
    rfl
  · rw [huncounted]
    rfl

/-- When no worker has a task, every task that was taken was told and counted. -/
theorem Balanced.of_empty (h : t.Balanced) (hempty : ∀ desk ∈ t.desks, desk.1 = none) :
    (∀ task, t.told task = t.taken.count task) ∧ t.completed = t.taken.length := by
  obtain ⟨huntold, huncounted⟩ := nothing_of_empty hempty
  refine ⟨fun task => ?_, ?_⟩
  · have htold := h.told task
    rwa [huntold, List.count_nil] at htold
  · have hcounted := h.counted
    rwa [huncounted] at hcounted

end Tally

/-! ## The steps of the pool -/

namespace PoolRun

open WorkerPool (History accepted begun)

/-- What every worker has on its desk. -/
def desks (r : PoolRun) : List Desk := r.pool.hands.zip r.within

/-- What became of the tasks that the pool began by `es`. -/
def tally (es : History Nat) (r : PoolRun) : Tally where
  desks := r.desks
  taken := (begun es).map Prod.snd
  told task := r.log.count (processing task)
  completed := r.completed

variable {r : PoolRun} {es : History Nat} {i : Nat}

theorem getElem?_desks {hand : Option Nat} {place : TaskPlace} (hhand : r.pool.hands[i]? = some hand)
    (hplace : r.within[i]? = some place) : r.desks[i]? = some (hand, place) :=
  List.getElem?_zip_eq_some.2 ⟨hhand, hplace⟩

/-- The pool reports what it likes. -/
theorem tally_report (r : PoolRun) (notices : List Notice) :
    (r.report notices).tally es = r.tally es := by
  have htold : (fun task => (r.report notices).log.count (processing task)) =
      fun task => r.log.count (processing task) :=
    funext fun task => count_processing_notices notices r.log task
  exact Tally.ext rfl rfl htold rfl

/-- A worker gets another place in its task, and perhaps loses or gets the task. -/
theorem desks_set {s : PoolRun} {hand : Option Nat} {place : TaskPlace}
    (hhands : s.pool.hands = r.pool.hands.set i hand) (hwithin : s.within = r.within.set i place) :
    s.desks = r.desks.set i (hand, place) := by
  rw [desks, hhands, hwithin, zip_set, desks]

/-- The step of a task that is over is no other step. -/
theorem action_of_ended {a : WorkerPool.Action Nat}
    {e : Effect (WorkerPool Nat) (WorkerPool.Outcome Nat)} {task : Nat}
    (h : WorkerPool.deed (e.after a) = .ended i task) : ∃ panicked, a = .taskEnded i panicked := by
  rw [WorkerPool.deed] at h
  split at h
  · cases h
  · cases h
  · next ha _ =>
    cases h
    exact ⟨_, ha⟩
  · cases h
  · cases h

/-- A step of the pool hands a task to a worker, or changes no desk. -/
theorem moves_of_step {a : WorkerPool.Action Nat}
    {e : Effect (WorkerPool Nat) (WorkerPool.Outcome Nat)} (ht : WorkerPool.Transition r.pool a e)
    (h : WorkerPool.Teardown r.pool) (hwithin : r.within.length = r.pool.workers.length)
    (ha : ∀ i panicked, a ≠ .taskEnded i panicked) :
    (r.tally es).Moves ((r.setPool e).tally (es ++ [e.after a])) := by
  obtain ⟨d, hd, hh⟩ := ht.handles h
  have hbegun := WorkerPool.begun_snoc es (e.after a)
  rw [hd] at hbegun
  rw [setPool, tally_report]
  have same (hhands : e.state.hands = r.pool.hands) (hnone : begun (es ++ [e.after a]) = begun es) :
      (r.tally es).Moves (tally (es ++ [e.after a]) { r with pool := e.state }) := by
    have htally : tally (es ++ [e.after a]) { r with pool := e.state } = r.tally es :=
      Tally.ext (congrArg (List.zip · r.within) hhands) (congrArg (List.map Prod.snd) hnone) rfl rfl
    exact htally ▸ .same
  cases hh with
  | nothing _ hhands => exact same hhands (by simpa using hbegun)
  | queued _ _ hhands => exact same hhands (by simpa using hbegun)
  | freed _ _ hhands => exact same hhands (by simpa using hbegun)
  | @began i task _ hhand hhands =>
    have hi : i < r.within.length := by
      have hlt := (List.getElem?_eq_some_iff.1 hhand).1
      rwa [WorkerPool.hands, List.length_map, ← hwithin] at hlt
    have hplace := List.getElem?_eq_getElem hi
    -- Only the hand of the worker changes; its place in the task is what it was.
    have htally : tally (es ++ [e.after a]) { r with pool := e.state } =
        { r.tally es with
          desks := r.desks.set i (some task, r.within[i])
          taken := (begun es).map Prod.snd ++ [task] } := by
      refine Tally.ext (desks_set hhands (set_self hplace).symm) ?_ rfl rfl
      simp [tally, hbegun]
    rw [htally]
    exact .take (getElem?_desks hhand hplace)
  | ended =>
    obtain ⟨panicked, heq⟩ := action_of_ended hd
    exact absurd heq (ha _ panicked)

/-- A task returns. -/
theorem moves_of_taskEnded {e : Effect (WorkerPool Nat) (WorkerPool.Outcome Nat)}
    (ht : WorkerPool.Transition r.pool (.taskEnded i false) e) (h : WorkerPool.Teardown r.pool)
    (hplace : r.within[i]? = some .returning) :
    (r.tally es).Moves
      (((r.setPool e).setWithin i .telling).tally (es ++ [e.after (.taskEnded i false)])) := by
  obtain ⟨d, hd, hh⟩ := ht.handles h
  obtain ⟨task, rfl⟩ : ∃ task, d = .ended i task := by
    cases ht with
    | finish => exact ⟨_, hd.symm⟩
    | move _ m => cases m
  have hbegun := WorkerPool.begun_snoc es (e.after (.taskEnded i false))
  rw [hd, List.append_nil] at hbegun
  cases hh with
  | ended _ hhand hhands =>
    have htally : ((r.setPool e).setWithin i .telling).tally (es ++ [e.after (.taskEnded i false)]) =
        { r.tally es with desks := r.desks.set i (none, .telling) } :=
      Tally.ext (desks_set hhands rfl) (congrArg (List.map Prod.snd) hbegun)
        (funext fun task => count_processing_notices e.notices r.log task) rfl
    rw [htally]
    exact .finish (getElem?_desks hhand hplace)

/-- A task says which one it is. -/
theorem moves_of_tell {task : Nat} (hhand : r.pool.hands[i]? = some (some task))
    (hplace : r.within[i]? = some .telling) :
    (r.tally es).Moves
      (((r.note s!"Processing task {task}").setWithin i .counting).tally es) := by
  have htally : ((r.note s!"Processing task {task}").setWithin i .counting).tally es =
      { r.tally es with
        desks := r.desks.set i (some task, .counting)
        told := fun x => (r.tally es).told x + [task].count x } :=
    Tally.ext (desks_set (set_self hhand).symm rfl) rfl
      (funext fun x => count_processing_cons r.log task x) rfl
  rw [htally]
  exact .tell (getElem?_desks hhand hplace)

/-- A task counts itself. -/
theorem moves_of_count {task : Nat} (hhand : r.pool.hands[i]? = some (some task))
    (hplace : r.within[i]? = some .counting) :
    (r.tally es).Moves
      (({ r with completed := r.completed + 1 }.setWithin i .returning).tally es) := by
  have htally : ({ r with completed := r.completed + 1 }.setWithin i .returning).tally es =
      { r.tally es with
        desks := r.desks.set i (some task, .returning)
        completed := r.completed + 1 } :=
    Tally.ext (desks_set (set_self hhand).symm rfl) rfl rfl rfl
  rw [htally]
  exact .count (getElem?_desks hhand hplace)

end PoolRun

end Threading.CommandLine

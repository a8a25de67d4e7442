import Threading.Proofs.Stock
import Threading.Semaphore

/-!
# What a step of a semaphore can do

`Transition` lists the steps of a semaphore, with what they need and what they
change (`transition_of_step`). The permits are a stock with which every step is a
deal (`Transition.deal`). Three laws hold in every state that steps reach
from a new semaphore (`Sound`): the count is below the ceiling, a thread waits
once at most, and no permit is left beside a sleeping thread unless a thread that
was woken will look for it.
-/

namespace Threading.Semaphore

/-- The action `a` is possible in `s`, and has this effect. -/
inductive Transition (s : Semaphore) : Action → Effect Semaphore Outcome → Prop
  /-- A thread takes a permit. -/
  | take {t : ThreadId} :
    s.waiters.holds t = false → s.count ≠ 0 →
    Transition s (.wait t) { state := { s with count := s.count - 1 }, outcome := .taken }
  /-- A thread finds no permit, and goes to sleep. -/
  | sleep {t : ThreadId} :
    s.waiters.holds t = false → s.count = 0 →
    Transition s (.wait t)
      { state := { s with waiters := s.waiters.sleep t }, outcome := .asleep }
  /-- A woken thread takes a permit. -/
  | takeWoken {t : ThreadId} :
    t ∈ s.waiters.woken → s.count ≠ 0 →
    Transition s (.look t)
      { state := { s with count := s.count - 1, waiters := s.waiters.leave t }, outcome := .taken }
  /-- A woken thread finds no permit, and sleeps on. -/
  | sleepOn {t : ThreadId} :
    t ∈ s.waiters.woken → s.count = 0 →
    Transition s (.look t)
      { state := { s with waiters := s.waiters.sleepAgain t }, outcome := .asleep }
  /-- There are as many permits as there can be. -/
  | overflow {chosen : Option ThreadId} :
    s.count = s.ceiling →
    Transition s (.post chosen) { state := s, outcome := .overflow }
  /-- A permit is given back while no thread sleeps. -/
  | post :
    s.count ≠ s.ceiling → s.waiters.asleep = [] →
    Transition s (.post none) { state := { s with count := s.count + 1 }, outcome := .posted }
  /-- A permit is given back, and a sleeping thread is woken. -/
  | wake {t : ThreadId} :
    s.count ≠ s.ceiling → t ∈ s.waiters.asleep →
    Transition s (.post (some t))
      { state := { s with
          count := s.count + 1
          waiters := ⟨s.waiters.asleep.erase t, s.waiters.woken ++ [t]⟩ }
        outcome := .posted }
  /-- A sleeping thread wakes for no reason. -/
  | stir {t : ThreadId} :
    t ∈ s.waiters.asleep →
    Transition s (.stir t)
      { state := { s with waiters := ⟨s.waiters.asleep.erase t, s.waiters.woken ++ [t]⟩ }
        outcome := .stirred }

/-- The thread that calls a wait. -/
def caller? (o : Occurrence Action Outcome) : Option ThreadId :=
  match o.action with
  | .wait t => some t
  | _ => none

/-- The thread that takes a permit, at once or after it was woken, and returns from its wait. -/
def served? (o : Occurrence Action Outcome) : Option ThreadId :=
  match o.action, o.outcome with
  | .wait t, .taken => some t
  | .look t, .taken => some t
  | _, _ => none

/-- A permit was given back. -/
def isPosted (o : Occurrence Action Outcome) : Bool :=
  match o.outcome with
  | .posted => true
  | _ => false

/-- The permits as a stock. -/
def stock (s : Semaphore) : Stock := { size := s.count.toNat, takers := s.waiters }

/-- The threads that wait, asleep or woken. -/
def queue (s : Semaphore) : List ThreadId := s.waiters.asleep ++ s.waiters.woken

/-- What holds of a semaphore at every moment. -/
structure Sound (s : Semaphore) : Prop where
  count_le : s.count ≤ s.ceiling
  nodup : s.queue.Nodup
  /-- While a thread sleeps, there are as many threads woken as there are permits. -/
  enough : s.waiters.asleep ≠ [] → s.count.toNat ≤ s.waiters.woken.length

section Step

variable {s : Semaphore} {a : Action} {e : Effect Semaphore Outcome}

/-- Every step of a semaphore is a transition. -/
theorem transition_of_step (he : s.step a = some e) : Transition s a e := by
  cases a with
  | wait t =>
    rw [step] at he
    split at he
    · cases he
    · next hw =>
      have hw : s.waiters.holds t = false := by simpa using hw
      split at he
      · next hc =>
        cases he
        exact .sleep hw hc
      · next hc =>
        cases he
        exact .take hw hc
  | look t =>
    rw [step] at he
    split at he
    · next hw =>
      have hw := List.contains_iff_mem.1 hw
      split at he
      · next hc =>
        cases he
        exact .sleepOn hw hc
      · next hc =>
        cases he
        exact .takeWoken hw hc
    · cases he
  | post chosen =>
    rw [step] at he
    split at he
    · next hc =>
      cases he
      exact .overflow hc
    · next hc =>
      obtain ⟨waiters, hn, rfl⟩ := Option.map_eq_some_iff.1 he
      rcases Condition.notifyOne_eq_some hn with ⟨rfl, hasleep, rfl⟩ | ⟨t, rfl, ht, rfl⟩
      · exact .post hc hasleep
      · exact .wake hc ht
  | stir t =>
    obtain ⟨waiters, hn, rfl⟩ := Option.map_eq_some_iff.1 he
    obtain ⟨ht, rfl⟩ := Condition.stir_eq_some hn
    exact .stir ht

theorem toNat_pred {n : UInt32} (h : n ≠ 0) : (n - 1).toNat + 1 = n.toNat := by
  have hpos : (1 : UInt32).toNat ≤ n.toNat :=
    Nat.pos_of_ne_zero fun hz => h (UInt32.toNat_inj.1 hz)
  rw [UInt32.toNat_sub_of_le _ _ (UInt32.le_iff_toNat_le.2 hpos)]
  exact Nat.sub_add_cancel hpos

theorem toNat_succ {n m : UInt32} (hle : n ≤ m) (hne : n ≠ m) : (n + 1).toNat = n.toNat + 1 := by
  have := UInt32.lt_iff_toNat_lt.1 (UInt32.lt_of_le_of_ne hle hne)
  have := m.toNat_lt
  rw [UInt32.toNat_add]
  exact Nat.mod_eq_of_lt (by simp; omega)

theorem toNat_succ_le (n : UInt32) : (n + 1).toNat ≤ n.toNat + 1 := by
  rw [UInt32.toNat_add]
  exact Nat.mod_le _ _

/-- Every step is a deal with the permits: a thread that waits comes for one, and is served
    when it takes one. -/
theorem Transition.deal (ht : Transition s a e) :
    s.stock.Deal (caller? (e.after a)) (served? (e.after a)) e.state.stock := by
  cases ht with
  | take hw hc => exact .take hw (toNat_pred hc).symm
  | sleep hw hc => exact .sleep hw (congrArg UInt32.toNat hc)
  | takeWoken hw hc => exact .takeWoken hw (toNat_pred hc).symm
  | sleepOn hw hc => exact .sleepOn hw (congrArg UInt32.toNat hc)
  | overflow => exact .fewer (Nat.le_refl _)
  | post _ hasleep => exact .add hasleep
  | wake _ ht => exact .wake ht (toNat_succ_le _)
  | stir ht => exact .wake ht (Nat.le_succ _)

theorem Transition.ceiling (ht : Transition s a e) : e.state.ceiling = s.ceiling := by
  cases ht <;> rfl

/-- A permit that is taken is one less. -/
theorem Transition.taken (ht : Transition s a e) (ho : e.outcome = .taken) :
    e.state.count.toNat + 1 = s.count.toNat := by
  cases ht with
  | take _ hc | takeWoken _ hc => exact toNat_pred hc
  | _ => cases ho

/-- A permit that is given back is one more, and there is room for it. -/
theorem Transition.posted (ht : Transition s a e) (hle : s.count ≤ s.ceiling)
    (ho : e.outcome = .posted) :
    s.count < s.ceiling ∧ e.state.count.toNat = s.count.toNat + 1 := by
  cases ht with
  | post hne | wake hne => exact ⟨UInt32.lt_of_le_of_ne hle hne, toNat_succ hle hne⟩
  | _ => cases ho

/-- A step leaves as many permits as there were, but for those that are taken and given back. -/
theorem Transition.conserved (ht : Transition s a e) (hle : s.count ≤ s.ceiling) :
    e.state.count.toNat + (served? (e.after a)).toList.length =
      s.count.toNat + (isPosted (e.after a)).toNat := by
  cases ht with
  | take _ hc | takeWoken _ hc => exact toNat_pred hc
  | post hne | wake hne => exact toNat_succ hle hne
  | sleep | sleepOn | overflow | stir => rfl

theorem Transition.count_le (ht : Transition s a e) (hle : s.count ≤ s.ceiling) :
    e.state.count ≤ e.state.ceiling := by
  have hle' := UInt32.le_iff_toNat_le.1 hle
  rw [UInt32.le_iff_toNat_le]
  cases ht with
  | take _ hc | takeWoken _ hc =>
    have := toNat_pred hc
    dsimp only
    omega
  | post hne | wake hne =>
    dsimp only
    rw [toNat_succ hle hne]
    exact UInt32.lt_iff_toNat_lt.1 (UInt32.lt_of_le_of_ne hle hne)
  | sleep | sleepOn | overflow | stir => exact hle'

/-- Every step keeps a semaphore sound. -/
theorem Transition.sound (ht : Transition s a e) (h : s.Sound) : e.state.Sound where
  count_le := ht.count_le h.count_le
  nodup := ht.deal.nodup h.nodup
  enough := ht.deal.enough h.enough

/-- A post is over at once: a permit can be given back, whatever the count is, and whoever sleeps. -/
theorem exists_post (s : Semaphore) : ∃ e, s.step (.post s.waiters.first) = some e := by
  rw [step]
  split
  · exact ⟨_, rfl⟩
  · obtain ⟨waiters, hn⟩ := s.waiters.exists_notifyOne
    exact ⟨_, Option.map_eq_some_iff.2 ⟨waiters, hn, rfl⟩⟩

theorem one_le_iff {n : UInt32} : 1 ≤ n ↔ ¬n = 0 := by
  rw [UInt32.le_iff_toNat_le, ← UInt32.toNat_inj]
  exact Nat.pos_iff_ne_zero

/-- Which semaphores there are. -/
theorem create_eq_ok_iff {initial ceiling : UInt32} :
    create initial ceiling = .ok s ↔
      (1 ≤ ceiling ∧ initial ≤ ceiling) ∧ s = { count := initial, ceiling } := by
  have hvalid : ¬(ceiling = 0 ∨ initial > ceiling) ↔ 1 ≤ ceiling ∧ initial ≤ ceiling := by
    rw [not_or, one_le_iff, gt_iff_lt, UInt32.not_lt]
  rw [create, ← hvalid]
  split
  · next hc => simp [hc]
  · next hc => simp [hc, eq_comm]

/-- A new semaphore is sound. -/
theorem sound_create {initial ceiling : UInt32} (h : create initial ceiling = .ok s) :
    s.Sound ∧ s = { count := initial, ceiling } := by
  obtain ⟨⟨-, hle⟩, rfl⟩ := create_eq_ok_iff.1 h
  exact ⟨⟨hle, List.nodup_nil, fun h => absurd rfl h⟩, rfl⟩

end Step

end Threading.Semaphore

import Mathlib.Data.List.Nodup
import Threading.Proofs.Condition
import Threading.Proofs.Run

/-!
# Things to take, and the threads that wait for one

The permits of a semaphore, or the items of a queue, are a *stock*. A thread comes
for one of them, and goes with it at once, or sleeps until it is woken and finds one.
`Deal` lists what a step may do to a stock: a thread that was woken may find that
another one was faster, and sleeps on; a thread may wake for no reason.

One notification at most goes with every thing that is added. Still nothing is left
beside a sleeping thread, unless a woken one will look for it (`Enough`, `Deal.enough`).
So when all threads that wait are asleep, it is known from totals alone how many of
those that came were served, and how much is left (`Enough.settled`).
-/

namespace Threading

open scoped List

/-- A number of things to take, and the threads that wait for one. -/
structure Stock where
  size : Nat
  takers : Condition

namespace Stock

/-- The threads that wait, asleep or woken. -/
def waiting (k : Stock) : List ThreadId := k.takers.asleep ++ k.takers.woken

/-- While a thread sleeps, as many threads are woken as there are things to take. -/
def Enough (k : Stock) : Prop := k.takers.asleep ≠ [] → k.size ≤ k.takers.woken.length

/-- What a step may do to a stock: `called` is the thread that comes for one thing, and
    `served` the thread that goes with one. -/
inductive Deal (k : Stock) : (called served : Option ThreadId) → Stock → Prop
  /-- Things may be taken by somebody who would not have waited. -/
  | fewer {size : Nat} : size ≤ k.size → Deal k none none { k with size }
  /-- A thread comes, and takes a thing. -/
  | take {t : ThreadId} {size : Nat} :
    k.takers.holds t = false → k.size = size + 1 → Deal k (some t) (some t) { k with size }
  /-- A thread comes, finds nothing, and goes to sleep. -/
  | sleep {t : ThreadId} :
    k.takers.holds t = false → k.size = 0 →
    Deal k (some t) none { k with takers := k.takers.sleep t }
  /-- A woken thread takes a thing. -/
  | takeWoken {t : ThreadId} {size : Nat} :
    t ∈ k.takers.woken → k.size = size + 1 →
    Deal k none (some t) { size, takers := k.takers.leave t }
  /-- A woken thread finds nothing, and sleeps on. -/
  | sleepOn {t : ThreadId} :
    t ∈ k.takers.woken → k.size = 0 →
    Deal k none none { k with takers := k.takers.sleepAgain t }
  /-- Things are added while no thread sleeps. -/
  | add {size : Nat} : k.takers.asleep = [] → Deal k none none { k with size }
  /-- A sleeping thread wakes, and one thing at most is added. -/
  | wake {t : ThreadId} {size : Nat} :
    t ∈ k.takers.asleep → size ≤ k.size + 1 →
    Deal k none none { size, takers := ⟨k.takers.asleep.erase t, k.takers.woken ++ [t]⟩ }

/-- What is known when all threads that wait are asleep: of the threads that came, and of
    all that there was to take, as many as can be paired off are gone. -/
structure Settled (k : Stock) (calls served : List ThreadId) (total : Nat) : Prop where
  length_served : served.length = min calls.length total
  /-- The threads that came and were not served are asleep. -/
  perm : calls ~ served ++ k.takers.asleep
  length_asleep : k.takers.asleep.length = calls.length - min calls.length total
  size : k.size = total - min calls.length total
  /-- No thread sleeps beside a thing to take. -/
  beside : k.size ≠ 0 → k.takers.asleep = []

variable {k k' : Stock} {called served : Option ThreadId}

theorem not_mem_waiting {t : ThreadId} (h : k.takers.holds t = false) : t ∉ k.waiting := by
  rw [Condition.holds, Bool.or_eq_false_iff] at h
  simpa [waiting] using h

/-- A thread that comes was not waiting. -/
theorem Deal.not_mem (h : k.Deal called served k') : ∀ t ∈ called, t ∉ k.waiting := by
  intro t ht
  cases h with
  | take hnew | sleep hnew =>
    obtain rfl := Option.some.inj ht
    exact not_mem_waiting hnew
  | _ => cases ht

/-- Whoever comes or waits goes with a thing, or waits. -/
theorem Deal.perm (h : k.Deal called served k') :
    called.toList ++ k.waiting ~ served.toList ++ k'.waiting := by
  cases h with
  | sleep => exact (Condition.perm_sleep k.takers.asleep k.takers.woken _).symm
  | takeWoken ht =>
    exact ((List.perm_cons_erase ht).append_left _).trans List.perm_middle
  | sleepOn ht => exact (Condition.perm_sleepOn _ ht).symm
  | wake ht => exact (Condition.perm_wake _ ht).symm
  | fewer | take | add => exact .refl _

/-- A thread waits once at most. -/
theorem Deal.nodup (h : k.Deal called served k') (hn : k.waiting.Nodup) : k'.waiting.Nodup := by
  have hcame : (called.toList ++ k.waiting).Nodup := by
    cases called with
    | none => exact hn
    | some t => exact List.nodup_cons.2 ⟨h.not_mem t rfl, hn⟩
  exact List.Nodup.of_append_right (h.perm.nodup_iff.1 hcame)

/-- Whoever waits after a step did not go with a thing, and came with the step or waited before. -/
theorem Deal.of_mem_waiting (h : k.Deal called served k') (hn : k.waiting.Nodup) {t : ThreadId}
    (ht : t ∈ k'.waiting) : t ∉ served ∧ (t ∈ called ∨ t ∈ k.waiting) := by
  have hcame : (called.toList ++ k.waiting).Nodup := by
    cases called with
    | none => exact hn
    | some u => exact List.nodup_cons.2 ⟨h.not_mem u rfl, hn⟩
  have hwent := h.perm.nodup_iff.1 hcame
  constructor
  · intro hserved
    exact List.disjoint_of_nodup_append hwent (Option.mem_toList.2 hserved) ht
  · have hmem := h.perm.mem_iff.2 (List.mem_append_right served.toList ht)
    exact (List.mem_append.1 hmem).imp_left Option.mem_toList.1

/-- No step leaves a thing beside a sleeping thread, with nobody woken to look for it. -/
theorem Deal.enough (h : k.Deal called served k') (henough : k.Enough) : k'.Enough := by
  intro hs
  cases h with
  | fewer hle => exact Nat.le_trans hle (henough hs)
  | take _ hsize =>
    have := henough hs
    dsimp only
    omega
  | sleep _ hsize => exact hsize ▸ Nat.zero_le _
  | takeWoken ht hsize =>
    -- One thing less, and one thread less that looks for it.
    have := henough hs
    dsimp only [Condition.leave]
    rw [List.length_erase_of_mem ht]
    omega
  | sleepOn _ hsize => exact hsize ▸ Nat.zero_le _
  | add hasleep => exact absurd hasleep hs
  | wake ht hsize =>
    -- One thing more at most, and one thread more that looks for it.
    have := henough (List.ne_nil_of_mem ht)
    dsimp only
    rw [List.length_append, List.length_singleton]
    omega

/-- When all threads that wait are asleep, the totals tell the rest. -/
theorem Enough.settled (h : k.Enough) (hwoken : k.takers.woken = []) {calls served : List ThreadId}
    {total : Nat} (hcalls : calls ~ served ++ k.waiting)
    (htotal : served.length + k.size = total) : k.Settled calls served total := by
  have hblocked : calls ~ served ++ k.takers.asleep := by
    rwa [waiting, hwoken, List.append_nil] at hcalls
  have hcame : calls.length = served.length + k.takers.asleep.length := by
    rw [hblocked.length_eq, List.length_append]
  -- Nobody sleeps, or nothing is left.
  have hbeside : k.takers.asleep = [] ∨ k.size = 0 := by
    by_cases hasleep : k.takers.asleep = []
    · exact .inl hasleep
    · have hle := h hasleep
      rw [hwoken, List.length_nil] at hle
      exact .inr (Nat.le_zero.1 hle)
  have hlength : k.takers.asleep.length = 0 ∨ k.size = 0 :=
    hbeside.imp_left fun hasleep => List.length_eq_zero_iff.2 hasleep
  exact {
    length_served := by omega
    perm := hblocked
    length_asleep := by omega
    size := by omega
    beside := hbeside.resolve_right }

section Run

variable {σ α ρ : Type} {step : σ → α → Option (Effect σ ρ)} {s t : σ}
  {es : List (Occurrence α ρ)} {stock : σ → Stock}
  {called? served? : Occurrence α ρ → Option ThreadId}

/-- If every step of an object is a deal with its stock, then whoever came in a run was
    served, or waits. -/
theorem perm_of_run (hr : Run step s es t) (hs : (stock s).takers = {})
    (hstep : ∀ v a e, step v a = some e →
      (stock v).Deal (called? (e.after a)) (served? (e.after a)) (stock e.state)) :
    es.filterMap called? ~ es.filterMap served? ++ (stock t).waiting := by
  refine hr.invariant
    (fun fs v => fs.filterMap called? ~ fs.filterMap served? ++ (stock v).waiting) ?_ ?_
  · rw [waiting, hs]
    exact .nil
  · intro fs v a e _ ih he
    rw [filterMap_snoc, filterMap_snoc]
    -- The thread that comes joins those that wait, and one of them may go with a thing.
    calc fs.filterMap called? ++ (called? (e.after a)).toList
        ~ fs.filterMap served? ++ (stock v).waiting ++ (called? (e.after a)).toList :=
          ih.append_right _
      _ ~ fs.filterMap served? ++ ((called? (e.after a)).toList ++ (stock v).waiting) := by
          rw [List.append_assoc]
          exact List.perm_append_comm.append_left _
      _ ~ fs.filterMap served? ++ ((served? (e.after a)).toList ++ (stock e.state).waiting) :=
          (hstep v a e he).perm.append_left _
      _ = fs.filterMap served? ++ (served? (e.after a)).toList ++ (stock e.state).waiting :=
          (List.append_assoc ..).symm

/-- If every step of an object is a deal with its stock, then a run that ends with all waiting
    threads asleep is settled by its totals. -/
theorem settled_of_run (hr : Run step s es t) (hs : (stock s).takers = {})
    (hstep : ∀ v a e, step v a = some e →
      (stock v).Deal (called? (e.after a)) (served? (e.after a)) (stock e.state))
    (hwoken : (stock t).takers.woken = []) {total : Nat}
    (htotal : (es.filterMap served?).length + (stock t).size = total) :
    (stock t).Settled (es.filterMap called?) (es.filterMap served?) total := by
  have henough : (stock t).Enough := by
    refine hr.invariant (fun _ v => (stock v).Enough) (fun hasleep => ?_)
      fun _ v a e _ ih he => (hstep v a e he).enough ih
    rw [hs] at hasleep
    exact absurd rfl hasleep
  exact henough.settled hwoken (perm_of_run hr hs hstep) htotal

end Run

end Stock

end Threading

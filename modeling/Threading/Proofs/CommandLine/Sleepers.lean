import Mathlib.Data.List.Perm.Subperm
import Threading.Proofs.BlockingQueue.Totals
import Threading.Proofs.CommandLine.Staff

/-!
# Who waits for an item

A thread that waits for an item is a consumer in its closure that has an item to come
(`QueueRun.Seeks`), it waits once, and nobody sleeps beside an item that no woken consumer will look
for. That is `Watched`, and every step keeps it (`Transition.watched`): a step of the queue is a deal
with its items, and the other steps change no mover that waits.
-/

namespace Threading.CommandLine

/-- The mover `i` is in its closure, and about to move an item. -/
structure Mover.IsSeeking (items i : Nat) (m : Mover) : Prop where
  inside : m.IsInside i
  moving : m.handling = .moving
  lt : m.moved < items

namespace QueueRun

/-- The thread `t` is that of a consumer about to pop an item, or waiting for one. -/
def Seeks (r : QueueRun) (t : ThreadId) : Prop :=
  ∃ i m, t = i + 1 ∧ r.movers[i]? = some m ∧ r.threads ≤ i ∧ m.IsSeeking r.items i

/-- Who waits for an item is a consumer, and does not sleep beside an item that nobody looks for. -/
structure Watched (r : QueueRun) : Prop where
  enough : r.queue.stock.Enough
  nodup : r.queue.stock.waiting.Nodup
  seeks : ∀ t ∈ r.queue.stock.waiting, r.Seeks t

variable {r r' s : QueueRun} {a : Action} {i : Nat} {m m' : Mover} {t : ThreadId}

/-- Whoever sleeps is a consumer, so there are no more of them than consumers. -/
theorem Watched.length_asleep_le (h : r.Watched) (hs : r.Staffed) :
    r.queue.poppers.asleep.length ≤ r.threads := by
  have hnodup : r.queue.poppers.asleep.Nodup := (List.nodup_append.1 h.nodup).1
  have hsub : r.queue.poppers.asleep ⊆ List.range' (r.threads + 1) r.threads := by
    intro t ht
    obtain ⟨i, m, rfl, hm, hi, -⟩ := h.seeks t (List.mem_append_left _ ht)
    have hlt := (List.getElem?_eq_some_iff.1 hm).1
    rw [hs.length] at hlt
    exact List.mem_range'_1.2 ⟨by omega, by omega⟩
  have hle := (List.subperm_of_subset hnodup hsub).length_le
  rwa [List.length_range'] at hle

/-- One mover changes; if it seeks an item, it does so after the step. -/
theorem Seeks.of_set (h : r.Seeks t) (hthreads : s.threads = r.threads) (hitems : s.items = r.items)
    (hmovers : s.movers = r.movers.set i m') (hm : r.movers[i]? = some m)
    (hown : t = i + 1 → r.threads ≤ i → m.IsSeeking r.items i → m'.IsSeeking r.items i) :
    s.Seeks t := by
  obtain ⟨j, x, rfl, hx, hj, hseeking⟩ := h
  rw [← hthreads] at hj
  by_cases hij : j = i
  · subst hij
    obtain rfl := Option.some.inj (hx.symm.trans hm)
    refine ⟨j, m', rfl, ?_, hj, hitems ▸ hown rfl (hthreads ▸ hj) hseeking⟩
    rw [hmovers]
    exact getElem?_set_self_of_some hm m'
  · refine ⟨j, x, rfl, ?_, hj, hitems ▸ hseeking⟩
    rw [hmovers, List.getElem?_set_ne (Ne.symm hij)]
    exact hx

/-- The step is a deal with the items of the queue, and whoever waits seeks an item. -/
theorem Watched.of_deal (h : r.Watched) {called served : Option ThreadId}
    (hdeal : r.queue.stock.Deal called served s.queue.stock)
    (hseeks : ∀ t, t ∉ served → t ∈ called ∨ r.Seeks t → s.Seeks t) : s.Watched where
  enough := hdeal.enough h.enough
  nodup := hdeal.nodup h.nodup
  seeks t ht := by
    obtain ⟨hserved, hbefore⟩ := hdeal.of_mem_waiting h.nodup ht
    exact hseeks t hserved (hbefore.imp_right (h.seeks t))

/-- The queue is as it was. -/
theorem Watched.of_set (h : r.Watched) (hthreads : s.threads = r.threads)
    (hitems : s.items = r.items) (hqueue : s.queue = r.queue)
    (hmovers : s.movers = r.movers.set i m') (hm : r.movers[i]? = some m)
    (hown : m.IsSeeking r.items i → m'.IsSeeking r.items i) : s.Watched where
  enough := hqueue ▸ h.enough
  nodup := hqueue ▸ h.nodup
  seeks t ht := (h.seeks t (hqueue ▸ ht)).of_set hthreads hitems hmovers hm fun _ _ => hown

/-- The main thread does not change how far the thread of a mover got. -/
theorem Serves.stride?_inside {name : ThreadName} {place place' : QueuePlace}
    {standing standing' : Standing} {notices : List Notice}
    (h : Serves i name place standing place' standing' notices)
    (hs : standing.stride? = some .inside) : standing'.stride? = some .inside := by
  cases h <;> first | exact hs | cases hs

/-- Who waits for an item is known after every step. -/
theorem Transition.watched (ht : Transition r a r') (h : r.Watched) : r'.Watched := by
  cases ht with
  | @serve i m name standing standing' _ _ hm hhandle hserve =>
    refine h.of_set rfl rfl rfl rfl hm fun hseeking => ⟨?_, hseeking.moving, hseeking.lt⟩
    have hstride := (Mover.isInside_iff hhandle).1 hseeking.inside
    exact (Mover.isInside_iff rfl).2 (hserve.stride?_inside hstride)
  | turn | print => exact ⟨h.enough, h.nodup, h.seeks⟩
  | advance hm hhandle hstride hnext =>
    refine h.of_set rfl rfl rfl rfl hm fun hseeking => ?_
    -- A mover in its closure does not move outside of it.
    have hinside := (Mover.isInside_iff hhandle).1 hseeking.inside
    obtain rfl := Option.some.inj (hstride.symm.trans hinside)
    cases hnext
  | finish hm _ _ _ hle =>
    exact h.of_set rfl rfl rfl rfl hm fun hseeking => absurd hseeking.lt (Nat.not_lt.2 hle)
  | push hm _ _ _ hi hpush =>
    refine h.of_deal (BlockingQueue.transition_of_step hpush).deal fun t _ hbefore => ?_
    have hseeks := hbefore.resolve_left (Option.not_mem_none t)
    exact hseeks.of_set rfl rfl rfl hm fun _ hle _ => absurd hi (Nat.not_lt.2 hle)
  | tellPushed hm _ hh hi | tellPopped hm _ hh hi =>
    refine h.of_set rfl rfl rfl rfl hm fun hseeking => absurd hseeking.moving ?_
    rw [hh]
    exact Handling.noConfusion
  | count hm _ hh _ =>
    refine h.of_set rfl rfl rfl rfl hm fun hseeking => absurd hseeking.moving ?_
    rw [hh]
    exact Handling.noConfusion
  | @pop i _ _ m value b e hm hin hmoving hlt hi hb hpop ho =>
    refine h.of_deal (BlockingQueue.transition_of_step hpop).deal fun t hserved hbefore => ?_
    -- The consumer that pops goes with the item.
    have hne : t ≠ i + 1 := by
      rintro rfl
      refine hserved ?_
      rw [Effect.after, ho]
      rcases hb with rfl | rfl <;> rfl
    have hseeks : r.Seeks t := by
      refine hbefore.resolve_left fun hcalled => hne ?_
      rcases hb with rfl | rfl
      · exact (Option.some.inj hcalled).symm
      · cases hcalled
    exact hseeks.of_set rfl rfl rfl hm fun heq => absurd heq hne
  | @sleep i _ _ m b e hm hin hmoving hlt hi hb hpop ho =>
    refine h.of_deal (BlockingQueue.transition_of_step hpop).deal fun t _ hbefore => ?_
    rcases hbefore with hcalled | hseeks
    · have heq : t = i + 1 := by
        rcases hb with rfl | rfl
        · exact (Option.some.inj hcalled).symm
        · cases hcalled
      exact ⟨i, m, heq, hm, hi, hin, hmoving, hlt⟩
    · exact hseeks
  | stir hstir =>
    refine h.of_deal (BlockingQueue.transition_of_step hstir).deal fun t _ hbefore => ?_
    exact hbefore.resolve_left (Option.not_mem_none t)

end QueueRun

end Threading.CommandLine

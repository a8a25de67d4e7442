import Mathlib.Algebra.GroupWithZero.Nat
import Mathlib.Data.Bool.Basic
import Mathlib.Data.List.Nodup
import Threading.Schedule

/-!
# Calls under way

A thread makes one call of an object at a time, so the calls under way are a
list of callers, each with how far its call got. A call *begins* at the end of
the list, *moves* on where it stands, and *ends* by leaving the list. The three
kinds of change are told by what they do to `List.lookup`, and, if no thread
calls twice, to the `total` of what every call still has to do.
-/

namespace Threading.Calls

variable {β : Type}

/-- The calls after that of `c` moved on to `d`. -/
abbrev move (calls : List (ThreadId × β)) (c : ThreadId) (d : β) : List (ThreadId × β) :=
  calls.map fun (x, old) => if x = c then (x, d) else (x, old)

/-- The calls after that of `c` ended. -/
abbrev finish (calls : List (ThreadId × β)) (c : ThreadId) : List (ThreadId × β) :=
  calls.filter fun (x, _) => x != c

variable {calls : List (ThreadId × β)} {c x : ThreadId} {d old : β}

theorem lookup_begin (h : calls.lookup c = none) :
    (calls ++ [(c, d)]).lookup x = if x = c then some d else calls.lookup x := by
  rw [List.lookup_append]
  by_cases hx : x = c
  · subst hx
    simp [h]
  · simp [hx, List.lookup_cons, beq_false_of_ne hx]

theorem lookup_move :
    (move calls c d).lookup x =
      if x = c then (calls.lookup c).map fun _ => d else calls.lookup x := by
  induction calls with
  | nil => simp
  | cons entry rest ih => grind

theorem lookup_finish : (finish calls c).lookup x = if x = c then none else calls.lookup x := by
  induction calls with
  | nil => simp
  | cons entry rest ih => grind

theorem mem_of_lookup (h : calls.lookup c = some d) : (c, d) ∈ calls := by
  obtain ⟨before, after, hsplit, -⟩ := List.lookup_eq_some_iff.1 h
  simp [hsplit]

theorem not_mem_callers (h : calls.lookup c = none) : c ∉ calls.map Prod.fst := by
  intro hc
  obtain ⟨⟨y, d⟩, hmem, rfl⟩ := List.mem_map.1 hc
  simpa using List.lookup_eq_none_iff.1 h _ hmem

theorem callers_move : (move calls c d).map Prod.fst = calls.map Prod.fst := by
  rw [List.map_map]
  refine List.map_congr_left fun entry _ => ?_
  simp only [Function.comp_apply]
  split <;> rfl

theorem nodup_begin (hn : (calls.map Prod.fst).Nodup) (h : calls.lookup c = none) :
    ((calls ++ [(c, d)]).map Prod.fst).Nodup := by
  rw [List.map_append, List.map_singleton, List.nodup_append]
  refine ⟨hn, List.nodup_singleton c, fun y hy z hz => ?_⟩
  obtain rfl := List.mem_singleton.1 hz
  exact fun hyz => not_mem_callers h (hyz ▸ hy)

theorem nodup_finish (hn : (calls.map Prod.fst).Nodup) : ((finish calls c).map Prod.fst).Nodup :=
  hn.sublist (List.filter_sublist.map Prod.fst)

/-! ## What the calls still have to do -/

/-- What all calls have to do together, if a call that got to `d` has to do `f d`. -/
def total (f : β → Nat) (calls : List (ThreadId × β)) : Nat := (calls.map fun x => f x.2).sum

theorem total_cons (f : β → Nat) (entry : ThreadId × β) :
    total f (entry :: calls) = f entry.2 + total f calls := by
  rw [total, List.map_cons, List.sum_cons, total]

theorem total_begin (f : β → Nat) (calls : List (ThreadId × β)) (c : ThreadId) (d : β) :
    total f (calls ++ [(c, d)]) = total f calls + f d := by
  simp [total]

theorem move_cons (y : ThreadId) (b : β) :
    move ((y, b) :: calls) c d = (if y = c then (y, d) else (y, b)) :: move calls c d := rfl

theorem finish_cons (y : ThreadId) (b : β) :
    finish ((y, b) :: calls) c = if y = c then finish calls c else (y, b) :: finish calls c := by
  by_cases hy : y = c <;> simp [hy]

theorem move_of_not_mem (h : c ∉ calls.map Prod.fst) : move calls c d = calls := by
  refine (List.map_congr_left fun entry hentry => ?_).trans (List.map_id calls)
  have hne : entry.1 ≠ c := fun he => h (he ▸ List.mem_map_of_mem hentry)
  exact if_neg hne

theorem finish_of_not_mem (h : c ∉ calls.map Prod.fst) : finish calls c = calls := by
  rw [finish, List.filter_eq_self]
  intro entry hentry
  have hne : entry.1 ≠ c := fun he => h (he ▸ List.mem_map_of_mem hentry)
  simpa using hne

theorem total_move (f : β → Nat) (hn : (calls.map Prod.fst).Nodup)
    (h : calls.lookup c = some old) :
    total f (move calls c d) + f old = total f calls + f d := by
  induction calls with
  | nil => cases h
  | cons entry rest ih =>
    obtain ⟨y, b⟩ := entry
    rw [List.map_cons, List.nodup_cons] at hn
    rw [move_cons, total_cons]
    by_cases hy : y = c
    -- The call that moves is the first one, and the only one of its caller.
    · subst hy
      obtain rfl : b = old := by simpa using h
      rw [total_cons, if_pos rfl, move_of_not_mem hn.1]
      dsimp only
      omega
    · have hold : rest.lookup c = some old := by
        rwa [List.lookup_cons, beq_false_of_ne (Ne.symm hy)] at h
      have := ih hn.2 hold
      rw [total_cons, if_neg hy]
      dsimp only
      omega

theorem total_finish (f : β → Nat) (hn : (calls.map Prod.fst).Nodup)
    (h : calls.lookup c = some old) :
    total f (finish calls c) + f old = total f calls := by
  induction calls with
  | nil => cases h
  | cons entry rest ih =>
    obtain ⟨y, b⟩ := entry
    rw [List.map_cons, List.nodup_cons] at hn
    rw [finish_cons, total_cons]
    by_cases hy : y = c
    · subst hy
      obtain rfl : b = old := by simpa using h
      rw [if_pos rfl, finish_of_not_mem hn.1]
      dsimp only
      omega
    · have hold : rest.lookup c = some old := by
        rwa [List.lookup_cons, beq_false_of_ne (Ne.symm hy)] at h
      have := ih hn.2 hold
      rw [if_neg hy, total_cons]
      dsimp only
      omega

end Threading.Calls

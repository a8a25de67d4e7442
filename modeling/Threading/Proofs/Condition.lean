import Threading.Condition

/-!
# Waking threads

A notification wakes a thread that sleeps, if there is one (`notifyOne_eq_some`), and so
does waking for no reason. A thread that wakes, or sleeps on, waits all the same
(`perm_wake`, `perm_sleepOn`).
-/

namespace Threading.Condition

variable {c d : Condition} {t : ThreadId}

theorem stir_eq_some (h : c.stir t = some d) :
    t ∈ c.asleep ∧ d = ⟨c.asleep.erase t, c.woken ++ [t]⟩ := by
  rw [stir] at h
  split at h
  · next ht =>
    cases h
    exact ⟨List.contains_iff_mem.1 ht, rfl⟩
  · cases h

/-- Nobody is notified if nobody sleeps; otherwise one of the sleeping threads wakes. -/
theorem notifyOne_eq_some {chosen : Option ThreadId} (h : c.notifyOne chosen = some d) :
    chosen = none ∧ c.asleep = [] ∧ d = c ∨
    ∃ t, chosen = some t ∧ t ∈ c.asleep ∧ d = ⟨c.asleep.erase t, c.woken ++ [t]⟩ := by
  cases chosen with
  | none =>
    rw [notifyOne] at h
    split at h
    · next hempty =>
      cases h
      exact .inl ⟨rfl, List.isEmpty_iff.1 hempty, rfl⟩
    · cases h
  | some t =>
    obtain ⟨ht, rfl⟩ := stir_eq_some h
    exact .inr ⟨t, rfl, ht, rfl⟩

/-- The thread that has slept longest can be notified. -/
theorem exists_notifyOne (c : Condition) : ∃ d, c.notifyOne c.first = some d := by
  rw [first]
  cases hasleep : c.asleep <;> simp [notifyOne, stir, hasleep]

theorem perm_wake {asleep : List ThreadId} (woken : List ThreadId) {t : ThreadId}
    (ht : t ∈ asleep) : (asleep.erase t ++ (woken ++ [t])).Perm (asleep ++ woken) := by
  rw [← List.append_assoc]
  refine (List.perm_append_singleton t _).trans ?_
  exact (List.perm_cons_erase ht).symm.append_right woken

theorem perm_sleep (asleep woken : List ThreadId) (t : ThreadId) :
    (asleep ++ [t] ++ woken).Perm (t :: (asleep ++ woken)) :=
  (List.perm_append_singleton t _).append_right _

theorem perm_sleepOn (asleep : List ThreadId) {woken : List ThreadId} {t : ThreadId}
    (ht : t ∈ woken) : (asleep ++ [t] ++ woken.erase t).Perm (asleep ++ woken) := by
  rw [List.append_assoc]
  exact (List.perm_cons_erase ht).symm.append_left asleep

end Threading.Condition

import Threading.Proofs.WorkerPool.Teardown

/-!
# Who can go on

A thread of the pool always has a next step, unless its worker sleeps or runs a
task, or the thread is gone (`advance_eq_none`). A destroy always has a next
step, unless somebody else holds the teardown lock, or the worker it joins is
still there (`IsRun.proceed_eq_none`).

A pool is *quiescent* if nobody has a next step, but for threads that the
operating system still holds (`Quiescent`).
-/

namespace Threading.WorkerPool

variable {τ : Type} {p : WorkerPool τ}

/-- Nobody has a next step: every worker is held by the operating system, sleeps,
    runs a task or is gone, and every destroy waits. -/
structure Quiescent (p : WorkerPool τ) : Prop where
  workers : ∀ (i : Nat) (w : Worker τ), p.workers[i]? = some w → w.isHeld = false →
    p.advance i = none
  destroys : ∀ c, p.proceed c = none

theorem proceed_of_destroying_eq_none {c : ThreadId} (h : p.destroying c = none) :
    p.proceed c = none := by
  rw [proceed, h]
  rfl

/-- It is enough to ask the workers and the destroys under way. -/
theorem quiescent_iff : p.Quiescent ↔
    (∀ i ∈ List.range p.workers.length, (p.workers[i]?.any Worker.isHeld ||
      (p.advance i).isNone) = true) ∧ ∀ x ∈ p.destroys, (p.proceed x.1).isNone = true := by
  constructor
  · intro h
    refine ⟨fun i hi => ?_, fun x _ => Option.isNone_iff_eq_none.2 (h.destroys x.1)⟩
    have hlt := List.mem_range.1 hi
    have hw := List.getElem?_eq_getElem hlt
    rw [hw, Option.any_some]
    cases hheld : p.workers[i].isHeld with
    | true => rfl
    | false => rw [h.workers i _ hw hheld, Bool.false_or, Option.isNone_none]
  · rintro ⟨hworkers, hdestroys⟩
    refine ⟨fun i w hw hheld => ?_, fun c => ?_⟩
    · have hi := hworkers i (List.mem_range.2 (List.getElem?_eq_some_iff.1 hw).1)
      rw [hw, Option.any_some, hheld, Bool.false_or] at hi
      exact Option.isNone_iff_eq_none.1 hi
    · cases hd : p.destroying c with
      | none => exact proceed_of_destroying_eq_none hd
      | some d =>
        obtain ⟨before, after, hsplit, -⟩ := List.lookup_eq_some_iff.1 hd
        have hmem : (c, d) ∈ p.destroys := by simp [hsplit]
        exact Option.isNone_iff_eq_none.1 (hdestroys (c, d) hmem)

instance : Decidable p.Quiescent := decidable_of_iff _ quiescent_iff.symm

/-- Without a step, a worker sleeps, or runs a task, or is gone. -/
theorem advance_eq_none {i : Nat} {w : Worker τ} (hw : p.workers[i]? = some w) (hs : w.Sound)
    (hn : p.advance i = none) :
    w.isAsleep = true ∨ w.isRunning = true ∨ w.isGone = true := by
  rcases advance_cases hw hs with ⟨-, h⟩ | ⟨e, he, -⟩
  · exact h
  · rw [hn] at he
    cases he

section IsRun

variable {label : String} {answers : List (Except Refusal ThreadId)} {es : History τ}

/-- The destroy that holds the teardown lock may call every handle. -/
theorem IsRun.admits (h : IsRun label answers es p) {c : ThreadId} {k : Nat} {w : Worker τ}
    (hd : p.destroying c = some (.joining k)) (hw : p.workers[k]? = some w) :
    w.handle.admits c = true := by
  have hs := h.sound w (List.mem_of_getElem? hw)
  have hkept : w.handle.dropped = false :=
    h.teardown.kept (h.teardown.not_abandoned hd) k w hw
  have hother : w.thread? ≠ some c :=
    h.teardown.outside h.sound ((h.teardown.holder c).2 ⟨_, hd, rfl⟩) hw
  have hjoiner : w.handle.joiner ≠ some c := by
    rw [Ne, h.teardown.joiner k w c hw, hd]
    simp
  simp only [Handle.admits, Handle.isUnlocked, hs.unlocked, hs.not_inline, hkept]
  cases hc : w.handle.spawned with
  | none => simp [hjoiner]
  | some course =>
    have hthread : course.thread ≠ c := by simpa [Worker.thread?, hc] using hother
    simp [hjoiner, hthread]

/-- A destroy that cannot go on waits for the teardown lock, or for a worker. -/
theorem IsRun.proceed_eq_none (h : IsRun label answers es p) {c : ThreadId} {d : Destroying}
    (hd : p.destroying c = some d) (hn : p.proceed c = none) :
    (d = .waiting ∧ ∃ x, p.teardown = some x) ∨
      ∃ k w, d = .collecting k ∧ p.workers[k]? = some w ∧ w.isGone = false := by
  rw [proceed, hd] at hn
  simp only [Option.bind_eq_bind, Option.bind_some] at hn
  cases d with
  | asking k =>
    dsimp only at hn
    cases hw : p.workers[k]? with
    | none => simp [hw] at hn
    | some w =>
      have hs := h.sound w (List.mem_of_getElem? hw)
      simp only [hw, Handle.isUnlocked, hs.unlocked] at hn
      split at hn
      · next hfree => cases hfree
      · split at hn <;> cases hn
  | shutting fromWorker => cases fromWorker <;> cases hn
  | waiting =>
    dsimp only at hn
    cases ht : p.teardown with
    | none => simp [ht] at hn
    | some x => exact .inl ⟨rfl, x, rfl⟩
  | joining k =>
    dsimp only at hn
    cases hw : p.workers[k]? with
    | none => simp [hw] at hn
    | some w =>
      simp only [hw, Handle.step, h.admits hd hw, Bool.not_true, Bool.false_eq_true, if_false] at hn
      split at hn
      · cases hn
      · split at hn <;> cases hn
  | collecting k =>
    -- The worker is there, and it is this destroy that waits for it.
    have hk := h.teardown.present c k hd
    have hw := List.getElem?_eq_getElem hk
    have hs := h.sound _ (List.getElem_mem hk)
    have hj := (h.teardown.joiner k _ c hw).2 hd
    refine .inr ⟨k, _, rfl, hw, ?_⟩
    have hresult := Worker.joinResult_eq_none_iff hs (hj ▸ Option.some_ne_none c)
    rw [← hresult]
    simp only [hw, Option.bind_some, Handle.step, hs.proceed, if_pos hj] at hn
    cases hr : p.workers[k].handle.joinResult with
    | none => rfl
    | some result => simp [hr] at hn
  | _ => cases hn

end IsRun

end Threading.WorkerPool

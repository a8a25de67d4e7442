import Threading.Proofs.Handle.Join

/-!
# Finished handles

Whoever must not wait asks whether a handle is finished before joining it. The answer has
different sources in different stages: a thread that is gone, a caller that waits for it
already, a kill, or an inline run. It is the same for ever (`IsRun.finishedForGood`):

* a thread that is gone stays gone, and a handle does not leave `joined` or `killed`, so
  every step of a finished handle leaves it finished (`Transition.isFinished`);
* of the joins that begin then, only one takes the thread out of the handle. That thread is
  gone, so it is up to the caller alone to end the join (`Unaided`);
* only a kill can hold the lock of a finished handle, and it needs nobody to let go of it
  (`unlocks_of_killing`).
-/

namespace Threading.Handle

variable {J : Type}

/-- A join of `c` with this effect returns without waiting for the closure: it is over, or at
    every later moment `c` can end it. -/
def Unaided (c : ThreadId) (e : Effect (Handle J) (Outcome J)) : Prop :=
  e.outcome = .returned (.ok ()) ∨
  ∀ fs h', Run step e.state fs h' → (∀ o ∈ fs, o.action ≠ .proceed c) →
    ∃ f result, h'.step (.proceed c) = some f ∧ f.outcome = .returned result

/-- The caller `c` can set the lock of the handle free by its own steps. -/
def Unlocks (c : ThreadId) (h : Handle J) : Prop :=
  ∃ fs h', Run step h fs h' ∧ (∀ o ∈ fs, o.action = .proceed c) ∧ h'.isUnlocked = true

/-- Nobody who joins the handle waits for its closure. -/
structure NeverWaits (h : Handle J) : Prop where
  finished : h.isFinished = true
  answered : ∀ c, h.admits c = true → ∃ e, h.step (.join c) = some e
  joins : ∀ c e, h.step (.join c) = some e → Unaided c e
  /-- Whoever keeps a join from beginning needs nobody else to let go of the lock. -/
  unlocks : h.isUnlocked = false → ∃ c, Unlocks c h

/-- What it means that a handle is finished, and that it is not. -/
structure FinishedForGood (h : Handle J) : Prop where
  unfinished_iff : h.isFinished = false ↔ h.stage = .idle ∨
    h.stage = .running ∧ ∃ t progress, h.spawned = some ⟨t, progress⟩ ∧ progress.isOver = false
  ever_after : h.isFinished = true → ∀ fs h', Run step h fs h' → h'.NeverWaits

/-! ## One step -/

section Step

variable {h : Handle J} {a : Action} {e : Effect (Handle J) (Outcome J)} {job : J}

/-- A handle that runs is finished once its thread is gone. -/
theorem Ordered.isFinished_iff (ho : h.Ordered job) : h.isFinished = true ↔
    (h.stage = .joined ∨ h.stage = .killed) ∨ h.stage = .running ∧ h.hasExited = true := by
  cases hs : h.stage with
  | running =>
    have hjoinable := Option.isSome_iff_ne_none.1 (ho.joinable_iff.2 (.inl hs))
    simp [isFinished, hs, hjoinable]
  | _ => simp [isFinished, hs]

/-- A thread that is gone stays gone. -/
theorem Transition.hasExited (ht : Transition h a e) (ho : h.Ordered job)
    (hx : h.hasExited = true) : e.state.hasExited = true := by
  have ended {t : ThreadId} {progress : Progress J} (hsp : h.spawned = some ⟨t, progress⟩) :
      progress.isOver = true := by
    rwa [Handle.hasExited, hsp, Option.any_some] at hx
  cases ht with
  | grant hl =>
    -- A start that waits for its thread has none.
    have hnone := (ho.untouched (ho.idle_of_starting hl) (by simp [hl])).1
    simp [Handle.hasExited, hnone] at hx
  | advance hsp hn =>
    rw [next_eq_none_of_isOver (ended hsp)] at hn
    cases hn
  | ended _ hsp => cases ended hsp
  | _ => exact hx

/-- A finished handle stays finished. -/
theorem Transition.isFinished (ht : Transition h a e) (ho : h.Ordered job)
    (hf : h.isFinished = true) : e.state.isFinished = true := by
  rw [(ht.ordered ho).isFinished_iff]
  rcases ho.isFinished_iff.1 hf with hended | ⟨hs, hx⟩
  · rcases ht.turn ho with hsame | hturn
    · rw [hsame]
      exact .inl hended
    · exact absurd hended (not_or.2 hturn.stage_ne)
  · rcases ht.turn ho with hsame | hturn
    · exact .inr ⟨hsame.trans hs, ht.hasExited ho hx⟩
    · -- Only a join or a kill ends a handle that runs.
      generalize e.state.stage = s at hturn
      cases hturn with
      | started hidle | run hidle => simp [hs] at hidle
      | joined => exact .inl (.inl rfl)
      | killed => exact .inl (.inr rfl)

/-- The step of a caller brings it nearer to letting go of the lock. -/
theorem Unlocks.before {c : ThreadId} {v : Handle J} {outcome : Outcome J} {notices : List Notice}
    (he : h.step (.proceed c) = some { state := v, outcome, notices }) (hv : Unlocks c v) :
    Unlocks c h := by
  obtain ⟨fs, h', hrun, hfs, hfree⟩ := hv
  exact ⟨_, h', .cons he hrun, List.forall_mem_cons.2 ⟨rfl, hfs⟩, hfree⟩

/-- A kill under way lets go of the lock by its own steps. -/
theorem unlocks_of_killing {c : ThreadId} {k : KillStage} (hl : h.lock = .killing c k) :
    Unlocks c h := by
  have detach {v : Handle J} (hv : v.lock = .killing c .detach) : Unlocks c v :=
    .before (by rw [step, proceed, hv]; exact if_pos rfl) ⟨[], _, .nil, nofun, rfl⟩
  have lower {v : Handle J} (hv : v.lock = .killing c .lower) : Unlocks c v :=
    .before (by rw [step, proceed, hv]; exact if_pos rfl) (detach rfl)
  cases k with
  | raise => exact .before (by rw [step, proceed, hl]; exact if_pos rfl) (lower rfl)
  | lower => exact lower hl
  | detach => exact detach hl

end Step

/-! ## Every moment -/

section Run

variable {name : ThreadName} {job : J} {es fs : History J} {h h' : Handle J}

theorem Ordered.hasExited_of_run (ho : h.Ordered job) (hr : Run step h fs h')
    (hx : h.hasExited = true) : h'.hasExited = true :=
  hr.invariant (fun _ v => v.hasExited = true) hx fun _ _ _ _ hv hxv he =>
    (transition_of_step he).hasExited (ho.run hv) hxv

theorem Ordered.isFinished_of_run (ho : h.Ordered job) (hr : Run step h fs h')
    (hf : h.isFinished = true) : h'.isFinished = true :=
  hr.invariant (fun _ v => v.isFinished = true) hf fun _ _ _ _ hv hfv he =>
    (transition_of_step he).isFinished (ho.run hv) hfv

/-- Nobody who joins a finished handle waits for its closure. -/
theorem IsRun.neverWaits (hr : IsRun name job es h) (hf : h.isFinished = true) : h.NeverWaits where
  finished := hf
  answered _ ha := exists_join ha
  joins c e he := by
    rcases (transition_of_step he).of_join with ⟨hs, -, -, hstate⟩ | ⟨hout, -⟩
    · -- The thread that the join takes out of the handle is gone.
      have hx : h.hasExited = true := by simpa [hs] using hr.ordered.isFinished_iff.1 hf
      refine .inr fun fs h' hrun hfs => ?_
      have hv := (hr.snoc he).append hrun
      have hreturns := hv.returns ((hr.snoc he).joiner_of_run (by rw [hstate]) hrun hfs)
      have hxv := (hr.snoc he).ordered.hasExited_of_run hrun
        ((transition_of_step he).hasExited hr.ordered hx)
      obtain ⟨f, hstep⟩ := hreturns.gone_iff.2 hxv
      obtain ⟨-, -, t, panicked, -, hout⟩ := hreturns.result f hstep
      exact ⟨f, _, hstep, hout⟩
    · exact .inl hout
  unlocks hl := by
    have hne : h.stage ≠ .idle := fun hs => by simp [isFinished, hs] at hf
    cases hlock : h.lock with
    | free => simp [isUnlocked, hlock] at hl
    | starting c => exact absurd (hr.ordered.idle_of_starting hlock) hne
    | spawned c t => exact absurd (hr.ordered.of_spawned hlock).1 hne
    | killing c k => exact ⟨c, unlocks_of_killing hlock⟩

/-- A handle is unfinished only while it is idle, or runs and its thread is not gone. Once it
    is finished it stays so, and no join waits for the closure. -/
theorem IsRun.finishedForGood (hr : IsRun name job es h) : h.FinishedForGood where
  unfinished_iff := by
    have ho := hr.ordered
    rw [← Bool.not_eq_true, ho.isFinished_iff]
    cases hs : h.stage with
    | running =>
      obtain ⟨t, hjoinable⟩ := Option.isSome_iff_exists.1 (ho.joinable_iff.2 (.inl hs))
      obtain ⟨progress, hsp⟩ := ho.own t hjoinable
      have hx : h.hasExited = progress.isOver := by rw [hasExited, hsp, Option.any_some]
      rw [hx]
      refine ⟨fun hn => .inr ⟨rfl, t, progress, hsp, by simpa using hn⟩, ?_⟩
      rintro (hidle | ⟨-, t', progress', heq, hn⟩)
      · cases hidle
      · obtain ⟨rfl, rfl⟩ : t = t' ∧ progress = progress' := by simpa [hsp] using heq
        simp [hn]
    | _ => simp
  ever_after hf fs h' hrun :=
    (hr.append hrun).neverWaits (hr.ordered.isFinished_of_run hrun hf)

end Run

end Threading.Handle

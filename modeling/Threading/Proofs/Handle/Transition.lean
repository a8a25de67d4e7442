import Threading.Handle

/-!
# What a step of a handle can do

`Transition` lists the steps of a handle, with what they need and what they
change: a call that finds nothing to do, a `start` and the answer of the
operating system, a `join`, a `kill` in its four steps, an inline `run`, the steps
of the thread that runs the closure, and the changes that need the handle for
themselves. Every possible step is one of them (`transition_of_step`), so a law of
all steps is proved by cases on `Transition`.
-/

namespace Threading.Handle

variable {J : Type}

/-- The action `a` is possible in `h`, and has this effect. -/
inductive Transition (h : Handle J) : Action → Effect (Handle J) (Outcome J) → Prop
  /-- A start finds the handle started. -/
  | startIgnored {c : ThreadId} :
    h.admits c = true → h.stage ≠ .idle →
    Transition h (.start c) { state := h, outcome := .returned (.ok ()) }
  /-- A start takes the lock, and asks for a thread. -/
  | start {c : ThreadId} :
    h.admits c = true → h.stage = .idle →
    Transition h (.start c) { state := { h with lock := .starting c }, outcome := .moved }
  /-- The operating system makes the thread. -/
  | grant {c t : ThreadId} :
    h.lock = .starting c → t ≠ c →
    Transition h (.spawn c (.ok t))
      { state := { h with lock := .spawned c t, spawned := some ⟨t, .created⟩ }, outcome := .moved }
  /-- The operating system makes no thread. -/
  | refuse {c : ThreadId} {refusal : Refusal} :
    h.lock = .starting c →
    Transition h (.spawn c (.error refusal))
      { state := { h with lock := .free }
        outcome := .returned (.error (.spawn h.name.text refusal))
        notices := [.threadRefused h.name.text refusal] }
  /-- The start is over. -/
  | started {c t : ThreadId} :
    h.lock = .spawned c t →
    Transition h (.proceed c)
      { state := { h with stage := .running, joinable := some t, lock := .free }
        outcome := .returned (.ok ())
        notices := [.threadStarted h.name.text] }
  /-- A join finds no thread to wait for. -/
  | joinIgnored {c : ThreadId} :
    h.admits c = true → h.stage ≠ .running →
    Transition h (.join c) { state := h, outcome := .returned (.ok ()) }
  /-- The thread of the handle would join itself. -/
  | joinSelf {c : ThreadId} :
    h.admits c = true → h.stage = .running → h.isCurrent c = true →
    Transition h (.join c)
      { state := h
        outcome := .returned (.ok ())
        notices := [.selfJoinIgnored h.name.text] }
  /-- A join marks the handle, and takes its thread. -/
  | join {c : ThreadId} :
    h.admits c = true → h.stage = .running → h.isCurrent c = false →
    Transition h (.join c)
      { state := { h with stage := .joined, joinable := none, joiner := some c }
        outcome := .moved }
  /-- The thread is gone, and its join is over. -/
  | joined {c : ThreadId} {result : Except Error Unit} :
    (h.lock = .free ∨ ∃ d, h.lock = .starting d) → h.joiner = some c → h.joinResult = some result →
    Transition h (.proceed c)
      { state := { h with joiner := none }
        outcome := .returned result
        notices := [.threadJoined h.name.text] }
  /-- A kill finds no thread. -/
  | killIgnored {c : ThreadId} :
    h.admits c = true → h.stage ≠ .running →
    Transition h (.kill c) { state := h, outcome := .returned (.ok ()) }
  /-- A kill takes the lock, and marks the handle. -/
  | kill {c : ThreadId} :
    h.admits c = true → h.stage = .running →
    Transition h (.kill c)
      { state := { h with stage := .killed, lock := .killing c .raise }, outcome := .moved }
  /-- The kill raises the switch. -/
  | raise {c : ThreadId} :
    h.lock = .killing c .raise →
    Transition h (.proceed c)
      { state := { h with killed := true, lock := .killing c .lower }, outcome := .moved }
  /-- The kill lowers the alive flag. -/
  | lower {c : ThreadId} :
    h.lock = .killing c .lower →
    Transition h (.proceed c)
      { state := { h with alive := false, lock := .killing c .detach }, outcome := .moved }
  /-- The kill lets go of the thread, and is over. -/
  | detach {c : ThreadId} :
    h.lock = .killing c .detach →
    Transition h (.proceed c)
      { state := { h with joinable := none, lock := .free }
        outcome := .returned (.ok ())
        notices := [.threadKilled h.name.text] }
  /-- A run finds the handle used. -/
  | runIgnored {c : ThreadId} :
    h.admits c = true → h.stage ≠ .idle →
    Transition h (.run c) { state := h, outcome := .returned (.ok ()) }
  /-- A run finds no closure. -/
  | runEmpty {c : ThreadId} :
    h.admits c = true → h.stage = .idle → h.job = none →
    Transition h (.run c) { state := { h with stage := .joined }, outcome := .returned (.ok ()) }
  /-- A run takes the closure, to run it on its caller. -/
  | run {c : ThreadId} {job : J} :
    h.admits c = true → h.stage = .idle → h.job = some job →
    Transition h (.run c)
      { state := { h with stage := .joined, job := none, inline := some ⟨c, .taken job⟩ }
        outcome := .moved }
  /-- The thread of the handle goes on. -/
  | advance {t : ThreadId} {progress progress' : Progress J} {job : Option J} {alive : Bool}
      {outcome : Outcome J} :
    h.spawned = some ⟨t, progress⟩ →
    Progress.next h.killed h.job h.alive progress = some (job, alive, progress', outcome) →
    Transition h (.advance t)
      { state := { h with job, alive, spawned := some ⟨t, progress'⟩ }, outcome }
  /-- The inline run goes on. -/
  | advanceInline {t : ThreadId} {progress progress' : Progress J} {job : Option J} {alive : Bool}
      {outcome : Outcome J} :
    h.spawned = none → h.inline = some ⟨t, progress⟩ →
    Progress.next false h.job h.alive progress = some (job, alive, progress', outcome) →
    Transition h (.advance t)
      { state := { h with job, alive, inline := some ⟨t, progress'⟩ }, outcome }
  /-- The closure is over on the thread of the handle. -/
  | ended {t : ThreadId} {panicked : Bool} :
    h.isCalling t = false → h.spawned = some ⟨t, .inside⟩ →
    Transition h (.ended t panicked)
      { state := { h with spawned := some ⟨t, .ended panicked⟩ }, outcome := .moved }
  /-- The closure is over on the caller of the inline run. -/
  | endedInline {t : ThreadId} {panicked : Bool} :
    h.isCalling t = false → h.spawned = none → h.inline = some ⟨t, .inside⟩ →
    Transition h (.ended t panicked)
      { state := { h with inline := some ⟨t, .ended panicked⟩ }, outcome := .moved }
  /-- A handle that was used keeps its name. -/
  | renameIgnored {text : String} :
    h.isUnused = true → h.dropped = false → h.stage ≠ .idle →
    Transition h (.rename text) { state := h, outcome := .returned (.ok ()) }
  /-- An idle handle is renamed. -/
  | rename {text : String} :
    h.isUnused = true → h.dropped = false → h.stage = .idle →
    Transition h (.rename text)
      { state := { h with name := .ofString text }, outcome := .returned (.ok ()) }
  /-- The last reference goes, and the closure with it. -/
  | dropWithJob {job : J} :
    h.isUnused = true → h.dropped = false → h.spawned = none → h.job = some job →
    Transition h .drop { state := { h with job := none, dropped := true }, outcome := .freed job }
  /-- The last reference goes. -/
  | drop :
    h.isUnused = true → h.dropped = false → (h.spawned ≠ none ∨ h.job = none) →
    Transition h .drop { state := { h with dropped := true }, outcome := .moved }

section Inversion

variable {h : Handle J} {e : Effect (Handle J) (Outcome J)}

theorem transition_of_start {c : ThreadId} (he : h.step (.start c) = some e) :
    Transition h (.start c) e := by
  rw [step] at he
  split at he
  · cases he
  · next ha =>
    split at he
    · next hs =>
      cases he
      exact .startIgnored (by simpa using ha) hs
    · next hs =>
      cases he
      exact .start (by simpa using ha) (by simpa using hs)

theorem transition_of_spawn {c : ThreadId} {answer : Except Refusal ThreadId}
    (he : h.step (.spawn c answer) = some e) : Transition h (.spawn c answer) e := by
  rw [step.eq_def] at he
  dsimp only at he
  split at he
  · next hl =>
    cases answer with
    | ok t =>
      dsimp only at he
      split at he
      · cases he
      · next ht =>
        cases he
        exact .grant hl ht
    | error refusal =>
      cases he
      exact .refuse hl
  · cases he

theorem transition_of_join {c : ThreadId} (he : h.step (.join c) = some e) :
    Transition h (.join c) e := by
  rw [step] at he
  split at he
  · cases he
  · next ha =>
    have ha : h.admits c = true := by simpa using ha
    split at he
    · next hs =>
      cases he
      exact .joinIgnored ha hs
    · next hs =>
      have hs : h.stage = .running := by simpa using hs
      split at he
      · next hc =>
        cases he
        exact .joinSelf ha hs hc
      · next hc =>
        cases he
        exact .join ha hs (by simpa using hc)

theorem transition_of_kill {c : ThreadId} (he : h.step (.kill c) = some e) :
    Transition h (.kill c) e := by
  rw [step] at he
  split at he
  · cases he
  · next ha =>
    split at he
    · next hs =>
      cases he
      exact .killIgnored (by simpa using ha) hs
    · next hs =>
      cases he
      exact .kill (by simpa using ha) (by simpa using hs)

theorem transition_of_run {c : ThreadId} (he : h.step (.run c) = some e) :
    Transition h (.run c) e := by
  rw [step] at he
  split at he
  · cases he
  · next ha =>
    have ha : h.admits c = true := by simpa using ha
    split at he
    · next hs =>
      cases he
      exact .runIgnored ha hs
    · next hs =>
      have hs : h.stage = .idle := by simpa using hs
      split at he
      · next hj =>
        cases he
        exact .runEmpty ha hs hj
      · next job hj =>
        cases he
        exact .run ha hs hj

theorem transition_of_proceed {c : ThreadId} (he : h.proceed c = some e) :
    Transition h (.proceed c) e := by
  have collect (hl : h.lock = .free ∨ ∃ d, h.lock = .starting d)
      (he : (if h.joiner = some c then
        h.joinResult.map fun result =>
          ({ state := { h with joiner := none }
             outcome := .returned result
             notices := [.threadJoined h.name.text] } : Effect (Handle J) (Outcome J))
        else none) = some e) : Transition h (.proceed c) e := by
    split at he
    · next hj =>
      obtain ⟨result, hr, rfl⟩ := Option.map_eq_some_iff.1 he
      exact .joined hl hj hr
    · cases he
  rw [proceed] at he
  split at he
  · next hl =>
    split at he
    · next hd =>
      subst hd
      cases he
      exact .started hl
    · cases he
  · next hl =>
    split at he
    · next hd =>
      subst hd
      cases he
      exact .raise hl
    · cases he
  · next hl =>
    split at he
    · next hd =>
      subst hd
      cases he
      exact .lower hl
    · cases he
  · next hl =>
    split at he
    · next hd =>
      subst hd
      cases he
      exact .detach hl
    · cases he
  · next d hl => exact collect (.inr ⟨d, hl⟩) he
  · next hl => exact collect (.inl hl) he

theorem transition_of_advance {t : ThreadId} (he : h.step (.advance t) = some e) :
    Transition h (.advance t) e := by
  obtain ⟨⟨state, outcome⟩, ha, rfl⟩ := Option.map_eq_some_iff.1 he
  rw [advance] at ha
  cases hs : h.spawned with
  | some course =>
    obtain ⟨x, progress⟩ := course
    simp only [hs] at ha
    split at ha
    · next ht =>
      subst ht
      obtain ⟨⟨job, alive, progress', o⟩, hn, heq⟩ := Option.map_eq_some_iff.1 ha
      cases heq
      exact .advance hs hn
    · cases ha
  | none =>
    cases hi : h.inline with
    | some course =>
      obtain ⟨x, progress⟩ := course
      simp only [hs, hi] at ha
      split at ha
      · next ht =>
        subst ht
        obtain ⟨⟨job, alive, progress', o⟩, hn, heq⟩ := Option.map_eq_some_iff.1 ha
        cases heq
        have := Transition.advanceInline hs hi hn
        rwa [hs] at this
      · cases ha
    | none => simp [hs, hi] at ha

theorem transition_of_ended {t : ThreadId} {panicked : Bool}
    (he : h.step (.ended t panicked) = some e) : Transition h (.ended t panicked) e := by
  obtain ⟨state, hc, rfl⟩ := Option.map_eq_some_iff.1 he
  rw [closureEnded] at hc
  split at hc
  · cases hc
  · next hcalling =>
    have hcalling : h.isCalling t = false := by simpa using hcalling
    split at hc
    · next hs =>
      split at hc
      · next ht =>
        subst ht
        cases hc
        exact .ended hcalling hs
      · cases hc
    · next hs hi =>
      split at hc
      · next ht =>
        subst ht
        cases hc
        exact .endedInline hcalling hs hi
      · cases hc
    · cases hc

theorem transition_of_rename {text : String} (he : h.step (.rename text) = some e) :
    Transition h (.rename text) e := by
  rw [step] at he
  split at he
  · cases he
  · next hu =>
    obtain ⟨hu, hd⟩ : h.isUnused = true ∧ h.dropped = false := by simpa using hu
    split at he
    · next hs =>
      cases he
      exact .renameIgnored hu hd hs
    · next hs =>
      cases he
      exact .rename hu hd (by simpa using hs)

theorem transition_of_drop (he : h.step .drop = some e) : Transition h .drop e := by
  rw [step] at he
  split at he
  · cases he
  · next hu =>
    obtain ⟨hu, hd⟩ : h.isUnused = true ∧ h.dropped = false := by simpa using hu
    split at he
    · next hs hj =>
      cases he
      exact .dropWithJob hu hd hs hj
    · next hne =>
      cases he
      refine .drop hu hd ?_
      cases hs : h.spawned with
      | some course => exact .inl (Option.some_ne_none course)
      | none =>
        cases hj : h.job with
        | none => exact .inr rfl
        | some job => exact absurd hj (hne job hs)

/-- Every step of a handle is a transition. -/
theorem transition_of_step {a : Action} (he : h.step a = some e) : Transition h a e := by
  cases a with
  | start c => exact transition_of_start he
  | spawn c answer => exact transition_of_spawn he
  | join c => exact transition_of_join he
  | kill c => exact transition_of_kill he
  | run c => exact transition_of_run he
  | proceed c => exact transition_of_proceed he
  | advance t => exact transition_of_advance he
  | ended t panicked => exact transition_of_ended he
  | rename text => exact transition_of_rename he
  | drop => exact transition_of_drop he

end Inversion

end Threading.Handle

import Threading.Proofs.Scenario.Moves

/-!
# The library does not panic on its own account

`NeverPanics` says what this means in a session that can be reached. A call of the library that
runs no closure on its caller does not panic, from its first step to its last
(`During.library`), whoever calls it, in whatever body, and also while another panic is under
way. The other calls let through the panics of the closure that they run, and no
others (`During.panics`). What the calls take for granted holds:

* whoever holds a lock is in the call that took it, with no closure and no panic above, so no
  lock is poisoned;
* a pop that waits no longer finds an item;
* the count of a semaphore never leaves its range;
* a name is cut where a character ends, and no name that a thread gets has a NUL in it;
* no thread joins itself.

`IsRun.never_panics` proves it of every session that can be reached. A join that is never over
is no panic: two threads that join each other wait.
-/

namespace Threading

/-- Permits that are taken and given back are counted one by one. -/
def Semaphore.Exact (s : Semaphore) : Prop := ∀ a e, s.step a = some e →
  (e.outcome = .taken → e.state.count.toNat + 1 = s.count.toNat) ∧
    (e.outcome = .posted → e.state.count.toNat = s.count.toNat + 1)

theorem Semaphore.Sound.exact {s : Semaphore} (h : s.Sound) : s.Exact := by
  intro a e he
  have ht := Semaphore.transition_of_step he
  exact ⟨ht.taken, fun ho => (ht.posted h.count_le ho).2⟩

namespace Scenario

/-! ## From the beginning of a call to its end -/

/-- At `σ₀` the thread `t` was about to go on with the frame `f`, and no panic was passing
    through it. Then `es` happened, and now the session is `σ`. The thread was not back at
    the frames below before now. -/
structure During (t : ThreadId) (f : Frame) (below : List Frame) (σ₀ : Session) (es : History)
    (σ : Session) : Prop where
  begun : ∃ th, σ₀.threads[t]? = some th ∧ th.control.panic? = none ∧ th.frames = f :: below
  run : Run Session.move σ₀ es σ
  above : ∀ m ∈ moments Session.move σ₀ es, ∃ th top,
    m.1.threads[t]? = some th ∧ th.frames = top ++ below ∧ top ≠ []

section During

variable {t : ThreadId} {f : Frame} {below : List Frame} {σ₀ σ : Session} {es : History}

/-- What holds of the frames of a call when it begins, and is kept by every move, holds until
    the call is over. -/
theorem During.invariant (h : During t f below σ₀ es σ)
    (Inv : History → Control → List Frame → Prop)
    (hbegun : ∀ control : Control, control.panic? = none → Inv [] control [f])
    (hkept : ∀ (fs : History) (o : Occurrence Move Told) (v : Session) (th th' : Thread)
      (top : List Frame), Inv fs th.control top → th.frames = top ++ below → top ≠ [] →
      th.Moves v t o.outcome th' →
      ∃ top', th'.frames = top' ++ below ∧ Inv (fs ++ [o]) th'.control top') :
    ∃ th top, σ.threads[t]? = some th ∧ th.frames = top ++ below ∧ Inv es th.control top := by
  refine h.run.invariant (fun fs v =>
      (∀ m ∈ moments Session.move σ₀ fs, ∃ th top,
        m.1.threads[t]? = some th ∧ th.frames = top ++ below ∧ top ≠ []) →
      ∃ th top, v.threads[t]? = some th ∧ th.frames = top ++ below ∧ Inv fs th.control top)
    (fun _ => ?_) (fun fs v a e hrun ih he habove => ?_) h.above
  · obtain ⟨th, ht, hcontrol, hframes⟩ := h.begun
    exact ⟨th, [f], ht, hframes, hbegun _ hcontrol⟩
  · rw [hrun.moments_snoc] at habove
    obtain ⟨habove, hnow⟩ := List.forall_mem_append.1 habove
    obtain ⟨th, top, ht, hframes, hinv⟩ := ih habove
    obtain ⟨th', top', ht', hframes', htop'⟩ := hnow _ (List.mem_singleton_self _)
    cases ht.symm.trans ht'
    obtain rfl := List.append_cancel_right (hframes.symm.trans hframes')
    obtain ⟨th', ht', hmoves⟩ := (Session.moved_of_move he).kept t th ht
    obtain ⟨top', hframes', hinv'⟩ := hkept fs (e.after a) v th th' top hinv hframes htop' hmoves
    exact ⟨th', top', ht', hframes', hinv'⟩

/-- The panics under way in a call were raised since it began. -/
theorem During.panics (h : During t f below σ₀ es σ) (hf : f.panic? = none) :
    ∃ th top, σ.threads[t]? = some th ∧ th.frames = top ++ below ∧
      ∀ message ∈ panicsOf th.control top, (t, message) ∈ raised es := by
  refine h.invariant
    (fun fs control top => ∀ message ∈ panicsOf control top, (t, message) ∈ raised fs)
    (fun control hcontrol message hm => ?_)
    fun fs o v th th' top hinv hframes htop hmoves => ?_
  · rw [panicsOf_cons, hcontrol, hf] at hm
    exact absurd hm List.not_mem_nil
  · obtain ⟨top', hframes', hpanics⟩ := hmoves.panics hframes (.inl htop)
    refine ⟨top', hframes', fun message hm => ?_⟩
    rw [raised_snoc, List.mem_append, Option.mem_toList]
    exact (hpanics message hm).imp_left (hinv message)

/-- Frames of the library are followed by such frames, without a panic. -/
theorem Thread.Moves.library {v : Session} {th th' : Thread} {told : Told} {top : List Frame}
    (h : th.Moves v t told th') (hcontrol : th.control.panic? = none)
    (hlibrary : ∀ g ∈ top, g.isLibrary = true) (hframes : th.frames = top ++ below)
    (htop : top ≠ []) : ∃ top', th'.frames = top' ++ below ∧
      th'.control.panic? = none ∧ ∀ g ∈ top', g.isLibrary = true := by
  cases h with
  | stays => exact ⟨top, hframes, hcontrol, hlibrary⟩
  | @turns frame rest next hth hnext _ =>
    obtain ⟨rest', rfl, rfl⟩ := frames_of_call hth hframes (.inl htop)
    obtain ⟨hframe, hrest⟩ := List.forall_mem_cons.1 hlibrary
    obtain ⟨hnone, hinternal⟩ := hnext.internal hcontrol hframe
    refine ⟨next.frames ++ rest', (List.append_assoc ..).symm, hnone, ?_⟩
    exact List.forall_mem_append.2
      ⟨fun g hg => Frame.isLibrary_of_isInternal (hinternal g hg), hrest⟩
  | cleansUp hfail _ =>
    rw [hfail] at hcontrol
    cases hcontrol

/-- A call that runs no closure on its caller does not panic until it is over. -/
theorem During.library (h : During t f below σ₀ es σ) (hf : f.isLibrary = true) :
    ∃ th top, σ.threads[t]? = some th ∧ th.frames = top ++ below ∧
      th.control.panic? = none ∧ ∀ g ∈ top, g.isLibrary = true :=
  h.invariant (fun _ control top => control.panic? = none ∧ ∀ g ∈ top, g.isLibrary = true)
    (fun _ hcontrol => ⟨hcontrol, List.forall_mem_singleton.2 hf⟩)
    fun _ _ _ _ _ _ hinv hframes htop hmoves => hmoves.library hinv.1 hinv.2 hframes htop

end During

/-! ## Joins -/

namespace Session

variable {σ : Session} {t u : ThreadId} {es : History}

/-- The thread that the thread `t` waits for in a join, if this is its topmost frame. -/
def awaited (σ : Session) (t : ThreadId) : Frame → Option ThreadId
  | .proceeding handle => do
    let h := (← σ.handles[handle]?).object
    if h.joiner = some t then h.spawned.map Course.thread else none
  | .destroying pool => do
    match (← σ.pools[pool]?).object with
    | .workers p =>
      match ← p.destroying t with
      | .collecting worker => (← p.workers[worker]?).thread?
      | _ => none
    | .jobs p =>
      match ← p.destroying t with
      | .collecting thread _ => (← p.threads[thread]?).thread?
      | _ => none
  | _ => none

/-- No thread joins itself. -/
theorem awaited_ne (hv : σ.view.Lawful) {frame : Frame} (h : σ.awaited t frame = some u) :
    u ≠ t := by
  cases frame with
  | proceeding handle =>
    obtain ⟨x, hx, h⟩ := Option.bind_eq_some_iff.1 h
    dsimp only at h
    split at h
    · next hjoiner =>
      obtain ⟨name, job, es, hrun⟩ := hv.handles handle x.object (objects_eq_some hx)
      obtain ⟨-, thread, progress, hspawned, hne⟩ := hrun.placed.joiner t hjoiner
      rw [hspawned] at h
      cases h
      exact hne
    · cases h
  | destroying pool =>
    obtain ⟨x, hx, h⟩ := Option.bind_eq_some_iff.1 h
    have hlawful := hv.pools pool x.object (objects_eq_some hx)
    split at h
    · next p hobject =>
      rw [hobject] at hlawful
      obtain ⟨label, answers, es, hrun⟩ := hlawful
      obtain ⟨d, hd, h⟩ := Option.bind_eq_some_iff.1 h
      split at h
      · next worker =>
        obtain ⟨w, hw, h⟩ := Option.bind_eq_some_iff.1 h
        obtain ⟨course, hspawned, rfl⟩ := Option.map_eq_some_iff.1 h
        have hjoiner := (hrun.teardown.joiner worker w t hw).2 hd
        rintro rfl
        exact (hrun.sound_at hw).onlyJoined.joiner_ne hspawned hjoiner
      · cases h
    · next p hobject =>
      rw [hobject] at hlawful
      obtain ⟨permits, es, hrun⟩ := hlawful
      obtain ⟨d, hd, h⟩ := Option.bind_eq_some_iff.1 h
      split at h
      · next thread rest =>
        obtain ⟨j, hj, h⟩ := Option.bind_eq_some_iff.1 h
        obtain ⟨course, hspawned, rfl⟩ := Option.map_eq_some_iff.1 h
        have hjoiner := hrun.orderly.joiner_of_collecting hd hj
        rintro rfl
        exact (hrun.sound_at hj).onlyJoined.joiner_ne hspawned hjoiner
      · cases h
  | _ => cases h

/-! ## All that a call takes for granted -/

/-- The lock is poisoned: a panic is on its way through the call that has it, or has left the
    call, which never lets go of the lock then. -/
def IsPoisoned (σ : Session) (m : Mutex) : Prop := ∃ u, σ.view.holder m = some u ∧
  ∀ th, σ.threads[u]? = some th →
    th.control.panic? ≠ none ∨ ∀ f ∈ th.frames, f.holds m = false

/-- After `es`, the library did not panic on its own account. -/
structure NeverPanics (es : History) (σ : Session) : Prop where
  /-- No move made it do so. -/
  unfailed : ∀ o ∈ es, ∀ t message, o.outcome ≠ .failed t message
  /-- A panic that is under way was raised on its thread, by a closure or the program. -/
  panics : ∀ (t : ThreadId) (th : Thread), σ.threads[t]? = some th →
    ∀ message ∈ th.panics, (t, message) ∈ raised es
  /-- A call that runs no closure on its caller does not panic, and nor does what is dropped. -/
  calls : ∀ σ₀ during t f below, During t f below σ₀ during σ → f.isLibrary = true →
    ∃ th top, σ.threads[t]? = some th ∧ th.frames = top ++ below ∧
      th.control.panic? = none ∧ ∀ g ∈ top, g.isLibrary = true
  /-- The other calls let through what the closure raises that they run, and nothing else. -/
  lets_through : ∀ σ₀ during t job step below, During t (.perform job step) below σ₀ during σ →
    ∃ th top, σ.threads[t]? = some th ∧ th.frames = top ++ below ∧
      ∀ message ∈ panicsOf th.control top, (t, message) ∈ raised during
  /-- Whoever holds a lock is in the call that took it, without a panic, and with frames of
      the library only above. -/
  locks : ∀ m u, σ.view.holder m = some u →
    ∃ th above f below, σ.threads[u]? = some th ∧ th.control.panic? = none ∧
      th.frames = above ++ f :: below ∧ f.holds m = true ∧ ∀ g ∈ above, g.isInternal = true
  unpoisoned : ∀ m, ¬σ.IsPoisoned m
  /-- No thread stops waiting for an item while there is none. -/
  queues : ∀ id a τ o, σ.stepQueue id a = some (τ, o) → o ≠ .wokeEmpty
  semaphores : ∀ (id : Nat) (s : Semaphore), σ.semaphores[id]? = some s → s.Exact
  permits : ∀ id p, σ.view.pools id = some (.jobs p) → p.permits.Exact
  cuts : ∀ text, cutByWalking text = some (cutName text)
  /-- What is handed to the operating system as the name of a thread. -/
  handed : ∀ name : ThreadName, Carried name.text
  names : ∀ (t : ThreadId) (th : Thread), σ.threads[t]? = some th →
    ∀ name, th.name = some name → Carried name
  joins : ∀ t frame u, σ.awaited t frame = some u → u ≠ t

/-- Where whoever holds a lock is in the call that took it, no lock is poisoned. -/
theorem Held.not_isPoisoned (h : Held σ) (m : Mutex) : ¬σ.IsPoisoned m := by
  rintro ⟨u, hu, hpoisoned⟩
  obtain ⟨th, ht, above, f, below, hframes, hholds, hs⟩ := h m u hu
  rcases hpoisoned th ht with hpanic | hgone
  · exact hpanic hs.panic?
  · have hf : f ∈ th.frames := hframes ▸ List.mem_append_cons_self
    rw [hgone f hf] at hholds
    cases hholds

/-- The library never panics on its own account. -/
theorem IsRun.never_panics (h : IsRun es σ) : NeverPanics es σ := by
  have hintact := h.intact
  exact {
    unfailed := hintact.unfailed
    panics := hintact.panics
    calls := fun _ _ _ _ _ hduring hf => hduring.library hf
    lets_through := fun _ _ _ _ _ _ hduring => hduring.panics rfl
    locks := by
      intro m u hu
      obtain ⟨th, ht, above, f, below, hframes, hholds, hs⟩ := hintact.held m u hu
      exact ⟨th, above, f, below, ht, hs.panic?, hframes, hholds, hs.isInternal⟩
    unpoisoned := hintact.held.not_isPoisoned
    queues := fun _ _ _ _ => stepQueue_ne_wokeEmpty
    semaphores := fun id s hs => (hintact.lawful.semaphores id s hs).exact
    permits := by
      intro id p hp
      obtain ⟨permits, es, hrun⟩ := hintact.lawful.pools id (.jobs p) hp
      exact hrun.permitted.sound.exact
    cuts := cutByWalking_eq
    handed := ThreadName.carried
    names := hintact.names
    joins := fun _ _ _ => awaited_ne hintact.lawful }

/-- A panic passes through two runs, one inside the other. Another one drops the last reference
    to a pool on the thread of its worker, which also makes a semaphore meanwhile. -/
theorem never_panics_while_unwinding : ∃ es σ, IsRun es σ ∧
    raised es = [(2, "boom"), (4, "lost")] ∧
    σ.threads[4]?.map Thread.panics = some ["lost"] ∧ NeverPanics es σ := by
  obtain ⟨es, σ, hrun, h⟩ := exists_run move {}
    ([.enter (.handleNew "h" none [.panic "boom"] false), .turn 0,
      .enter (.handleNew "g" none [.run "h"] false), .turn 1, .enter (.run "g")] ++
      List.replicate 22 (.turn 2) ++
      [.enter (.poolNew "p" 1 .workers "workpool" {}), .turn 3,
      .enter (.submit "p" "task" [.panic "lost"] true {} true), .turn 5,
      .enter (.poolDrop "p"), .turn 6] ++
      List.replicate 5 (.turn 4) ++ [.cleanUp 4 none (.semaphoreNew "s" 1 1)] ++
      List.replicate 7 (.turn 4))
    (fun es σ => (raised es, σ.threads[4]?.map Thread.panics))
    ([(2, "boom"), (4, "lost")], some ["lost"]) (by decide +kernel)
  obtain ⟨hraised, hpanics⟩ := Prod.mk.inj h
  exact ⟨es, σ, hrun, hraised, hpanics, IsRun.never_panics hrun⟩

/-- The threads `3` and `5` join each other: neither panics, and neither has a next step. -/
example : (play move {}
    ([.enter (.handleNew "a" none [.join "b"] false), .turn 0,
      .enter (.handleNew "b" none [.join "a"] false), .turn 1,
      .enter (.start "a" {})] ++ List.replicate 4 (.turn 2) ++
      [.enter (.start "b" {})] ++ List.replicate 4 (.turn 4) ++
      List.replicate 5 (.turn 3) ++ List.replicate 5 (.turn 5))).map
    (fun x => [3, 5].map fun t => (x.2.threads[t]?.map fun th =>
      (th.frames.head?.bind (x.2.awaited t), th.panics), (x.2.step t).isNone)) =
    some [(some (some 5, []), true), (some (some 3, []), true)] := by decide +kernel

end Session

end Scenario

end Threading

import Mathlib.Logic.Function.Basic
import Threading.Proofs.Handle.Name
import Threading.Proofs.JobPool.Permits
import Threading.Proofs.JobPool.Callers
import Threading.Proofs.ThreadName
import Threading.Proofs.WorkerPool.Teardown
import Threading.Scenario.Execution

/-!
# What a session shows of the library

A session has threads, and objects that the threads share. For the laws of its objects, it
does not matter what they are called, how many references there are to them or
what was reported: what matters is the `View` of the session. In a `Lawful` view
every object got where it is by steps of its own, so whatever is known of all runs
of an object is known of the objects of a session.

Some locks are held over several steps (`Mutex`), each by one thread
(`View.holder`). Nearly all that a thread does *eases* the view (`View.Eases`): it
begins threads and takes objects on by their own steps, and no lock is taken. What
may take a lock still *follows* the view (`View.Follows`).
-/

namespace Threading

/-- The caller that holds the lock of a handle. -/
def Lock.holder? : Lock → Option ThreadId
  | free => none
  | starting caller | spawned caller _ | killing caller _ => some caller

namespace Scenario

/-! ## Panics under way -/

/-- The panic that a thread goes on with. -/
def Control.panic? : Control → Option String
  | .fail message => some message
  | _ => none

/-- The panic that a frame will go on with. -/
def Frame.panic? : Frame → Option String
  | .resume control => control.panic?
  | .inline _ panicked => panicked
  | _ => none

/-- The panics under way in the frames `frames` of a thread that goes on with `control`. -/
def panicsOf (control : Control) (frames : List Frame) : List String :=
  control.panic?.toList ++ frames.filterMap Frame.panic?

/-- The panics under way on a thread. -/
def Thread.panics (th : Thread) : List String := panicsOf th.control th.frames

/-- A thread that did nothing yet. The operating system carries its name, if it has one. -/
structure Thread.IsNew (th : Thread) : Prop where
  panics : th.panics = []
  name : ∀ name, th.name = some name → Carried name

/-! ## Views -/

/-- The threads of a session, and the objects that they share. -/
@[ext]
structure View where
  threads : Array Thread
  semaphores : Array Semaphore
  handles : Nat → Option (Handle JobId)
  pools : Nat → Option Pool

/-- The objects in the order of their numbers. -/
def objects {α : Type} (xs : Array (Owned α)) (id : Nat) : Option α := xs[id]?.map Owned.object

theorem objects_eq_some {α : Type} {xs : Array (Owned α)} {id : Nat} {x : Owned α}
    (hx : xs[id]? = some x) : objects xs id = some x.object := by
  rw [objects, hx, Option.map_some]

/-- What a session shows. -/
def Session.view (σ : Session) : View where
  threads := σ.threads
  semaphores := σ.semaphores
  handles := objects σ.handles
  pools := objects σ.pools

/-- A lock that a thread may hold from one step to the next. -/
inductive Mutex
  /-- That of a handle, during a start or a kill. -/
  | handle (id : Nat)
  /-- That of a handle which a pool made for itself. -/
  | member (pool index : Nat)
  /-- That of a pool with a thread for every job, during a submit. -/
  | submit (pool : Nat)
  /-- That of the worker pool's joins, during a destroy. -/
  | teardown (pool : Nat)
  deriving DecidableEq

/-- The pool got where it is by its own steps. -/
def Pool.IsLawful : Pool → Prop
  | .workers p => ∃ label answers es, WorkerPool.IsRun label answers es p
  | .jobs p => ∃ permits es, JobPool.IsRun permits es p

/-- The lock of the handle that the pool made at `index`. -/
def Pool.memberLock : Pool → Nat → Option Lock
  | .workers p, index => p.workers[index]?.map (·.handle.lock)
  | .jobs p, index => p.threads[index]?.map (·.handle.lock)

/-- The thread whose submit holds the lock of the pool. -/
def Pool.submitter : Pool → Option ThreadId
  | .workers _ => none
  | .jobs p => p.submitting.map Submit.caller

/-- The thread whose destroy holds the teardown lock of the pool. -/
def Pool.joiner : Pool → Option ThreadId
  | .workers p => p.teardown
  | .jobs _ => none

namespace View

/-- The thread that holds a lock. -/
def holder (v : View) : Mutex → Option ThreadId
  | .handle id => (v.handles id).bind (·.lock.holder?)
  | .member pool index => ((v.pools pool).bind (·.memberLock index)).bind Lock.holder?
  | .submit pool => (v.pools pool).bind Pool.submitter
  | .teardown pool => (v.pools pool).bind Pool.joiner

/-- The operating system carries the name on the thread `t`. -/
def Carries (v : View) (t : ThreadId) (name : ThreadName) : Prop :=
  ∃ th, v.threads[t]? = some th ∧ th.name = some name.text

/-- Every object got where it is by steps of its own, and the thread of a handle goes by its
    name. -/
structure Lawful (v : View) : Prop where
  semaphores : ∀ (id : Nat) (s : Semaphore), v.semaphores[id]? = some s → s.Sound
  handles : ∀ id h, v.handles id = some h → ∃ name job es, Handle.IsRun name job es h
  pools : ∀ id p, v.pools id = some p → p.IsLawful
  names : ∀ id h course, v.handles id = some h → h.spawned = some course →
    v.Carries course.thread h.name

/-- The threads of `v` are where they were, and its objects went on by their own steps. -/
structure Follows (v v' : View) : Prop where
  lawful : v.Lawful → v'.Lawful
  threads : ∀ (t : ThreadId) (th : Thread), v.threads[t]? = some th → v'.threads[t]? = some th
  begun : ∀ (t : ThreadId) (th : Thread), v'.threads[t]? = some th →
    v.threads[t]? = some th ∨ th.IsNew

/-- What followed took no lock. -/
structure Eases (v v' : View) : Prop extends Follows v v' where
  frees : v.Lawful → ∀ m t, v'.holder m = some t → v.holder m = some t

variable {v v' v'' : View}

/-- Nobody holds the lock of a handle that a pool made, between one step and the next. -/
theorem Lawful.holder_member (hv : v.Lawful) (pool index : Nat) :
    v.holder (.member pool index) = none := by
  rw [holder]
  cases hp : v.pools pool with
  | none => rfl
  | some p =>
    have hlawful := hv.pools pool p hp
    cases p with
    | workers p =>
      obtain ⟨label, answers, es, hrun⟩ := hlawful
      cases hw : p.workers[index]? with
      | none => simp [Pool.memberLock, hw]
      | some w => simp [Pool.memberLock, hw, (hrun.sound_at hw).unlocked, Lock.holder?]
    | jobs p =>
      obtain ⟨permits, es, hrun⟩ := hlawful
      cases hj : p.threads[index]? with
      | none => simp [Pool.memberLock, hj]
      | some j => simp [Pool.memberLock, hj, (hrun.sound_at hj).onlyJoined.unlocked, Lock.holder?]

theorem Follows.trans (h : Follows v v') (h' : Follows v' v'') : Follows v v'' where
  lawful hv := h'.lawful (h.lawful hv)
  threads t th ht := h'.threads t th (h.threads t th ht)
  begun t th ht := by
    rcases h'.begun t th ht with ht | hnew
    · exact h.begun t th ht
    · exact .inr hnew

theorem Eases.refl (v : View) : Eases v v where
  lawful h := h
  threads _ _ h := h
  begun _ _ := .inl
  frees _ _ _ h := h

theorem Eases.trans (h : Eases v v') (h' : Eases v' v'') : Eases v v'' where
  toFollows := h.toFollows.trans h'.toFollows
  frees hv m t ht := h.frees hv m t (h'.frees (h.lawful hv) m t ht)

theorem Eases.of_eq (h : v' = v) : Eases v v' := h ▸ .refl v

theorem Carries.of_threads {t : ThreadId} {name : ThreadName} (h : v.Carries t name)
    (hthreads : ∀ (t : ThreadId) (th : Thread), v.threads[t]? = some th →
      v'.threads[t]? = some th) : v'.Carries t name :=
  have ⟨th, ht, hname⟩ := h
  ⟨th, hthreads t th ht, hname⟩

/-! ## What may happen to a view -/

theorem threads_push {th : Thread} {t : ThreadId} {x : Thread} (hx : v.threads[t]? = some x) :
    (v.threads.push th)[t]? = some x := by
  obtain ⟨hlt, -⟩ := Array.getElem?_eq_some_iff.1 hx
  rw [Array.getElem?_push, if_neg hlt.ne, hx]

/-- A thread begins. -/
theorem eases_thread {th : Thread} (hnew : th.IsNew) :
    Eases v { v with threads := v.threads.push th } where
  lawful hv := ⟨hv.semaphores, hv.handles, hv.pools, fun id h course hh hc =>
    (hv.names id h course hh hc).of_threads fun _ _ => threads_push⟩
  threads _ _ := threads_push
  begun t th ht := by
    dsimp only at ht
    rw [Array.getElem?_push] at ht
    split at ht
    · cases ht
      exact .inr hnew
    · exact .inl ht
  frees _ _ _ h := h

/-- A semaphore is made. -/
theorem eases_newSemaphore {s : Semaphore} (hs : s.Sound) :
    Eases v { v with semaphores := v.semaphores.push s } where
  lawful hv := by
    refine ⟨fun id s' h => ?_, hv.handles, hv.pools, hv.names⟩
    dsimp only at h
    rw [Array.getElem?_push] at h
    split at h
    · cases h
      exact hs
    · exact hv.semaphores id s' h
  threads _ _ h := h
  begun _ _ := .inl
  frees _ _ _ h := h

/-- A semaphore takes a step. -/
theorem eases_semaphore {id : Nat} {s : Semaphore} {a : Semaphore.Action}
    {e : Effect Semaphore Semaphore.Outcome} (hs : v.semaphores[id]? = some s)
    (he : s.step a = some e) :
    Eases v { v with semaphores := v.semaphores.setIfInBounds id e.state } where
  lawful hv := by
    refine ⟨fun k s' h => ?_, hv.handles, hv.pools, hv.names⟩
    dsimp only at h
    rw [Array.getElem?_setIfInBounds] at h
    split at h
    · split at h
      · cases h
        exact (Semaphore.transition_of_step he).sound (hv.semaphores id s hs)
      · cases h
    · exact hv.semaphores k s' h
  threads _ _ h := h
  begun _ _ := .inl
  frees _ _ _ h := h

section Handles

variable {id : Nat} {h h' : Handle JobId} {a : Handle.Action}
  {e : Effect (Handle JobId) (Handle.Outcome JobId)}

/-- The view with the handle `id` as it is now. -/
def withHandle (v : View) (id : Nat) (h : Handle JobId) : View :=
  { v with handles := Function.update v.handles id (some h) }

theorem holder_withHandle (m : Mutex) :
    (v.withHandle id h').holder m = if m = .handle id then h'.lock.holder? else v.holder m := by
  cases m with
  | handle k =>
    by_cases hk : k = id
    · subst hk
      simp [holder, withHandle]
    · simp [holder, withHandle, hk]
  | _ => simp [holder, withHandle]

theorem handles_withHandle {k : Nat} {x : Handle JobId}
    (hx : (v.withHandle id h).handles k = some x) : k = id ∧ x = h ∨ v.handles k = some x := by
  by_cases hk : k = id
  · subst hk
    exact .inl ⟨rfl, by simpa [withHandle] using hx.symm⟩
  · exact .inr (by simpa [withHandle, hk] using hx)

theorem lawful_withHandle (hv : v.Lawful) (h' : ∃ name job es, Handle.IsRun name job es h)
    (hnamed : ∀ course, h.spawned = some course → v.Carries course.thread h.name) :
    (v.withHandle id h).Lawful where
  semaphores := hv.semaphores
  handles k x hx := by
    rcases handles_withHandle hx with ⟨-, rfl⟩ | hx
    · exact h'
    · exact hv.handles k x hx
  pools := hv.pools
  names k x course hx hc := by
    rcases handles_withHandle hx with ⟨-, rfl⟩ | hx
    · exact hnamed course hc
    · exact hv.names k x course hx hc

/-- A handle takes a step. The thread that it is granted, if any, goes by its name. -/
theorem follows_handle (hh : v.handles id = some h) (he : h.step a = some e)
    (hgrant : ∀ c t, a = .spawn c (.ok t) → v.Carries t h.name) :
    Follows v (v.withHandle id e.state) where
  lawful hv := by
    obtain ⟨name, job, es, hrun⟩ := hv.handles id h hh
    refine lawful_withHandle hv ⟨name, job, _, hrun.snoc he⟩ fun course hc => ?_
    obtain ⟨hname, ⟨c, ha⟩ | ⟨old, hold, hthread⟩⟩ :=
      (Handle.transition_of_step he).thread hrun.ordered hc
    · exact hname ▸ hgrant c course.thread ha
    · exact hname ▸ hthread ▸ hv.names id h old hh hold
  threads _ _ h := h
  begun _ _ := .inl

/-- A handle takes a step, but not its lock. -/
theorem eases_handle (hh : v.handles id = some h) (he : h.step a = some e)
    (hgrant : ∀ c t, a = .spawn c (.ok t) → v.Carries t h.name)
    (hlock : v.Lawful → ∀ t, e.state.lock.holder? = some t → h.lock.holder? = some t) :
    Eases v (v.withHandle id e.state) where
  toFollows := follows_handle hh he hgrant
  frees hv m t ht := by
    rw [holder_withHandle] at ht
    split at ht
    · next hm =>
      rw [hm, holder, hh, Option.bind_some]
      exact hlock hv t ht
    · exact ht

/-- A handle is made. -/
theorem eases_newHandle (name : ThreadName) (job : JobId) :
    Eases v (v.withHandle id (.create name job)) where
  lawful hv := lawful_withHandle hv ⟨name, job, [], .nil⟩ fun course hc => by cases hc
  threads _ _ h := h
  begun _ _ := .inl
  frees _ m t ht := by
    rw [holder_withHandle] at ht
    split at ht
    · cases ht
    · exact ht

end Handles

section Pools

variable {id : Nat} {p q : Pool}

/-- The view with the pool `id` as it is now. -/
def withPool (v : View) (id : Nat) (p : Pool) : View :=
  { v with pools := Function.update v.pools id (some p) }

theorem holder_withPool_submit (k : Nat) :
    (v.withPool id q).holder (.submit k) =
      if k = id then q.submitter else v.holder (.submit k) := by
  by_cases hk : k = id
  · subst hk
    simp [holder, withPool]
  · simp [holder, withPool, hk]

theorem holder_withPool_teardown (k : Nat) :
    (v.withPool id q).holder (.teardown k) =
      if k = id then q.joiner else v.holder (.teardown k) := by
  by_cases hk : k = id
  · subst hk
    simp [holder, withPool]
  · simp [holder, withPool, hk]

theorem lawful_withPool (hv : v.Lawful) (hp : p.IsLawful) : (v.withPool id p).Lawful := by
  refine ⟨hv.semaphores, hv.handles, fun k x hx => ?_, hv.names⟩
  by_cases hk : k = id
  · subst hk
    obtain rfl : p = x := by simpa [withPool] using hx
    exact hp
  · exact hv.pools k x (by simpa [withPool, hk] using hx)

/-- A pool goes on, or is made. -/
theorem follows_pool (hq : v.Lawful → q.IsLawful) : Follows v (v.withPool id q) where
  lawful hv := lawful_withPool hv (hq hv)
  threads _ _ h := h
  begun _ _ := .inl

/-- Who holds a lock after a pool went on, held it before, or holds a lock of the pool. -/
theorem holder_withPool (hq : (v.withPool id q).Lawful) {m : Mutex} {t : ThreadId}
    (ht : (v.withPool id q).holder m = some t) :
    v.holder m = some t ∨ m = .submit id ∧ q.submitter = some t ∨
      m = .teardown id ∧ q.joiner = some t := by
  cases m with
  | handle k => exact .inl ht
  | member k index =>
    rw [hq.holder_member] at ht
    cases ht
  | submit k =>
    rw [holder_withPool_submit] at ht
    split at ht
    · next hk => exact .inr (.inl ⟨by rw [hk], ht⟩)
    · exact .inl ht
  | teardown k =>
    rw [holder_withPool_teardown] at ht
    split at ht
    · next hk => exact .inr (.inr ⟨by rw [hk], ht⟩)
    · exact .inl ht

/-- A pool goes on, and takes no lock. -/
theorem eases_pool (hp : v.pools id = some p) (hq : v.Lawful → q.IsLawful)
    (hs : v.Lawful → ∀ t, q.submitter = some t → p.submitter = some t)
    (hj : v.Lawful → ∀ t, q.joiner = some t → p.joiner = some t) :
    Eases v (v.withPool id q) where
  toFollows := follows_pool hq
  frees hv m t ht := by
    rcases holder_withPool (lawful_withPool hv (hq hv)) ht with ht | ⟨rfl, hsub⟩ | ⟨rfl, hjoin⟩
    · exact ht
    · rw [holder, hp, Option.bind_some]
      exact hs hv t hsub
    · rw [holder, hp, Option.bind_some]
      exact hj hv t hjoin

/-- A pool is made. -/
theorem eases_newPool (hq : q.IsLawful) (hs : q.submitter = none) (hj : q.joiner = none) :
    Eases v (v.withPool id q) where
  toFollows := follows_pool fun _ => hq
  frees hv m t ht := by
    rcases holder_withPool (lawful_withPool hv hq) ht with ht | ⟨-, ht⟩ | ⟨-, ht⟩
    · exact ht
    · rw [hs] at ht
      cases ht
    · rw [hj] at ht
      cases ht

end Pools

end View

end Scenario

end Threading

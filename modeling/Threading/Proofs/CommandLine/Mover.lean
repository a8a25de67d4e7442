import Mathlib.Data.Option.Basic
import Threading.CommandLine.QueueRun

/-!
# The thread of a producer or a consumer

The main thread starts a mover and joins it, and nobody else calls its handle. So what the handle
looks like is known from its *standing*: how far the main thread got with it, and how far its own
thread (`Standing.handle`). The lemmas here are the steps of such a handle: those of the main
thread, one after the other, and those of its own thread before its closure begins and after it is
over (`Standing.forward`).
-/

namespace Threading.CommandLine

/-- How far the thread of a mover got. -/
inductive Stride
  | created
  | taken
  | raised
  | inside
  | ended
  | lowered
  | gone
  deriving DecidableEq, Repr

namespace Stride

/-- The progress of the thread. -/
def progress : Stride → Progress Unit
  | created => .created
  | taken => .taken ()
  | raised => .raised ()
  | inside => .inside
  | ended => .ended false
  | lowered => .lowered false
  | gone => .exited false

theorem progress_injective : Function.Injective progress := by
  intro x y h
  cases x <;> cases y <;> first | rfl | cases h

/-- How far a thread got that makes this progress. -/
def read : Progress Unit → Stride
  | .created => created
  | .taken _ => taken
  | .raised _ => raised
  | .inside => inside
  | .spared _ | .unneeded _ | .ended _ => ended
  | .lowered _ => lowered
  | .exited _ => gone

/-- What the thread does next, outside its closure. -/
def forward : Stride → Option Stride
  | created => some taken
  | taken => some raised
  | raised => some inside
  | inside => none
  | ended => some lowered
  | lowered => some gone
  | gone => none

end Stride

/-- How far the main thread got with a mover, and how far the thread of the mover. -/
inductive Standing
  /-- Nothing was done yet. -/
  | untouched
  /-- The main thread asked for a thread. -/
  | asked
  /-- The thread is there, and its start is not over. -/
  | granted (stride : Stride)
  | started (stride : Stride)
  /-- The main thread waits for the thread to be gone. -/
  | awaited (stride : Stride)
  | joined
  deriving DecidableEq, Repr

namespace Standing

/-- How far the thread got, if there is one. -/
def stride? : Standing → Option Stride
  | untouched | asked => none
  | granted stride | started stride | awaited stride => some stride
  | joined => some .gone

/-- The same with another stride. -/
def withStride (stride : Stride) : Standing → Standing
  | granted _ => granted stride
  | started _ => started stride
  | awaited _ => awaited stride
  | standing => standing

/-- The handle of the mover with this thread. -/
def handle (name : ThreadName) (thread : ThreadId) : Standing → Handle Unit
  | untouched => .create name ()
  | asked => { Handle.create name () with lock := .starting 0 }
  | granted stride =>
    { base stride with lock := .spawned 0 thread }
  | started stride => { base stride with stage := .running, joinable := some thread }
  | awaited stride => { base stride with stage := .joined, joiner := some 0 }
  | joined => { base .gone with stage := .joined }
where
  /-- What does not depend on the main thread. -/
  base (stride : Stride) : Handle Unit :=
    { name
      job := if stride = .created then some () else none
      alive := match stride with
        | .raised | .inside | .ended => true
        | _ => false
      spawned := some ⟨thread, stride.progress⟩ }

/-- How far both threads got, if the handle is that of a mover. -/
def read (h : Handle Unit) : Standing :=
  match h.spawned with
  | none => if h.lock = .free then untouched else asked
  | some course =>
    let stride := Stride.read course.progress
    match h.lock, h.joiner, h.stage with
    | .spawned .., _, _ => granted stride
    | _, some _, _ => awaited stride
    | _, _, .running => started stride
    | _, _, _ => joined

variable {name : ThreadName} {thread : ThreadId} {standing : Standing} {stride : Stride}

theorem spawned_handle : (standing.handle name thread).spawned =
    standing.stride?.map fun stride => ⟨thread, stride.progress⟩ := by
  cases standing <;> rfl

theorem stride?_withStride {next : Stride} (hs : standing.stride? = some stride)
    (hg : stride ≠ .gone) : (standing.withStride next).stride? = some next := by
  cases standing <;> simp_all [stride?, withStride]

/-- The handle tells how far both threads got. -/
theorem read_handle (name : ThreadName) (thread : ThreadId) (standing : Standing) :
    read (standing.handle name thread) = standing := by
  cases standing with
  | untouched | asked | joined => rfl
  | granted stride | started stride | awaited stride => cases stride <;> rfl

theorem handle_injective {name' : ThreadName} {standing' : Standing}
    (h : standing.handle name thread = standing'.handle name' thread) : standing = standing' := by
  rw [← read_handle name thread standing, h, read_handle]

/-! ## The main thread -/

theorem step_start : (untouched.handle name thread).step (.start 0) =
    some { state := asked.handle name thread, outcome := .moved } := rfl

theorem step_spawn (name : ThreadName) (ht : thread ≠ 0) :
    (asked.handle name thread).step (.spawn 0 (.ok thread)) =
    some { state := (granted .created).handle name thread, outcome := .moved } := by
  simp [Handle.step, handle, handle.base, Handle.create, Stride.progress, ht]

theorem step_started (name : ThreadName) (thread : ThreadId) (stride : Stride) :
    ((granted stride).handle name thread).step (.proceed 0) =
    some {
      state := (started stride).handle name thread
      outcome := .returned (.ok ())
      notices := [.threadStarted name.text] } := by
  simp [Handle.step, Handle.proceed, handle, handle.base]

theorem step_join (ht : thread ≠ 0) : ((started stride).handle name thread).step (.join 0) =
    some { state := (awaited stride).handle name thread, outcome := .moved } := by
  simp [Handle.step, Handle.admits, Handle.isUnlocked, Handle.isCurrent, handle, handle.base, ht]

theorem step_joined : ((awaited .gone).handle name thread).step (.proceed 0) =
    some {
      state := joined.handle name thread
      outcome := .returned (.ok ())
      notices := [.threadJoined name.text] } := by
  simp [Handle.step, Handle.proceed, Handle.joinResult, handle, handle.base, Stride.progress]

/-- The main thread waits until the thread is gone. -/
theorem step_awaited (hs : stride ≠ .gone) :
    ((awaited stride).handle name thread).step (.proceed 0) = none := by
  cases stride <;>
    simp_all [Handle.step, Handle.proceed, Handle.joinResult, handle, handle.base, Stride.progress]

/-! ## The thread of the mover -/

/-- Outside its closure the thread moves as far as `Stride.forward` tells, and reports nothing. -/
theorem of_advance {e : Effect (Handle Unit) (Handle.Outcome Unit)}
    (he : (standing.handle name thread).step (.advance thread) = some e) :
    ∃ stride next, standing.stride? = some stride ∧ stride.forward = some next ∧
      e.state = (standing.withStride next).handle name thread ∧ e.notices = [] := by
  obtain ⟨⟨state, outcome⟩, hadvance, rfl⟩ := Option.map_eq_some_iff.1 he
  clear he
  cases standing with
  | untouched | asked => cases hadvance
  | joined =>
    simp [Handle.advance, Handle.Progress.next, handle, handle.base, Stride.progress] at hadvance
  | granted stride | started stride | awaited stride =>
    refine ⟨stride, ?_⟩
    cases stride <;>
      simp_all [Handle.advance, Handle.Progress.next, handle, handle.base, Stride.progress,
        Stride.forward, withStride, stride?]

/-- A thread that did not begin its closure, or is done with it, can move until it is gone. -/
theorem exists_advance (hs : standing.stride? = some stride) (hf : stride.forward.isSome = true) :
    ∃ e, (standing.handle name thread).step (.advance thread) = some e := by
  cases standing <;> cases stride <;>
    simp_all [Handle.step, Handle.advance, Handle.Progress.next, handle, handle.base,
      Stride.progress, Stride.forward, stride?]

/-- The closure of a mover is over. -/
theorem step_ended (hs : standing.stride? = some .inside) (ht : thread ≠ 0) :
    (standing.handle name thread).step (.ended thread false) =
      some { state := (standing.withStride .ended).handle name thread, outcome := .moved } := by
  have hmain : (0 : ThreadId) ≠ thread := ht.symm
  cases standing <;>
    simp_all [Handle.step, Handle.closureEnded, Handle.isCalling, handle, handle.base,
      Stride.progress, withStride, stride?]

end Standing

end Threading.CommandLine

import Threading.Proofs.BlockingQueue
import Threading.Proofs.CommandLine.Mover
import Threading.Proofs.Entries

/-!
# The main thread, the producers and the consumers

Where the main thread is tells how far it got with every mover (`QueuePlace.allows`), and how far
the thread of a mover got tells how many items it moved (`Mover.Busy`): none before its closure
begins, all of them when it is over. That is `Staffed`, and every step keeps it
(`Transition.staffed`).

If the operating system creates all threads and memory never ends, then every possible step of a
run is a `Transition` (`transition_of_step`): the main thread serves one mover after the other
(`Serves`), turns from starting to joining, and prints; a mover moves outside its closure, or
pushes, pops, tells or counts an item, or sleeps.
-/

namespace Threading.CommandLine

/-- The main thread does not ask in vain for a thread, and no list asks in vain for memory. -/
def QueueRun.Action.isGranted : QueueRun.Action → Bool
  | .main refusal => refusal.isNone
  | .mover _ memory _ => memory
  | .stir _ => true

/-- A thread wakes for no reason. -/
def QueueRun.Action.isStir : QueueRun.Action → Bool
  | .stir _ => true
  | _ => false

/-- How far the main thread may be with the mover `i` when it is there. -/
def QueuePlace.allows : QueuePlace → Nat → Standing → Prop
  | .starting k, i, .untouched => k ≤ i
  | .starting k, i, .asked => i = k
  | .starting k, i, .granted _ => i = k
  | .starting k, i, .started _ => i < k
  | .joining k, i, .started _ => k ≤ i
  | .joining k, i, .joined => i < k
  | .collecting k, i, .started _ => k < i
  | .collecting k, i, .awaited _ => i = k
  | .collecting k, i, .joined => i < k
  | .finished, _, .joined => True
  | _, _, _ => False

/-- The main thread waits only for a thread that there is, and did not fail. -/
def QueuePlace.isWithin (count : Nat) : QueuePlace → Prop
  | .collecting k => k < count
  | .failed _ => False
  | _ => True

/-- How many items a mover moved whose thread got that far. -/
def Mover.Busy (items : Nat) (m : Mover) : Option Stride → Prop
  | some .inside => m.moved ≤ items ∧ (m.handling = .moving ∨ m.moved < items)
  | some .ended | some .lowered | some .gone => m.moved = items ∧ m.handling = .moving
  | _ => m.moved = 0 ∧ m.handling = .moving

/-- The mover `i` is as it may be when the main thread is at `place`. -/
structure Mover.Placed (threads items : Nat) (place : QueuePlace) (i : Nat) (m : Mover) : Prop where
  standing : ∃ name standing, m.handle = Standing.handle name (i + 1) standing ∧
    place.allows i standing ∧ m.Busy items standing.stride?
  /-- Only consumers count items, -/
  counting : m.handling = .counting → threads ≤ i
  /-- and no item is lost. -/
  not_losing : ∀ value error, m.handling ≠ .losing value error

namespace Mover

variable {i : Nat} {m m' : Mover} {threads items : Nat} {place : QueuePlace} {name : ThreadName}
  {standing : Standing}

/-- The mover `i` is in its closure. -/
def IsInside (i : Nat) (m : Mover) : Prop := m.handle.spawned = some ⟨i + 1, .inside⟩

/-- A mover is in its closure if that is how far its thread got. -/
theorem isInside_iff (h : m.handle = standing.handle name (i + 1)) :
    m.IsInside i ↔ standing.stride? = some .inside := by
  rw [IsInside, h, Standing.spawned_handle]
  cases standing.stride? with
  | none => simp
  | some stride => cases stride <;> simp [Stride.progress]

/-- A mover is placed as its handle tells. -/
theorem Placed.of_handle (h : m.Placed threads items place i)
    (hhandle : m.handle = standing.handle name (i + 1)) :
    place.allows i standing ∧ m.Busy items standing.stride? := by
  obtain ⟨name', old, hold, hallows, hbusy⟩ := h.standing
  obtain rfl := Standing.handle_injective (hhandle.symm.trans hold)
  exact ⟨hallows, hbusy⟩

/-- While a mover is in its closure, it moved as many items as it may. -/
theorem Placed.busy_inside (h : m.Placed threads items place i) (hin : m.IsInside i) :
    m.moved ≤ items ∧ (m.handling = .moving ∨ m.moved < items) := by
  obtain ⟨name, standing, hh, -, hbusy⟩ := h.standing
  rw [(isInside_iff hh).1 hin] at hbusy
  exact hbusy

/-- Only the handle of a mover changes. -/
theorem Placed.withHandle (h : m.Placed threads items place i) {place' : QueuePlace}
    {standing' : Standing} (hallows : place'.allows i standing')
    (hbusy : m.Busy items standing'.stride?) :
    Placed threads items place' i { m with handle := standing'.handle name (i + 1) } where
  standing := ⟨name, standing', rfl, hallows, hbusy⟩
  counting := h.counting
  not_losing := h.not_losing

/-- Only what a mover does about its items changes. -/
theorem Placed.withHandling (h : m.Placed threads items place i) (hin : m.IsInside i)
    (hhandle : m'.handle = m.handle) (hmoved : m'.moved ≤ items)
    (hhandling : m'.handling = .moving ∨ m'.moved < items)
    (hcounting : m'.handling = .counting → threads ≤ i)
    (hlosing : ∀ value error, m'.handling ≠ .losing value error) :
    m'.Placed threads items place i where
  standing := by
    obtain ⟨name, standing, hh, hallows, -⟩ := h.standing
    refine ⟨name, standing, hhandle.trans hh, hallows, ?_⟩
    rw [(isInside_iff hh).1 hin]
    exact ⟨hmoved, hhandling⟩
  counting := hcounting
  not_losing := hlosing

/-- Outside its closure a mover moves nothing. -/
theorem busy_forward {stride next : Stride} (h : stride.forward = some next)
    (hb : m.Busy items (some stride)) : m.Busy items (some next) := by
  cases stride <;> cases h <;> simp_all [Busy]

/-- A mover that is done with an item may take the next one. -/
theorem Placed.proceed (h : m.Placed threads items place i) (hin : m.IsInside i)
    (hhandling : m.handling ≠ .moving) : m.proceed.Placed threads items place i := by
  have hlt := (h.busy_inside hin).2.resolve_left hhandling
  exact h.withHandling hin rfl hlt (.inl rfl) nofun nofun

end Mover

namespace QueueRun

/-- The threads of a run fit together. -/
structure Staffed (r : QueueRun) : Prop where
  length : r.movers.length = r.threads + r.threads
  placed : ∀ (i : Nat) (m : Mover), r.movers[i]? = some m →
    m.Placed r.threads r.items r.place i
  main : r.place.isWithin r.movers.length

/-- What the main thread does about the mover `i`. -/
inductive Serves (i : Nat) (name : ThreadName) :
    QueuePlace → Standing → QueuePlace → Standing → List Notice → Prop
  | ask : Serves i name (.starting i) .untouched (.starting i) .asked []
  | grant : Serves i name (.starting i) .asked (.starting i) (.granted .created) []
  | start {stride : Stride} :
    Serves i name (.starting i) (.granted stride) (.starting (i + 1)) (.started stride)
      [.threadStarted name.text]
  | await {stride : Stride} :
    Serves i name (.joining i) (.started stride) (.collecting i) (.awaited stride) []
  | collect :
    Serves i name (.collecting i) (.awaited .gone) (.joining (i + 1)) .joined
      [.threadJoined name.text]

/-- The action `a` is possible in `r`, and leads to this run. -/
inductive Transition (r : QueueRun) : Action → QueueRun → Prop
  /-- The main thread serves a mover. -/
  | serve {i : Nat} {m : Mover} {name : ThreadName} {standing standing' : Standing}
      {place : QueuePlace} {notices : List Notice} :
    r.movers[i]? = some m → m.handle = standing.handle name (i + 1) →
    Serves i name r.place standing place standing' notices →
    Transition r (.main none)
      { r with
        movers := r.movers.set i { m with handle := standing'.handle name (i + 1) }
        place
        log := (notices.map Notice.record).reverse ++ r.log }
  /-- All movers were started. -/
  | turn {k : Nat} : r.place = .starting k → r.movers.length ≤ k →
    Transition r (.main none) { r with place := .joining 0 }
  /-- All movers were joined. -/
  | print {k : Nat} : r.place = .joining k → r.movers.length ≤ k →
    Transition r (.main none) { r with place := .finished, printed := some r.summary }
  /-- The thread of a mover moves outside its closure. -/
  | advance {i : Nat} {memory : Bool} {chosen : Option ThreadId} {m : Mover} {name : ThreadName}
      {standing : Standing} {stride next : Stride} :
    r.movers[i]? = some m → m.handle = standing.handle name (i + 1) →
    standing.stride? = some stride → stride.forward = some next →
    Transition r (.mover i memory chosen)
      { r with
        movers := r.movers.set i
          { m with handle := (standing.withStride next).handle name (i + 1) } }
  /-- A mover is done with its last item. -/
  | finish {i : Nat} {memory : Bool} {chosen : Option ThreadId} {m : Mover} {name : ThreadName}
      {standing : Standing} :
    r.movers[i]? = some m → m.handle = standing.handle name (i + 1) →
    standing.stride? = some .inside → m.handling = .moving → r.items ≤ m.moved →
    Transition r (.mover i memory chosen)
      { r with
        movers := r.movers.set i
          { m with handle := (standing.withStride .ended).handle name (i + 1) } }
  /-- A producer pushes an item. -/
  | push {i : Nat} {chosen : Option ThreadId} {m : Mover}
      {e : Effect (BlockingQueue UInt32) (BlockingQueue.Outcome UInt32)} :
    r.movers[i]? = some m → m.IsInside i → m.handling = .moving → m.moved < r.items →
    i < r.threads → r.queue.step (.push (item i m.moved) true chosen) = some e →
    Transition r (.mover i true chosen)
      { r with
        queue := e.state
        movers := r.movers.set i { m with handling := .telling (item i m.moved) } }
  /-- A producer says what it pushed. -/
  | tellPushed {i : Nat} {memory : Bool} {chosen : Option ThreadId} {m : Mover} {value : UInt32} :
    r.movers[i]? = some m → m.IsInside i → m.handling = .telling value → i < r.threads →
    Transition r (.mover i memory chosen)
      { r with
        movers := r.movers.set i m.proceed
        log := infoRecord s!"Producer {i} pushed {value}" :: r.log }
  /-- A consumer pops an item. -/
  | pop {i : Nat} {memory : Bool} {chosen : Option ThreadId} {m : Mover} {value : UInt32}
      {a : BlockingQueue.Action UInt32}
      {e : Effect (BlockingQueue UInt32) (BlockingQueue.Outcome UInt32)} :
    r.movers[i]? = some m → m.IsInside i → m.handling = .moving → m.moved < r.items →
    r.threads ≤ i → a = .pop (i + 1) ∨ a = .look (i + 1) →
    r.queue.step a = some e → e.outcome = .popped value →
    Transition r (.mover i memory chosen)
      { r with
        queue := e.state
        movers := r.movers.set i { m with handling := .telling value } }
  /-- A consumer finds no item, and sleeps. -/
  | sleep {i : Nat} {memory : Bool} {chosen : Option ThreadId} {m : Mover}
      {a : BlockingQueue.Action UInt32}
      {e : Effect (BlockingQueue UInt32) (BlockingQueue.Outcome UInt32)} :
    r.movers[i]? = some m → m.IsInside i → m.handling = .moving → m.moved < r.items →
    r.threads ≤ i → a = .pop (i + 1) ∨ a = .look (i + 1) →
    r.queue.step a = some e → e.outcome = .asleep →
    Transition r (.mover i memory chosen) { r with queue := e.state }
  /-- A consumer says what it popped. -/
  | tellPopped {i : Nat} {memory : Bool} {chosen : Option ThreadId} {m : Mover} {value : UInt32} :
    r.movers[i]? = some m → m.IsInside i → m.handling = .telling value → r.threads ≤ i →
    Transition r (.mover i memory chosen)
      { r with
        movers := r.movers.set i { m with handling := .counting }
        log := infoRecord s!"Consumer {i - r.threads} popped {value}" :: r.log }
  /-- A consumer counts an item. -/
  | count {i : Nat} {memory : Bool} {chosen : Option ThreadId} {m : Mover} :
    r.movers[i]? = some m → m.IsInside i → m.handling = .counting → r.threads ≤ i →
    Transition r (.mover i memory chosen)
      { r with movers := r.movers.set i m.proceed, popped := r.popped + 1 }
  /-- A thread that waits for an item wakes for no reason. -/
  | stir {t : ThreadId} {e : Effect (BlockingQueue UInt32) (BlockingQueue.Outcome UInt32)} :
    r.queue.step (.stir t) = some e → Transition r (.stir t) { r with queue := e.state }

variable {r r' : QueueRun} {a : Action} {i : Nat} {m m' : Mover}

theorem allows_starting {k i : Nat} {standing : Standing}
    (h : (QueuePlace.starting k).allows i standing) (hik : i = k) :
    standing = .untouched ∨ standing = .asked ∨ ∃ stride, standing = .granted stride := by
  cases standing <;> simp_all [QueuePlace.allows]

theorem allows_joining {k i : Nat} {standing : Standing}
    (h : (QueuePlace.joining k).allows i standing) (hik : i = k) :
    ∃ stride, standing = .started stride := by
  cases standing <;> simp_all [QueuePlace.allows]

theorem allows_collecting {k i : Nat} {standing : Standing}
    (h : (QueuePlace.collecting k).allows i standing) (hik : i = k) :
    ∃ stride, standing = .awaited stride := by
  cases standing <;> simp_all [QueuePlace.allows]

/-! ## Every step is a transition -/

/-- The main thread starts a mover. -/
theorem transition_of_start {k : Nat} (hs : r.Staffed) (hplace : r.place = .starting k)
    (he : r.mainStep none = some r') : Transition r (.main none) r' := by
  simp only [mainStep.eq_def, hplace] at he
  cases hm : r.movers[k]? with
  | none =>
    simp only [hm] at he
    cases he
    exact .turn hplace (List.getElem?_eq_none_iff.1 hm)
  | some m =>
    obtain ⟨name, standing, hhandle, hallows, -⟩ := (hs.placed k m hm).standing
    rw [hplace] at hallows
    simp only [hm, hhandle] at he
    obtain rfl | rfl | ⟨stride, rfl⟩ := allows_starting hallows rfl
    · have hserve : Serves k name r.place .untouched r.place .asked [] := by
        rw [hplace]
        exact .ask
      cases he
      exact .serve hm hhandle hserve
    · have hserve : Serves k name r.place .asked r.place (.granted .created) [] := by
        rw [hplace]
        exact .grant
      have hspawn := Standing.step_spawn name (Nat.succ_ne_zero k)
      simp only [startAction, Standing.handle, answer] at he hspawn
      rw [hspawn] at he
      cases he
      exact .serve hm hhandle hserve
    · have hserve : Serves k name r.place (.granted stride) (.starting (k + 1)) (.started stride)
          [.threadStarted name.text] := by
        rw [hplace]
        exact .start
      have hstarted := Standing.step_started name (k + 1) stride
      simp only [startAction, Standing.handle] at he hstarted
      rw [hstarted] at he
      cases he
      exact .serve hm hhandle hserve

/-- The main thread joins a mover. -/
theorem transition_of_join {k : Nat} (hs : r.Staffed) (hplace : r.place = .joining k)
    (he : r.mainStep none = some r') : Transition r (.main none) r' := by
  simp only [mainStep.eq_def, hplace] at he
  cases hm : r.movers[k]? with
  | none =>
    simp only [hm] at he
    cases he
    exact .print hplace (List.getElem?_eq_none_iff.1 hm)
  | some m =>
    obtain ⟨name, standing, hhandle, hallows, -⟩ := (hs.placed k m hm).standing
    rw [hplace] at hallows
    obtain ⟨stride, rfl⟩ := allows_joining hallows rfl
    have hserve : Serves k name r.place (.started stride) (.collecting k) (.awaited stride) [] := by
      rw [hplace]
      exact .await
    simp only [hm, hhandle, Standing.step_join (Nat.succ_ne_zero k)] at he
    cases he
    exact .serve hm hhandle hserve

/-- The main thread waits for a mover. -/
theorem transition_of_collect {k : Nat} (hs : r.Staffed) (hplace : r.place = .collecting k)
    (he : r.mainStep none = some r') : Transition r (.main none) r' := by
  simp only [mainStep.eq_def, hplace] at he
  cases hm : r.movers[k]? with
  | none => simp [hm] at he
  | some m =>
    obtain ⟨name, standing, hhandle, hallows, -⟩ := (hs.placed k m hm).standing
    rw [hplace] at hallows
    obtain ⟨stride, rfl⟩ := allows_collecting hallows rfl
    by_cases hgone : stride = .gone
    · subst hgone
      have hserve : Serves k name r.place (.awaited .gone) (.joining (k + 1)) .joined
          [.threadJoined name.text] := by
        rw [hplace]
        exact .collect
      simp only [hm, hhandle, Option.bind_eq_bind, Option.bind_some, Standing.step_joined] at he
      cases he
      exact .serve hm hhandle hserve
    · simp [hm, hhandle, Standing.step_awaited hgone] at he

/-- The steps of the main thread. -/
theorem transition_of_main (hs : r.Staffed) (he : r.mainStep none = some r') :
    Transition r (.main none) r' := by
  cases hplace : r.place with
  | starting k => exact transition_of_start hs hplace he
  | joining k => exact transition_of_join hs hplace he
  | collecting k => exact transition_of_collect hs hplace he
  | finished => simp [mainStep, hplace] at he
  | failed error => simp [mainStep, hplace] at he

/-- With memory, a push queues its item. -/
theorem pushed_of_step {q : BlockingQueue UInt32} {value : UInt32} {chosen : Option ThreadId}
    {e : Effect (BlockingQueue UInt32) (BlockingQueue.Outcome UInt32)}
    (he : q.step (.push value true chosen) = some e) : e.outcome = .pushed := by
  cases BlockingQueue.transition_of_push he with
  | refuse hr => exact absurd hr (reserveOne_true_ne_none _ _)
  | push => rfl
  | wake => rfl

/-- A producer pushes. -/
theorem transition_of_push {chosen : Option ThreadId} (hm : r.movers[i]? = some m)
    (hin : m.IsInside i) (hmoving : m.handling = .moving) (hlt : m.moved < r.items)
    (hi : i < r.threads) (he : r.pushStep i true chosen m = some r') :
    Transition r (.mover i true chosen) r' := by
  simp only [pushStep, Option.bind_eq_bind] at he
  obtain ⟨e, hpush, he⟩ := Option.bind_eq_some_iff.1 he
  rw [pushed_of_step hpush] at he
  cases he
  exact .push hm hin hmoving hlt hi hpush

/-- A thread that pops or looks again goes with an item, or sleeps. -/
theorem popped_of_step {q : BlockingQueue UInt32} {a : BlockingQueue.Action UInt32} {t : ThreadId}
    {e : Effect (BlockingQueue UInt32) (BlockingQueue.Outcome UInt32)} (ha : a = .pop t ∨ a = .look t)
    (he : q.step a = some e) : (∃ value, e.outcome = .popped value) ∨ e.outcome = .asleep := by
  cases BlockingQueue.transition_of_step he with
  | take | takeWoken => exact .inl ⟨_, rfl⟩
  | sleep | sleepOn => exact .inr rfl
  | _ => simp at ha

/-- A consumer pops. -/
theorem transition_of_pop {memory : Bool} {chosen : Option ThreadId} (hm : r.movers[i]? = some m)
    (hin : m.IsInside i) (hmoving : m.handling = .moving) (hlt : m.moved < r.items)
    (hi : r.threads ≤ i) (he : r.popStep i m = some r') :
    Transition r (.mover i memory chosen) r' := by
  simp only [popStep, Option.bind_eq_bind] at he
  obtain ⟨e, hpop, he⟩ := Option.bind_eq_some_iff.1 he
  have ha : (if r.queue.poppers.holds (i + 1) then BlockingQueue.Action.look (α := UInt32) (i + 1)
      else .pop (i + 1)) = .pop (i + 1) ∨ (if r.queue.poppers.holds (i + 1) then
        BlockingQueue.Action.look (α := UInt32) (i + 1) else .pop (i + 1)) = .look (i + 1) := by
    split
    · exact .inr rfl
    · exact .inl rfl
  rcases popped_of_step ha hpop with ⟨value, ho⟩ | ho
  · rw [ho] at he
    cases he
    exact .pop hm hin hmoving hlt hi ha hpop ho
  · rw [ho] at he
    cases he
    exact .sleep hm hin hmoving hlt hi ha hpop ho

/-- The steps of a mover in its closure. -/
theorem transition_of_inside {chosen : Option ThreadId} (hs : r.Staffed)
    (hm : r.movers[i]? = some m) (hin : m.IsInside i)
    (he : r.insideStep i true chosen m = some r') : Transition r (.mover i true chosen) r' := by
  have hplaced := hs.placed i m hm
  obtain ⟨name, standing, hhandle, -, hbusy⟩ := hplaced.standing
  have hstride := (Mover.isInside_iff hhandle).1 hin
  rw [insideStep.eq_def] at he
  cases hh : m.handling with
  | moving =>
    simp only [hh] at he
    split at he
    · next hle =>
      rw [hhandle, Standing.step_ended hstride (Nat.succ_ne_zero i)] at he
      cases he
      exact .finish hm hhandle hstride hh hle
    · next hle =>
      have hlt := Nat.lt_of_not_le hle
      split at he
      · next hi => exact transition_of_push hm hin hh hlt hi he
      · next hi => exact transition_of_pop hm hin hh hlt (Nat.le_of_not_lt hi) he
  | telling value =>
    simp only [hh] at he
    split at he
    · next hi =>
      cases he
      exact .tellPushed hm hin hh hi
    · next hi =>
      cases he
      exact .tellPopped hm hin hh (Nat.le_of_not_lt hi)
  | losing value error => exact absurd hh (hplaced.not_losing value error)
  | counting =>
    simp only [hh] at he
    cases he
    exact .count hm hin hh (hplaced.counting hh)

theorem moverStep_of_inside {memory : Bool} {chosen : Option ThreadId} (hm : r.movers[i]? = some m)
    (hin : m.IsInside i) : r.moverStep i memory chosen = r.insideStep i memory chosen m := by
  have hspawned : m.handle.spawned = some ⟨i + 1, .inside⟩ := hin
  simp only [moverStep.eq_def, hm, hspawned, Option.bind_eq_bind, Option.bind_some]

theorem moverStep_of_outside {memory : Bool} {chosen : Option ThreadId} {name : ThreadName}
    {standing : Standing} (hm : r.movers[i]? = some m)
    (hhandle : m.handle = standing.handle name (i + 1)) (hin : ¬m.IsInside i) :
    r.moverStep i memory chosen = (m.handle.step (.advance (i + 1))).map (r.setHandle i m) := by
  simp only [moverStep.eq_def, hm, Option.bind_eq_bind, Option.bind_some]
  split
  · next thread hspawned =>
    -- The thread of the mover is that of its agent.
    rw [hhandle, Standing.spawned_handle, Option.map_eq_some_iff] at hspawned
    obtain ⟨stride, hstride, hcourse⟩ := hspawned
    have hinside : stride.progress = Stride.inside.progress := congrArg Course.progress hcourse
    refine absurd ((Mover.isInside_iff hhandle).2 ?_) hin
    rw [hstride, Stride.progress_injective hinside]
  · rfl

/-- The steps of a mover. -/
theorem transition_of_mover {chosen : Option ThreadId} (hs : r.Staffed)
    (he : r.moverStep i true chosen = some r') : Transition r (.mover i true chosen) r' := by
  cases hm : r.movers[i]? with
  | none => simp [moverStep, hm] at he
  | some m =>
    obtain ⟨name, standing, hhandle, -⟩ := (hs.placed i m hm).standing
    by_cases hin : m.IsInside i
    · rw [moverStep_of_inside hm hin] at he
      exact transition_of_inside hs hm hin he
    · rw [moverStep_of_outside hm hhandle hin] at he
      obtain ⟨e, hstep, rfl⟩ := Option.map_eq_some_iff.1 he
      rw [hhandle] at hstep
      obtain ⟨stride, next, hstride, hnext, hstate, hnotices⟩ := Standing.of_advance hstep
      rw [setHandle, hstate, hnotices]
      exact .advance hm hhandle hstride hnext

/-- If all threads are created and memory never ends, then every step is a transition. -/
theorem transition_of_step (hs : r.Staffed) (ha : a.isGranted = true)
    (he : r.step a = some r') : Transition r a r' := by
  cases a with
  | main refusal =>
    obtain rfl := Option.isNone_iff_eq_none.1 ha
    exact transition_of_main hs he
  | mover i memory chosen =>
    obtain rfl : memory = true := ha
    exact transition_of_mover hs he
  | stir t =>
    obtain ⟨e, hstir, rfl⟩ := Option.map_eq_some_iff.1 he
    exact .stir hstir

/-! ## Every step keeps the threads fitting together -/

/-- A mover stays placed when the main thread serves another one. -/
theorem Serves.allows_other {name : ThreadName} {place place' : QueuePlace}
    {standing standing' other : Standing} {notices : List Notice} {j : Nat}
    (h : Serves i name place standing place' standing' notices) (hj : j ≠ i)
    (ha : place.allows j other) : place'.allows j other := by
  cases h <;> cases other <;> simp_all [QueuePlace.allows] <;> omega

/-- The mover that is served is where the main thread says. -/
theorem Serves.allows_own {name : ThreadName} {place place' : QueuePlace}
    {standing standing' : Standing} {notices : List Notice}
    (h : Serves i name place standing place' standing' notices) : place'.allows i standing' := by
  cases h <;> simp [QueuePlace.allows]

/-- The main thread does not change what a mover did. -/
theorem Serves.busy {name : ThreadName} {place place' : QueuePlace}
    {standing standing' : Standing} {notices : List Notice} {items : Nat}
    (h : Serves i name place standing place' standing' notices)
    (hb : m.Busy items standing.stride?) : m.Busy items standing'.stride? := by
  cases h <;> exact hb

theorem Serves.isWithin {name : ThreadName} {place place' : QueuePlace}
    {standing standing' : Standing} {notices : List Notice} {count : Nat}
    (h : Serves i name place standing place' standing' notices) (hi : i < count) :
    place'.isWithin count := by
  cases h <;> first | exact hi | exact trivial

/-- The thread of a mover moves, and the main thread is as far with it as before. -/
theorem allows_withStride {place : QueuePlace} {standing : Standing} {stride : Stride}
    (h : place.allows i standing) : place.allows i (standing.withStride stride) := by
  cases place <;> cases standing <;> exact h

/-- One mover changes, and the others are as they were. -/
theorem staffed_of_set {r s : QueueRun} (hs : r.Staffed) (hthreads : s.threads = r.threads)
    (hitems : s.items = r.items) (hmovers : s.movers = r.movers.set i m')
    (hmain : s.place.isWithin r.movers.length)
    (hplaced : m'.Placed r.threads r.items s.place i)
    (hothers : ∀ j standing, j ≠ i → r.place.allows j standing → s.place.allows j standing) :
    s.Staffed where
  length := by rw [hmovers, List.length_set, hthreads, hs.length]
  placed j x hx := by
    rw [hthreads, hitems]
    rw [hmovers, List.getElem?_set] at hx
    split at hx
    · next hij =>
      subst hij
      split at hx
      · obtain rfl := Option.some.inj hx
        exact hplaced
      · cases hx
    · next hij =>
      have hold := hs.placed j x hx
      obtain ⟨name, standing, hhandle, hallows, hbusy⟩ := hold.standing
      exact ⟨⟨name, standing, hhandle, hothers j standing (Ne.symm hij) hallows, hbusy⟩,
        hold.counting, hold.not_losing⟩
  main := by
    rw [hmovers, List.length_set]
    exact hmain

/-- The main thread turns to something else when it is done with all movers. -/
theorem staffed_of_place {r s : QueueRun} (hs : r.Staffed) (hthreads : s.threads = r.threads)
    (hitems : s.items = r.items) (hmovers : s.movers = r.movers)
    (hmain : s.place.isWithin r.movers.length)
    (hplaced : ∀ j standing, j < r.movers.length → r.place.allows j standing →
      s.place.allows j standing) : s.Staffed where
  length := by rw [hmovers, hthreads, hs.length]
  placed j x hx := by
    rw [hthreads, hitems]
    rw [hmovers] at hx
    have hold := hs.placed j x hx
    obtain ⟨name, standing, hhandle, hallows, hbusy⟩ := hold.standing
    have hj := (List.getElem?_eq_some_iff.1 hx).1
    exact ⟨⟨name, standing, hhandle, hplaced j standing hj hallows, hbusy⟩, hold.counting,
      hold.not_losing⟩
  main := by
    rw [hmovers]
    exact hmain

/-- The threads of a run fit together after every step. -/
theorem Transition.staffed (ht : Transition r a r') (hs : r.Staffed) : r'.Staffed := by
  cases ht with
  | serve hm hhandle hserve =>
    have hplaced := hs.placed _ _ hm
    have hbusy := (hplaced.of_handle hhandle).2
    exact staffed_of_set hs rfl rfl rfl
      (hserve.isWithin (List.getElem?_eq_some_iff.1 hm).1)
      (hplaced.withHandle hserve.allows_own (hserve.busy hbusy))
      fun j other hj => hserve.allows_other hj
  | turn hplace hk =>
    refine staffed_of_place hs rfl rfl rfl trivial fun j standing hj ha => ?_
    rw [hplace] at ha
    cases standing <;> simp_all [QueuePlace.allows] <;> omega
  | print hplace hk =>
    refine staffed_of_place hs rfl rfl rfl trivial fun j standing hj ha => ?_
    rw [hplace] at ha
    cases standing <;> simp_all [QueuePlace.allows]
    omega
  | advance hm hhandle hstride hnext =>
    have hplaced := hs.placed _ _ hm
    obtain ⟨hallows, hbusy⟩ := hplaced.of_handle hhandle
    refine staffed_of_set hs rfl rfl rfl hs.main
      (hplaced.withHandle (allows_withStride hallows) ?_) fun _ _ _ ha => ha
    rw [Standing.stride?_withStride hstride (by rintro rfl; cases hnext)]
    exact Mover.busy_forward hnext (hstride ▸ hbusy)
  | finish hm hhandle hstride hmoving hle =>
    have hplaced := hs.placed _ _ hm
    obtain ⟨hallows, hbusy⟩ := hplaced.of_handle hhandle
    refine staffed_of_set hs rfl rfl rfl hs.main
      (hplaced.withHandle (allows_withStride hallows) ?_) fun _ _ _ ha => ha
    rw [hstride] at hbusy
    rw [Standing.stride?_withStride hstride nofun]
    exact ⟨Nat.le_antisymm hbusy.1 hle, hmoving⟩
  | push hm hin _ hlt _ _ | pop hm hin _ hlt _ _ _ _ =>
    have hplaced := hs.placed _ _ hm
    exact staffed_of_set hs rfl rfl rfl hs.main
      (hplaced.withHandling hin rfl (Nat.le_of_lt hlt) (.inr hlt) nofun nofun) fun _ _ _ ha => ha
  | sleep => exact ⟨hs.length, hs.placed, hs.main⟩
  | stir => exact ⟨hs.length, hs.placed, hs.main⟩
  | tellPushed hm hin hh _ | count hm hin hh _ =>
    have hplaced := hs.placed _ _ hm
    exact staffed_of_set hs rfl rfl rfl hs.main
      (hplaced.proceed hin (by rw [hh]; exact nofun)) fun _ _ _ ha => ha
  | tellPopped hm hin hh hi =>
    have hplaced := hs.placed _ _ hm
    have hlt := (hplaced.busy_inside hin).2.resolve_left (by rw [hh]; exact nofun)
    exact staffed_of_set hs rfl rfl rfl hs.main
      (hplaced.withHandling hin rfl (Nat.le_of_lt hlt) (.inr hlt) (fun _ => hi) nofun)
      fun _ _ _ ha => ha

end QueueRun

end Threading.CommandLine

import Threading.Proofs.CommandLine.Items
import Threading.Proofs.CommandLine.Sleepers
import Threading.Proofs.Growth

/-!
# When nobody can move

Every step leaves less to do (`QueueRun.left`), but for a thread that wakes for no reason, which
adds one at most (`Transition.left_add_le`): an item costs each of its movers four, one more for
the producer than it takes, since its push may wake a consumer that has to look once more.

A run is *quiescent* if no step is possible, but perhaps such a wake-up. The main thread can move
unless it waits for a mover (`Staffed.exists_mainStep`), and a mover can move unless it is gone or
sleeps (`exists_moverStep`). So if the run is quiescent and the main thread is not done, then it
waits for a consumer that sleeps; then nothing is queued, all producers are gone, and no consumer
has an item in its hands. But then all items were popped, and no consumer has one to come
(`finished_of_quiescent`).
-/

namespace Threading.CommandLine

/-! ## What is left to do -/

/-- How many steps a thread has to go, outside its closure. -/
def Stride.left : Stride → Nat
  | created => 6
  | taken => 5
  | raised => 4
  | inside => 3
  | ended => 2
  | lowered => 1
  | gone => 0

/-- How many steps the main thread and the thread of a mover have to go. -/
def Standing.left : Standing → Nat
  | untouched => 11
  | asked => 10
  | granted stride => stride.left + 3
  | started stride => stride.left + 2
  | awaited stride => stride.left + 1
  | joined => 0

/-- What a mover has to do that is to move so many items more, the one at hand included. -/
def Handling.left (more : Nat) : Handling → Nat
  | moving => 4 * more
  | telling _ | losing _ _ => 4 * (more - 1) + 2
  | counting => 4 * (more - 1) + 1

/-- What is to be done about a mover. -/
def Mover.left (items : Nat) (m : Mover) : Nat :=
  (Standing.read m.handle).left + m.handling.left (items - m.moved)

/-- What the main thread has to do besides serving movers. -/
def QueuePlace.left : QueuePlace → Nat
  | starting _ => 2
  | joining _ | collecting _ => 1
  | _ => 0

namespace Stride

theorem left_forward {stride next : Stride} (h : stride.forward = some next) :
    next.left < stride.left := by
  cases stride <;> cases h <;> decide

end Stride

namespace Standing

theorem left_withStride {standing : Standing} {stride next : Stride}
    (hs : standing.stride? = some stride) (hlt : next.left < stride.left) :
    (standing.withStride next).left < standing.left := by
  cases standing with
  | untouched | asked => cases hs
  | joined =>
    cases hs
    exact absurd hlt (Nat.not_lt_zero _)
  | granted | started | awaited =>
    cases hs
    exact Nat.add_lt_add_right hlt _

end Standing

/-- One of the two threads that a handle is about moves on. -/
theorem Mover.left_withHandle {items i n n' : Nat} {m : Mover} {name : ThreadName}
    {standing standing' : Standing} (hhandle : m.handle = standing.handle name (i + 1))
    (hlt : n' + standing'.left < n + standing.left) :
    n' + Mover.left items { m with handle := standing'.handle name (i + 1) } < n + m.left items := by
  simp only [Mover.left, hhandle, Standing.read_handle]
  omega

namespace QueueRun

/-- What is left to do: a consumer that does not sleep may have to look once more. -/
def left (r : QueueRun) : Nat :=
  r.place.left + (r.movers.map (Mover.left r.items)).sum +
    (r.threads - r.queue.poppers.asleep.length)

variable {r r' s : QueueRun} {a : Action} {i : Nat} {m m' : Mover}

theorem Serves.left_lt {name : ThreadName} {place place' : QueuePlace}
    {standing standing' : Standing} {notices : List Notice}
    (h : Serves i name place standing place' standing' notices) :
    place'.left + standing'.left < place.left + standing.left := by
  cases h <;> simp [QueuePlace.left, Standing.left, Stride.left]

/-- A mover changes, and perhaps somebody falls asleep or wakes. -/
theorem left_lt_of_set (hm : r.movers[i]? = some m) (hthreads : s.threads = r.threads)
    (hitems : s.items = r.items) (hmovers : s.movers = r.movers.set i m')
    (hlt : s.place.left + m'.left r.items + (r.threads - s.queue.poppers.asleep.length) <
      r.place.left + m.left r.items + (r.threads - r.queue.poppers.asleep.length)) :
    s.left < r.left := by
  have hset := sum_map_set_add (f := Mover.left r.items) hm m'
  rw [left, left, hthreads, hitems, hmovers]
  omega

/-- A push wakes one consumer at most. -/
theorem asleep_of_push {q : BlockingQueue UInt32} {value : UInt32} {chosen : Option ThreadId}
    {e : Effect (BlockingQueue UInt32) (BlockingQueue.Outcome UInt32)}
    (he : q.step (.push value true chosen) = some e) :
    q.poppers.asleep.length ≤ e.state.poppers.asleep.length + 1 := by
  cases BlockingQueue.transition_of_push he with
  | refuse | push => exact Nat.le_succ _
  | wake _ ht =>
    dsimp only
    rw [List.length_erase_of_mem ht]
    omega

/-- A thread that takes an item wakes nobody, and a thread that finds none sleeps. -/
theorem asleep_of_pop {q : BlockingQueue UInt32} {b : BlockingQueue.Action UInt32} {t : ThreadId}
    {e : Effect (BlockingQueue UInt32) (BlockingQueue.Outcome UInt32)}
    (hb : b = .pop t ∨ b = .look t) (he : q.step b = some e) :
    e.state.poppers.asleep.length = q.poppers.asleep.length ∧ (∃ value, e.outcome = .popped value) ∨
      e.state.poppers.asleep.length = q.poppers.asleep.length + 1 ∧ e.outcome = .asleep := by
  cases BlockingQueue.transition_of_step he with
  | take | takeWoken => exact .inl ⟨rfl, _, rfl⟩
  | sleep | sleepOn => exact .inr ⟨List.length_append, rfl⟩
  | _ => simp at hb

/-- Every step leaves less to do, but a thread that wakes for no reason may have to look again. -/
theorem Transition.left_add_le (ht : Transition r a r') (hs : r.Staffed) (hw : r.Watched) :
    r'.left + (!a.isStir).toNat ≤ r.left + a.isStir.toNat := by
  have hasleep' := (ht.watched hw).length_asleep_le (ht.staffed hs)
  cases ht with
  | serve hm hhandle hserve =>
    refine left_lt_of_set hm rfl rfl rfl (Nat.add_lt_add_right ?_ _)
    exact Mover.left_withHandle hhandle hserve.left_lt
  | turn hplace | print hplace =>
    simp only [left, hplace, QueuePlace.left, Action.isStir, Bool.not_false, Bool.toNat_true,
      Bool.toNat_false]
    omega
  | advance hm hhandle hstride hnext =>
    have hlt := Standing.left_withStride hstride (Stride.left_forward hnext)
    refine left_lt_of_set hm rfl rfl rfl (Nat.add_lt_add_right ?_ _)
    exact Mover.left_withHandle hhandle (Nat.add_lt_add_left hlt _)
  | finish hm hhandle hstride =>
    have hlt := Standing.left_withStride hstride
      (show Stride.ended.left < Stride.inside.left by decide)
    refine left_lt_of_set hm rfl rfl rfl (Nat.add_lt_add_right ?_ _)
    exact Mover.left_withHandle hhandle (Nat.add_lt_add_left hlt _)
  | push hm _ hmoving hlt _ hpush =>
    have hasleep := asleep_of_push hpush
    refine left_lt_of_set hm rfl rfl rfl ?_
    simp only [Mover.left, hmoving, Handling.left]
    omega
  | pop hm _ hmoving hlt _ hb hpop ho =>
    have hasleep := asleep_of_pop hb hpop
    rw [ho] at hasleep
    have hsame := (hasleep.resolve_right fun h => nomatch h.2).1
    refine left_lt_of_set hm rfl rfl rfl ?_
    simp only [Mover.left, hmoving, Handling.left, hsame]
    omega
  | sleep _ _ _ _ _ hb hpop ho =>
    have hasleep := asleep_of_pop hb hpop
    rw [ho] at hasleep
    have hmore := (hasleep.resolve_left fun ⟨_, h⟩ => nomatch h).1
    rw [left, left]
    dsimp only [Action.isStir] at hasleep' ⊢
    rw [hmore] at hasleep' ⊢
    simp only [Bool.not_false, Bool.toNat_true, Bool.toNat_false]
    omega
  | tellPushed hm _ hh | count hm _ hh =>
    refine left_lt_of_set hm rfl rfl rfl (Nat.add_lt_add_right (Nat.add_lt_add_left ?_ _) _)
    simp only [Mover.left, Mover.proceed, hh, Handling.left]
    omega
  | tellPopped hm _ hh =>
    refine left_lt_of_set hm rfl rfl rfl (Nat.add_lt_add_right (Nat.add_lt_add_left ?_ _) _)
    simp only [Mover.left, hh, Handling.left]
    omega
  | stir hstir =>
    cases BlockingQueue.transition_of_step hstir with
    | stir ht =>
      rw [left, left]
      dsimp only [Action.isStir]
      rw [List.length_erase_of_mem ht]
      simp only [Bool.not_true, Bool.toNat_true, Bool.toNat_false]
      omega

/-! ## When nobody can move -/

/-- Nobody can move, but perhaps somebody wakes for no reason. -/
def Quiescent (r : QueueRun) : Prop :=
  ∀ a : Action, a.isGranted = true → a.isStir = false → r.step a = none

/-- No agent can move. -/
def Idle (r : QueueRun) : Prop := ∀ agent < r.agents, r.move agent = none

theorem Quiescent.idle (h : r.Quiescent) : r.Idle := by
  intro agent _
  cases agent with
  | zero => exact h (.main none) rfl rfl
  | succ i => exact h (.mover i true r.queue.poppers.first) rfl rfl

/-- The main thread can start a mover. -/
theorem exists_start {k : Nat} (hs : r.Staffed) (hplace : r.place = .starting k) :
    r.mainStep none ≠ none := by
  simp only [mainStep.eq_def, hplace]
  cases hm : r.movers[k]? with
  | none => exact Option.some_ne_none _
  | some m =>
    obtain ⟨name, standing, hhandle, hallows, -⟩ := (hs.placed k m hm).standing
    rw [hplace] at hallows
    obtain ⟨e, he⟩ : ∃ e, m.handle.step (startAction m.handle k none) = some e := by
      rw [hhandle]
      obtain rfl | rfl | ⟨stride, rfl⟩ := allows_starting hallows rfl
      · exact ⟨_, Standing.step_start⟩
      · exact ⟨_, Standing.step_spawn name (Nat.succ_ne_zero k)⟩
      · exact ⟨_, Standing.step_started name (k + 1) stride⟩
    simp only [he, Option.bind_eq_bind, Option.bind_some]
    split <;> exact Option.some_ne_none _

/-- The main thread can join a mover that it started. -/
theorem exists_join {k : Nat} (hs : r.Staffed) (hplace : r.place = .joining k) :
    r.mainStep none ≠ none := by
  simp only [mainStep.eq_def, hplace]
  cases hm : r.movers[k]? with
  | none => exact Option.some_ne_none _
  | some m =>
    obtain ⟨name, standing, hhandle, hallows, -⟩ := (hs.placed k m hm).standing
    rw [hplace] at hallows
    obtain ⟨stride, rfl⟩ := allows_joining hallows rfl
    simp only [hhandle, Standing.step_join (Nat.succ_ne_zero k), Option.bind_eq_bind,
      Option.bind_some]
    exact Option.some_ne_none _

/-- The main thread is done, or waits for a mover that is not gone. -/
theorem Idle.place (h : r.Idle) (hs : r.Staffed) : r.place = .finished ∨
    ∃ k m name stride, r.place = .collecting k ∧ r.movers[k]? = some m ∧
      m.handle = (Standing.awaited stride).handle name (k + 1) ∧ stride ≠ .gone := by
  have hmain : r.mainStep none = none := h 0 (Nat.succ_pos _)
  have hwithin := hs.main
  cases hplace : r.place with
  | finished => exact .inl rfl
  | failed error =>
    rw [hplace] at hwithin
    exact hwithin.elim
  | starting k => exact absurd hmain (exists_start hs hplace)
  | joining k => exact absurd hmain (exists_join hs hplace)
  | collecting k =>
    rw [hplace] at hwithin
    have hm := List.getElem?_eq_getElem hwithin
    obtain ⟨name, standing, hhandle, hallows, -⟩ := (hs.placed k _ hm).standing
    rw [hplace] at hallows
    obtain ⟨stride, rfl⟩ := allows_collecting hallows rfl
    refine .inr ⟨k, _, name, stride, rfl, hm, hhandle, ?_⟩
    rintro rfl
    simp [mainStep, hplace, hm, hhandle, Standing.step_joined] at hmain

/-- A producer can push. -/
theorem exists_pushStep (r : QueueRun) (i : Nat) (m : Mover) :
    r.pushStep i true r.queue.poppers.first m ≠ none := by
  obtain ⟨e, he⟩ := r.queue.exists_push_first (item i m.moved) true
  simp only [pushStep, he, Option.bind_eq_bind, Option.bind_some]
  exact Option.some_ne_none _

/-- A consumer that cannot pop, nor look again, sleeps. -/
theorem asleep_of_popStep (h : r.popStep i m = none) :
    i + 1 ∈ r.queue.poppers.asleep ∧ i + 1 ∉ r.queue.poppers.woken := by
  have hstep : r.queue.step (if r.queue.poppers.holds (i + 1) then .look (i + 1)
      else .pop (i + 1)) = none := by
    rw [popStep] at h
    refine Option.eq_none_iff_forall_ne_some.2 fun e he => ?_
    simp only [he, Option.bind_eq_bind, Option.bind_some] at h
    split at h
    · cases h
    · next ho => exact absurd ho (BlockingQueue.transition_of_step he).ne_wokeEmpty
    · cases h
  cases hholds : r.queue.poppers.holds (i + 1) with
  | false =>
    rw [hholds] at hstep
    obtain ⟨e, he⟩ := BlockingQueue.exists_pop hholds
    exact absurd (hstep.symm.trans he) (Option.some_ne_none e).symm
  | true =>
    rw [hholds] at hstep
    have hwoken := BlockingQueue.step_look_eq_none_iff.1 hstep
    rw [Condition.holds, Bool.or_eq_true, List.contains_iff_mem, List.contains_iff_mem] at hholds
    exact ⟨hholds.resolve_right hwoken, hwoken⟩

/-- A mover in its closure that cannot move is a consumer that sleeps. -/
theorem asleep_of_insideStep (hs : r.Staffed) (hm : r.movers[i]? = some m) (hin : m.IsInside i)
    (h : r.insideStep i true r.queue.poppers.first m = none) :
    r.threads ≤ i ∧ m.handling = .moving ∧ m.moved < r.items ∧
      i + 1 ∈ r.queue.poppers.asleep ∧ i + 1 ∉ r.queue.poppers.woken := by
  obtain ⟨name, standing, hhandle, -⟩ := (hs.placed i m hm).standing
  rw [insideStep.eq_def] at h
  cases hh : m.handling with
  | moving =>
    simp only [hh] at h
    split at h
    · have hstride := (Mover.isInside_iff hhandle).1 hin
      rw [hhandle, Standing.step_ended hstride (Nat.succ_ne_zero i)] at h
      cases h
    · next hle =>
      split at h
      · exact absurd h (exists_pushStep r i m)
      · next hi => exact ⟨Nat.le_of_not_lt hi, rfl, Nat.lt_of_not_le hle, asleep_of_popStep h⟩
  | telling value =>
    simp only [hh] at h
    split at h <;> cases h
  | losing value error => simp [hh] at h
  | counting => simp [hh] at h

/-- A mover that cannot move did not begin, or is gone, or is a consumer that sleeps. -/
theorem Idle.mover (h : r.Idle) (hs : r.Staffed) (hm : r.movers[i]? = some m) {name : ThreadName}
    {standing : Standing} {stride : Stride} (hhandle : m.handle = standing.handle name (i + 1))
    (hstride : standing.stride? = some stride) :
    stride = .gone ∨ r.threads ≤ i ∧ m.handling = .moving ∧ m.moved < r.items ∧
      i + 1 ∈ r.queue.poppers.asleep ∧ i + 1 ∉ r.queue.poppers.woken := by
  have hi := (List.getElem?_eq_some_iff.1 hm).1
  have hmove : r.moverStep i true r.queue.poppers.first = none := h (i + 1) (Nat.succ_lt_succ hi)
  by_cases hin : m.IsInside i
  · rw [moverStep_of_inside hm hin] at hmove
    exact .inr (asleep_of_insideStep hs hm hin hmove)
  · rw [moverStep_of_outside hm hhandle hin, hhandle, Option.map_eq_none_iff] at hmove
    refine .inl ?_
    cases stride with
    | gone => rfl
    | inside => exact absurd ((Mover.isInside_iff hhandle).2 hstride) hin
    | created | taken | raised | ended | lowered =>
      obtain ⟨e, he⟩ := Standing.exists_advance hstride rfl
      exact absurd (hmove.symm.trans he) (Option.some_ne_none e).symm

/-- A mover that is gone moved all its items. -/
theorem Staffed.moved_of_gone (hs : r.Staffed) (hm : r.movers[i]? = some m) {name : ThreadName}
    {standing : Standing} (hhandle : m.handle = standing.handle name (i + 1))
    (hstride : standing.stride? = some .gone) : m.moved = r.items ∧ m.handling = .moving := by
  have hbusy := ((hs.placed i m hm).of_handle hhandle).2
  rwa [hstride] at hbusy

/-- A run in which nobody can move is at its end: no consumer sleeps, since nothing is queued, and
    all items were popped. -/
theorem Idle.finished (h : r.Idle) (hs : r.Staffed) (hb : r.account.Balanced) (hw : r.Watched) :
    r.place = .finished := by
  refine (h.place hs).resolve_right ?_
  rintro ⟨k, m, name, stride, hplace, hm, hhandle, hgone⟩
  obtain ⟨hk, hmoving, hlt, hasleep, -⟩ := (h.mover hs hm hhandle rfl).resolve_left hgone
  -- Every mover was started, so it is gone or sleeps.
  have hmovers (i : Nat) (x : Mover) (hx : r.movers[i]? = some x) : x.handling = .moving ∧
      (x.moved = r.items ∨ r.threads ≤ i ∧ x.moved < r.items) := by
    obtain ⟨name', standing, hhandle', hallows, -⟩ := (hs.placed i x hx).standing
    rw [hplace] at hallows
    obtain ⟨stride', hstride⟩ : ∃ stride', standing.stride? = some stride' := by
      cases standing <;> first | exact hallows.elim | exact ⟨_, rfl⟩
    rcases h.mover hs hx hhandle' hstride with rfl | ⟨hi, hmoving', hlt', -⟩
    · obtain ⟨hmoved, hmoving'⟩ := hs.moved_of_gone hx hhandle' hstride
      exact ⟨hmoving', .inl hmoved⟩
    · exact ⟨hmoving', .inr ⟨hi, hlt'⟩⟩
  have hwoken : r.queue.poppers.woken = [] := by
    refine List.eq_nil_iff_forall_not_mem.2 fun t ht => ?_
    obtain ⟨i, x, rfl, hx, -, hseeking⟩ := hw.seeks t (List.mem_append_right _ ht)
    obtain ⟨name', standing, hhandle', -⟩ := (hs.placed i x hx).standing
    have hinside := (Mover.isInside_iff hhandle').1 hseeking.inside
    rcases h.mover hs hx hhandle' hinside with hgone | ⟨-, -, -, -, hnot⟩
    · cases hgone
    · exact hnot ht
  have hempty : r.account.queued.length = 0 := by
    have hsize := hw.enough (List.ne_nil_of_mem hasleep)
    rw [show r.queue.stock.takers.woken = [] from hwoken] at hsize
    rw [account, List.length_map]
    exact Nat.le_zero.1 hsize
  have hsettled : r.account.Settled r.items := by
    refine hb.settled (fun x hx => ?_) fun x hx => ?_
    · obtain ⟨i, y, hy, hi, rfl⟩ := exists_of_mem_pushing hx
      obtain ⟨hmoving', hmoved⟩ := hmovers i y hy
      exact Prod.ext (hmoved.resolve_right fun h => Nat.not_lt.2 h.1 hi) hmoving'
    · obtain ⟨i, y, hy, -, rfl⟩ := exists_of_mem_popping hx
      exact (hmovers i y hy).1
  -- The consumer that sleeps popped less than its part, and no consumer popped more.
  have hless : r.account.popped < r.threads * r.items := by
    rw [hb.popped, ← hs.length_popping]
    have hmem : entry m ∈ r.account.popping := List.mem_of_getElem? (getElem?_popping hm hk)
    refine sum_map_lt (fun x hx => ?_) hmem hlt
    obtain ⟨i, y, hy, -, rfl⟩ := exists_of_mem_popping hx
    exact (hmovers i y hy).2.elim Nat.le_of_eq fun h => Nat.le_of_lt h.2
  have htotal := hsettled.total
  rw [hempty, hs.length_pushing] at htotal
  omega

end QueueRun

end Threading.CommandLine

import Threading.CommandLine.Program
import Threading.Proofs.CommandLine.QueueEnd
import Threading.Proofs.Schedule

/-!
# Every item is moved once

The laws of a run of producers and consumers, kept by every step (`Lawful`, `Transition.lawful`): its
threads fit together, its items are accounted for, who waits is known, and the main thread prints
the number of items that were counted when it is done. When it is done, nobody moves any more
(`Lawful.not_transition`).

So if all threads can be created and memory never ends, then every run, in whatever order its steps
are taken, comes to its end, and by then every item was pushed once and popped once
(`every_item_moved`): the number of steps is bounded, but for threads that wake for no reason; as
long as the main thread is not done somebody can move; and what was told by consumers is what was
told by producers, each item as often. The run that the program computes is one of them.
-/

namespace Threading.CommandLine

open scoped List

/-- The items that producers told to have pushed. -/
def pushedIn (log : List Record) : List Nat := log.filterMap (Record.item? "Producer" "pushed")

/-- The items that consumers told to have popped. -/
def poppedIn (log : List Record) : List Nat := log.filterMap (Record.item? "Consumer" "popped")

namespace QueueRun

/-- The laws of a run of so many producers, consumers and items. -/
structure Lawful (threads items : Nat) (r : QueueRun) : Prop where
  threads : r.threads = threads
  items : r.items = items
  staffed : r.Staffed
  balanced : r.account.Balanced
  watched : r.Watched
  printed : r.place = .finished → r.printed = some r.summary

variable {threads items : Nat} {r r' : QueueRun} {a : Action}

/-! ## The beginning -/

theorem placed_mover (label : String) (index i : Nat) :
    (mover label index).Placed threads items (.starting 0) i where
  standing := ⟨.ofString s!"{label}-{index}", .untouched, rfl, Nat.zero_le i, rfl, rfl⟩
  counting h := Handling.noConfusion h
  not_losing _ _ h := Handling.noConfusion h

/-- Every mover was made for a producer or for a consumer. -/
theorem mover_of_create {m : Mover} (hm : m ∈ (create threads items).movers) :
    ∃ label index, m = mover label index := by
  rcases List.mem_append.1 hm with hm | hm
  all_goals
    obtain ⟨index, -, rfl⟩ := List.mem_map.1 hm
    exact ⟨_, index, rfl⟩

theorem length_create : (create threads items).movers.length = threads + threads := by
  simp [create]

theorem staffed_create : (create threads items).Staffed where
  length := length_create
  placed i m hm := by
    obtain ⟨label, index, rfl⟩ := mover_of_create (List.mem_of_getElem? hm)
    exact placed_mover label index i
  main := trivial

theorem account_create : (create threads items).account = .untouched threads := by
  have hentries : (create threads items).movers.map entry =
      List.replicate (threads + threads) (0, .moving) := by
    refine List.eq_replicate_iff.2 ⟨by rw [List.length_map, length_create], fun x hx => ?_⟩
    obtain ⟨m, hm, rfl⟩ := List.mem_map.1 hx
    obtain ⟨label, index, rfl⟩ := mover_of_create hm
    rfl
  rw [account, hentries]
  simp [create, Account.untouched]

theorem lawful_create : (create threads items).Lawful threads items where
  threads := rfl
  items := rfl
  staffed := staffed_create
  balanced := account_create ▸ Account.balanced_untouched threads
  watched := ⟨fun h => absurd rfl h, List.nodup_nil, fun _ ht => absurd ht List.not_mem_nil⟩
  printed h := QueuePlace.noConfusion h

theorem left_create : (create threads items).left = 23 * threads + 8 * (threads * items) + 2 := by
  have hsum : ((create threads items).movers.map (Mover.left items)).sum =
      (threads + threads) * (11 + 4 * items) := by
    rw [← @length_create threads items, ← List.sum_replicate_nat, ← List.map_const']
    congr 1
    refine List.map_congr_left fun m hm => ?_
    obtain ⟨label, index, rfl⟩ := mover_of_create hm
    rfl
  have hdistrib : (threads + threads) * (11 + 4 * items) = 22 * threads + 8 * (threads * items) := by
    rw [Nat.mul_add, Nat.add_mul, Nat.mul_left_comm, Nat.add_mul]
    omega
  change 2 + ((create threads items).movers.map (Mover.left items)).sum + (threads - 0) = _
  rw [hsum, hdistrib]
  omega

/-! ## Every step -/

theorem Serves.place_ne {i : Nat} {name : ThreadName} {place place' : QueuePlace}
    {standing standing' : Standing} {notices : List Notice}
    (h : Serves i name place standing place' standing' notices) : place' ≠ .finished := by
  cases h <;> exact fun hplace => QueuePlace.noConfusion hplace

/-- Only when all movers were joined the main thread is done. -/
theorem Transition.printed (ht : Transition r a r') (hplace : r'.place = .finished) :
    r.place = .finished ∨ r'.printed = some r'.summary := by
  cases ht with
  | serve _ _ hserve => exact absurd hplace hserve.place_ne
  | turn => cases hplace
  | print => exact .inr rfl
  | _ => exact .inl hplace

/-- When the main thread is done, all movers were joined. -/
theorem Staffed.joined (hs : r.Staffed) (hplace : r.place = .finished) {i : Nat} {m : Mover}
    (hm : r.movers[i]? = some m) :
    ∃ name, m.handle = Standing.joined.handle name (i + 1) := by
  obtain ⟨name, standing, hhandle, hallows, -⟩ := (hs.placed i m hm).standing
  rw [hplace] at hallows
  cases standing <;> first | exact hallows.elim | exact ⟨name, hhandle⟩

/-- Nobody waits for an item when the main thread is done. -/
theorem Lawful.not_mem_waiting (h : r.Lawful threads items) (hplace : r.place = .finished)
    (t : ThreadId) : t ∉ r.queue.stock.waiting := by
  intro ht
  obtain ⟨i, m, rfl, hm, -, hseeking⟩ := h.watched.seeks t ht
  obtain ⟨name, hhandle⟩ := h.staffed.joined hplace hm
  cases (Mover.isInside_iff hhandle).1 hseeking.inside

/-- When the main thread is done, nobody moves any more. -/
theorem Lawful.not_transition (h : r.Lawful threads items) (hplace : r.place = .finished) :
    ¬Transition r a r' := by
  have hinside {i : Nat} {m : Mover} (hm : r.movers[i]? = some m) : ¬m.IsInside i := by
    intro hin
    obtain ⟨name, hhandle⟩ := h.staffed.joined hplace hm
    cases (Mover.isInside_iff hhandle).1 hin
  have hstride {i : Nat} {m : Mover} {name : ThreadName} {standing : Standing}
      (hm : r.movers[i]? = some m) (hhandle : m.handle = standing.handle name (i + 1)) :
      standing.stride? = some .gone := by
    obtain ⟨name', hjoined⟩ := h.staffed.joined hplace hm
    obtain rfl := Standing.handle_injective (hhandle.symm.trans hjoined)
    rfl
  intro ht
  cases ht with
  | serve _ _ hserve =>
    rw [hplace] at hserve
    cases hserve
  | turn hstarting => cases hplace.symm.trans hstarting
  | print hjoining => cases hplace.symm.trans hjoining
  | advance hm hhandle hs hnext =>
    obtain rfl := Option.some.inj (hs.symm.trans (hstride hm hhandle))
    cases hnext
  | finish hm hhandle hs => cases hs.symm.trans (hstride hm hhandle)
  | push hm hin | tellPushed hm hin | pop hm hin | sleep hm hin | tellPopped hm hin | count hm hin =>
    exact hinside hm hin
  | stir hstir =>
    cases BlockingQueue.transition_of_step hstir with
    | stir ht => exact h.not_mem_waiting hplace _ (List.mem_append_left _ ht)

/-- Nobody changes how many threads and items there are. -/
theorem Transition.same_size (ht : Transition r a r') :
    r'.threads = r.threads ∧ r'.items = r.items := by
  cases ht <;> exact ⟨rfl, rfl⟩

/-- Every step keeps the laws. -/
theorem Transition.lawful (ht : Transition r a r') (h : r.Lawful threads items) :
    r'.Lawful threads items where
  threads := ht.same_size.1.trans h.threads
  items := ht.same_size.2.trans h.items
  staffed := ht.staffed h.staffed
  balanced := ht.moves.balanced h.balanced
  watched := ht.watched h.watched
  printed hplace := (ht.printed hplace).resolve_left fun hbefore => h.not_transition hbefore ht

/-- A step with all threads created, and memory without end, keeps the laws, and leaves less to do
    unless somebody wakes for no reason. -/
theorem Lawful.step (h : r.Lawful threads items) (ha : a.isGranted = true)
    (he : r.step a = some r') :
    r'.Lawful threads items ∧ r'.left + (!a.isStir).toNat ≤ r.left + a.isStir.toNat := by
  have ht := transition_of_step h.staffed ha he
  exact ⟨ht.lawful h, ht.left_add_le h.staffed h.watched⟩

/-! ## The end -/

/-- When the main thread is done, all items were told by a producer and by a consumer, none is left
    in the queue, and all were counted. -/
structure AllMoved (threads items : Nat) (r : QueueRun) : Prop where
  popped : r.popped = threads * items
  empty : r.queue.items = []
  pushed : pushedIn r.log ~ Account.supply threads items
  passed : poppedIn r.log ~ pushedIn r.log

theorem Lawful.allMoved (h : r.Lawful threads items) (hplace : r.place = .finished)
    (hfits : ∀ i < threads, ∀ j < items, 100 * i + j < 2 ^ 32) : r.AllMoved threads items := by
  have hentry {i : Nat} {m : Mover} (hm : r.movers[i]? = some m) : entry m = (items, .moving) := by
    obtain ⟨name, hhandle⟩ := h.staffed.joined hplace hm
    obtain ⟨hmoved, hmoving⟩ := h.staffed.moved_of_gone hm hhandle rfl
    exact Prod.ext (hmoved.trans h.items) hmoving
  have hpushing (x : Nat × Handling) (hx : x ∈ r.account.pushing) : x = (items, .moving) := by
    obtain ⟨i, m, hm, -, rfl⟩ := exists_of_mem_pushing hx
    exact hentry hm
  have hpopping (x : Nat × Handling) (hx : x ∈ r.account.popping) : x = (items, .moving) := by
    obtain ⟨i, m, hm, -, rfl⟩ := exists_of_mem_popping hx
    exact hentry hm
  have hsettled : r.account.Settled items :=
    h.balanced.settled hpushing fun x hx => congrArg Prod.snd (hpopping x hx)
  have hlength : r.account.pushing.length = threads := h.staffed.length_pushing.trans h.threads
  -- All consumers counted as many items.
  have hpopped : r.popped = threads * items := by
    have hparts : r.account.popping.map Prod.fst = List.replicate threads items := by
      refine List.eq_replicate_iff.2 ⟨?_, fun n hn => ?_⟩
      · rw [List.length_map, h.staffed.length_popping, h.threads]
      · obtain ⟨x, hx, rfl⟩ := List.mem_map.1 hn
        rw [hpopping x hx]
    have hsum := h.balanced.popped
    rwa [hparts, List.sum_replicate_nat] at hsum
  have hempty : r.account.queued = [] := by
    have htotal := hsettled.total
    rw [hlength, show r.account.popped = threads * items from hpopped] at htotal
    exact List.length_eq_zero_iff.1 (Nat.add_eq_left.1 htotal)
  have hconserved := hsettled.conserved
  rw [hempty, List.append_nil] at hconserved
  refine ⟨hpopped, List.map_eq_nil_iff.1 hempty, ?_, hconserved.symm⟩
  have htold := hsettled.told
  rwa [Account.flatten_done (hlength ▸ hfits) hpushing, hlength] at htold

/-- What the main thread prints when all items were moved. -/
def fullCount (threads items : Nat) : String :=
  s!"popped {threads * items} items, 0 left in queue"

theorem AllMoved.summary_eq (h : r.AllMoved threads items) :
    r.summary = fullCount threads items := by
  rw [summary, h.popped, BlockingQueue.length, h.empty, fullCount, ← String.toList_inj]
  simp [toString]

/-- What is known of a run that got to `r` by the steps `as`. -/
structure MovesAll (threads items : Nat) (as : List Action) (r : QueueRun) : Prop where
  /-- The run comes to an end, unless threads keep waking for no reason. -/
  bounded : as.countP (fun a => !a.isStir) ≤
    23 * threads + 8 * (threads * items) + 2 + as.countP Action.isStir
  not_failed : ∀ error, r.place ≠ .failed error
  /-- As long as the main thread is not done, somebody can move, -/
  finished : r.Quiescent → r.place = .finished
  /-- and when nobody can, nobody waits for an item. -/
  not_blocked : r.Quiescent → r.queue.stock.waiting = []
  /-- When the main thread is done, all items were moved, and it printed their number. -/
  delivered : r.place = .finished →
    r.AllMoved threads items ∧ r.printed = some (fullCount threads items)

/-- A run obeys its laws. -/
theorem lawful_of_path {as : List Action} (has : ∀ a ∈ as, a.isGranted = true)
    (h : Schedule.Path step (create threads items) as r) : r.Lawful threads items :=
  h.invariant has (fun _ u => u.Lawful threads items) lawful_create
    fun _ _ _ _ hu ha he => (hu.step ha he).1

theorem movesAll_of_path {as : List Action} (has : ∀ a ∈ as, a.isGranted = true)
    (h : Schedule.Path step (create threads items) as r)
    (hfits : ∀ i < threads, ∀ j < items, 100 * i + j < 2 ^ 32) : MovesAll threads items as r := by
  have hr := lawful_of_path has h
  have hfinished (hq : r.Quiescent) : r.place = .finished :=
    hq.idle.finished hr.staffed hr.balanced hr.watched
  refine ⟨?_, fun error hplace => ?_, hfinished, fun hq => ?_, fun hplace => ?_⟩
  · have hbound := h.countP_le has (fun u => u.Lawful threads items) lawful_create left
      Action.isStir fun _ _ _ hu ha he => hu.step ha he
    rw [left_create] at hbound
    omega
  · have hmain := hr.staffed.main
    rw [hplace] at hmain
    exact hmain
  · exact List.eq_nil_iff_forall_not_mem.2 (hr.not_mem_waiting (hfinished hq))
  · have hall := hr.allMoved hplace hfits
    exact ⟨hall, (hr.printed hplace).trans (congrArg some hall.summary_eq)⟩

/-! ## The run that the program computes -/

/-- What an agent does next is a step with all threads created, and memory without end. -/
theorem exists_step_of_move {agent : Nat} (h : r.move agent = some r') :
    ∃ a : Action, a.isGranted = true ∧ a.isStir = false ∧ r.step a = some r' := by
  cases agent with
  | zero => exact ⟨.main none, rfl, rfl, h⟩
  | succ i => exact ⟨.mover i true r.queue.poppers.first, rfl, rfl, h⟩

/-- The computed run gets to its end. -/
theorem finish_create : (create threads items).finish.Lawful threads items ∧
    (create threads items).finish.place = .finished := by
  have hmove (u : QueueRun) (agent : Nat) (v : QueueRun) (hu : u.Lawful threads items)
      (hv : u.move agent = some v) : v.Lawful threads items ∧ v.left < u.left := by
    obtain ⟨a, ha, hstir, he⟩ := exists_step_of_move hv
    have hstep := hu.step ha he
    rwa [hstir] at hstep
  have hrounds : (create threads items).left ≤ 16 * (threads * (items + 2) + 2) := by
    rw [left_create, Nat.mul_add threads]
    omega
  have hfuel : 0 < 16 * (threads * (items + 2) + 2) := by omega
  obtain ⟨hlawful, hidle⟩ := Schedule.settled_settle hmove agents hfuel lawful_create hrounds
  exact ⟨hlawful, Idle.finished hidle hlawful.staffed hlawful.balanced hlawful.watched⟩

end QueueRun

/-- The program ends well: it prints the number of items, and the records tell that each of them
    was pushed once and popped once. -/
structure MovedOutput (threads items : Nat) (output : Output) : Prop where
  code : output.code = 0
  stdout : output.stdout = QueueRun.fullCount threads items ++ "\n"
  pushed : pushedIn output.log ~ Account.supply threads items
  passed : poppedIn output.log ~ pushedIn output.log

theorem movedOutput {threads items : Nat}
    (hfits : ∀ i < threads, ∀ j < items, 100 * i + j < 2 ^ 32) :
    MovedOutput threads items (runQueue threads items) := by
  obtain ⟨hr, hplace⟩ := @QueueRun.finish_create threads items
  have hall := hr.allMoved hplace hfits
  have hprinted := (hr.printed hplace).trans (congrArg some hall.summary_eq)
  have hreverse (role verb : String) (log : List Record) :
      log.reverse.filterMap (Record.item? role verb) ~ log.filterMap (Record.item? role verb) := by
    rw [List.filterMap_reverse]
    exact List.reverse_perm _
  simp only [runQueue, hplace, hprinted]
  exact ⟨rfl, rfl, (hreverse ..).trans hall.pushed,
    ((hreverse ..).trans hall.passed).trans (hreverse ..).symm⟩

/-- If the numbers of the items fit into 32 bits, all threads are created and memory never ends,
    then every run of producers and consumers moves every item once and comes to its end, whatever
    the order of its steps; and so does the run that the program computes. -/
theorem every_item_moved (threads items : Nat)
    (h : 100 * ((threads : Int) - 1) + items - 1 < (2 ^ 32 : Nat)) :
    (∀ (as : List QueueRun.Action) (r : QueueRun), (∀ a ∈ as, a.isGranted = true) →
      Schedule.Path QueueRun.step (QueueRun.create threads items) as r →
      QueueRun.MovesAll threads items as r) ∧
    MovedOutput threads items (runQueue threads items) := by
  have hfits : ∀ i < threads, ∀ j < items, 100 * i + j < 2 ^ 32 := by
    intro i hi j hj
    omega
  exact ⟨fun as r has hpath => QueueRun.movesAll_of_path has hpath hfits, movedOutput hfits⟩

/-- The consumer sleeps, wakes for no reason, and sleeps on, before the producer pushes. And if two
    producers have 101 items each, then both push the item `100`. -/
theorem every_item_moved_after_wake_up_for_no_reason :
    (∃ (as : List QueueRun.Action) (r : QueueRun), (∀ a ∈ as, a.isGranted = true) ∧
      Schedule.Path QueueRun.step (QueueRun.create 1 1) as r ∧
      as.countP QueueRun.Action.isStir = 1 ∧ QueueRun.MovesAll 1 1 as r ∧
      r.place = .finished ∧ r.AllMoved 1 1 ∧ r.printed = some (QueueRun.fullCount 1 1)) ∧
    (Account.supply 2 101).count 100 = 2 ∧ MovedOutput 2 101 (runQueue 2 101) := by
  refine ⟨?_, by decide, (every_item_moved 2 101 (by decide)).2⟩
  -- Both are started, the consumer sleeps twice, is woken, and is gone, and so is the producer.
  let as : List QueueRun.Action :=
    List.replicate 6 (.main none) ++ List.replicate 4 (.mover 1 true none) ++
      [.stir 2, .mover 1 true none] ++ List.replicate 3 (.mover 0 true none) ++
      [.mover 0 true (some 2)] ++ List.replicate 6 (.mover 1 true none) ++
      List.replicate 4 (.mover 0 true none) ++ List.replicate 6 (.main none)
  obtain ⟨r, hpath, hplace⟩ := Schedule.exists_path QueueRun.step (QueueRun.create 1 1) as
    QueueRun.place .finished (by decide)
  have has : ∀ a ∈ as, a.isGranted = true := by decide
  have hmoves := (every_item_moved 1 1 (by decide)).1 as r has hpath
  exact ⟨as, r, has, hpath, by decide, hmoves, hplace, hmoves.delivered hplace⟩

end Threading.CommandLine

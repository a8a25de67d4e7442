import Threading.Proofs.CommandLine.Staff
import Threading.Proofs.Records

/-!
# Where the items are

What became of the items of a run is its `Account`: how many items each producer and each consumer
is done with, what it does about the next one, the items in the queue, the number of those that
were counted, and the items that the records tell. A step of the run moves one item one place on,
or leaves the account as it is (`Account.Moves`, `Transition.moves`).

The account is `Balanced`: every item that a producer is done with was told once, and what was told
by producers, or is about to be, is in the queue, or in the hands of a consumer, or was told by one.
So when the producers are done and no consumer has an item in its hands, the number of items that
were counted and the number of those left make up all items (`Balanced.settled`).
-/

namespace Threading

open scoped List

/-- The number of the item that a record tells, if these are the role and the verb of the record. -/
def Record.item? (role verb : String) (r : Record) : Option Nat :=
  match r.level, r.message.toList.splitOn ' ' with
  | .info, [who, _, how, number] =>
    if who = role.toList ∧ how = verb.toList then some (Nat.ofDigitChars 10 number 0) else none
  | _, _ => none

namespace CommandLine

/-! ## What the records tell -/

/-- The words of a text of four words, two of them numbers. -/
theorem splitOn_words {role verb : List Char} (hrole : ' ' ∉ role) (hverb : ' ' ∉ verb) (i v : Nat) :
    (role ++ ' ' :: (Nat.toDigits 10 i ++ ' ' :: (verb ++ ' ' :: Nat.toDigits 10 v))).splitOn ' ' =
      [role, Nat.toDigits 10 i, verb, Nat.toDigits 10 v] := by
  have hdigits (n : Nat) : ' ' ∉ Nat.toDigits 10 n := fun h =>
    absurd (Nat.isDigit_of_mem_toDigits (by decide) (by decide) h) (by decide)
  have hsplit : ([' '].intercalate [role, Nat.toDigits 10 i, verb, Nat.toDigits 10 v]).splitOn ' ' =
      [role, Nat.toDigits 10 i, verb, Nat.toDigits 10 v] :=
    List.splitOn_intercalate ' ' (by simp [hrole, hverb, hdigits]) (List.cons_ne_nil _ _)
  simpa [List.intercalate] using hsplit

/-- A record of a producer or a consumer tells its item to those who look for its role and verb. -/
theorem item?_infoRecord {role who verb how message : String} (hwho : ' ' ∉ who.toList)
    (hhow : ' ' ∉ how.toList) {i v : Nat}
    (hmessage : message.toList = who.toList ++ ' ' :: (Nat.toDigits 10 i ++ ' ' ::
      (how.toList ++ ' ' :: Nat.toDigits 10 v))) :
    (infoRecord message).item? role verb = if role = who ∧ verb = how then some v else none := by
  rw [Record.item?, infoRecord, hmessage, splitOn_words hwho hhow]
  simp [Nat.ofDigitChars_toDigits, String.toList_inj, eq_comm]

theorem item?_pushed (i : Nat) (v : UInt32) (role verb : String) :
    (infoRecord s!"Producer {i} pushed {v}").item? role verb =
      if role = "Producer" ∧ verb = "pushed" then some v.toNat else none :=
  item?_infoRecord (i := i) (by decide) (by decide) (by simp [toString])

theorem item?_popped (i : Nat) (v : UInt32) (role verb : String) :
    (infoRecord s!"Consumer {i} popped {v}").item? role verb =
      if role = "Consumer" ∧ verb = "popped" then some v.toNat else none :=
  item?_infoRecord (i := i) (by decide) (by decide) (by simp [toString])

/-- The handles tell nothing about items. -/
theorem item?_notice (role verb : String) (n : Notice) : n.record.item? role verb = none := by
  cases n <;> rfl

theorem filterMap_item?_notices (role verb : String) (notices : List Notice) (log : List Record) :
    ((notices.map Notice.record).reverse ++ log).filterMap (Record.item? role verb) =
      log.filterMap (Record.item? role verb) := by
  rw [List.filterMap_append, List.filterMap_eq_nil_iff.2, List.nil_append]
  intro record hrecord
  obtain ⟨n, -, rfl⟩ := List.mem_map.1 (List.mem_reverse.1 hrecord)
  exact item?_notice role verb n

/-! ## Accounts -/

/-- The item that a producer or a consumer has in its hands: it moved it, and did not say so. -/
def inHand? : Nat × Handling → Option Nat
  | (_, .telling item) => some item.toNat
  | _ => none

/-- A consumer is about to count an item. -/
def isCounting : Nat × Handling → Bool
  | (_, .counting) => true
  | _ => false

/-- What became of the items. -/
@[ext]
structure Account where
  /-- How many items each producer is done with, and what it does about the next one. -/
  pushing : List (Nat × Handling)
  /-- The same of the consumers. -/
  popping : List (Nat × Handling)
  queued : List Nat
  /-- The number of items that were counted. -/
  popped : Nat
  /-- The items that producers told. -/
  toldPushed : List Nat
  /-- The items that consumers told. -/
  toldPopped : List Nat

namespace Account

/-- One item is one place on, or none is. -/
inductive Moves (c : Account) : Account → Prop
  | same : Moves c c
  | push {i j : Nat} : c.pushing[i]? = some (j, .moving) →
    Moves c { c with
      pushing := c.pushing.set i (j, .telling (QueueRun.item i j))
      queued := c.queued ++ [(QueueRun.item i j).toNat] }
  | tellPushed {i j : Nat} {item : UInt32} : c.pushing[i]? = some (j, .telling item) →
    Moves c { c with
      pushing := c.pushing.set i (j + 1, .moving)
      toldPushed := item.toNat :: c.toldPushed }
  | pop {i j : Nat} {item : UInt32} {queued : List Nat} : c.popping[i]? = some (j, .moving) →
    c.queued = item.toNat :: queued →
    Moves c { c with popping := c.popping.set i (j, .telling item), queued }
  | tellPopped {i j : Nat} {item : UInt32} : c.popping[i]? = some (j, .telling item) →
    Moves c { c with
      popping := c.popping.set i (j, .counting)
      toldPopped := item.toNat :: c.toldPopped }
  | count {i j : Nat} : c.popping[i]? = some (j, .counting) →
    Moves c { c with popping := c.popping.set i (j + 1, .moving), popped := c.popped + 1 }

/-- The items that a producer is done with after so many. -/
def done (i : Nat) (entry : Nat × Handling) : List Nat :=
  (List.range entry.1).map fun j => (QueueRun.item i j).toNat

/-- No item is lost, invented or moved twice. -/
structure Balanced (c : Account) : Prop where
  /-- A producer has its own next item in its hands. -/
  own : ∀ i j item, c.pushing[i]? = some (j, .telling item) → item = QueueRun.item i j
  /-- What a producer is done with was told, once. -/
  told : c.toldPushed ~ (c.pushing.mapIdx done).flatten
  /-- What was pushed was popped, or is in the queue. -/
  conserved : c.toldPushed ++ c.pushing.filterMap inHand? ~
    c.toldPopped ++ (c.popping.filterMap inHand? ++ c.queued)
  /-- What a consumer told was counted, or is about to be. -/
  counted : c.toldPopped.length = c.popped + c.popping.countP isCounting
  popped : c.popped = (c.popping.map Prod.fst).sum

variable {c c' : Account}

/-- The account of producers and consumers that moved nothing yet. -/
def untouched (threads : Nat) : Account where
  pushing := List.replicate threads (0, .moving)
  popping := List.replicate threads (0, .moving)
  queued := []
  popped := 0
  toldPushed := []
  toldPopped := []

theorem balanced_untouched (threads : Nat) : (untouched threads).Balanced where
  own i j item hi := by
    cases List.eq_of_mem_replicate (List.mem_of_getElem? hi)
  told := by
    have hnil : ((List.replicate threads (0, Handling.moving)).mapIdx done).flatten = [] := by
      rw [List.flatten_eq_nil_iff]
      intro xs hxs
      obtain ⟨i, hi, rfl⟩ := List.mem_mapIdx.1 hxs
      rw [List.getElem_replicate]
      rfl
    exact .of_eq hnil.symm
  conserved := by simp [untouched, List.filterMap_replicate, inHand?]
  counted := by simp [untouched, List.countP_replicate, isCounting]
  popped := by simp [untouched]

theorem Balanced.push {i j : Nat} (hb : c.Balanced) (hi : c.pushing[i]? = some (j, .moving)) :
    Balanced { c with
      pushing := c.pushing.set i (j, .telling (QueueRun.item i j))
      queued := c.queued ++ [(QueueRun.item i j).toNat] } where
  own k l item hk := by
    rw [List.getElem?_set] at hk
    split at hk
    · next hik =>
      subst hik
      split at hk
      · cases hk
        rfl
      · cases hk
    · exact hb.own k l item hk
  told := by
    have hsame : (c.pushing.mapIdx done)[i]? = some (done i (j, .moving)) := by
      rw [List.getElem?_mapIdx, hi]
      rfl
    dsimp only
    rw [List.mapIdx_set]
    -- The item is in the hands of the producer, so it is not done with it.
    exact (set_self hsame).symm ▸ hb.told
  conserved := by
    have hset := perm_filterMap_set (f := inHand?) hi (j, .telling (QueueRun.item i j))
    simp only [inHand?, Option.toList_none, Option.toList_some, List.nil_append,
      List.singleton_append] at hset
    calc c.toldPushed ++ (c.pushing.set i (j, .telling (QueueRun.item i j))).filterMap inHand?
        ~ c.toldPushed ++ (QueueRun.item i j).toNat :: c.pushing.filterMap inHand? :=
          hset.append_left _
      _ ~ (QueueRun.item i j).toNat :: (c.toldPushed ++ c.pushing.filterMap inHand?) :=
          List.perm_middle
      _ ~ (QueueRun.item i j).toNat :: (c.toldPopped ++ (c.popping.filterMap inHand? ++ c.queued)) :=
          hb.conserved.cons _
      _ ~ c.toldPopped ++ (c.popping.filterMap inHand? ++ c.queued) ++ [(QueueRun.item i j).toNat] :=
          (List.perm_append_singleton _ _).symm
      _ = c.toldPopped ++ (c.popping.filterMap inHand? ++ (c.queued ++ [(QueueRun.item i j).toNat])) := by
          rw [List.append_assoc, List.append_assoc]
  counted := hb.counted
  popped := hb.popped

theorem Balanced.tellPushed {i j : Nat} {item : UInt32} (hb : c.Balanced)
    (hi : c.pushing[i]? = some (j, .telling item)) :
    Balanced { c with
      pushing := c.pushing.set i (j + 1, .moving)
      toldPushed := item.toNat :: c.toldPushed } where
  own k l other hk := by
    rw [List.getElem?_set] at hk
    split at hk
    · split at hk <;> cases hk
    · exact hb.own k l other hk
  told := by
    obtain rfl := hb.own i j item hi
    have hsome : (c.pushing.mapIdx done)[i]? = some (done i (j, .telling (QueueRun.item i j))) := by
      rw [List.getElem?_mapIdx, hi]
      rfl
    have hdone : done i (j + 1, .moving) =
        done i (j, .telling (QueueRun.item i j)) ++ [(QueueRun.item i j).toNat] := by
      rw [done, done, List.range_succ, List.map_append, List.map_singleton]
    have hset := perm_flatten_set hsome (done i (j + 1, .moving))
    rw [hdone, List.append_assoc, List.perm_append_left_iff] at hset
    dsimp only
    rw [List.mapIdx_set, hdone]
    exact (hb.told.cons _).trans hset.symm
  conserved := by
    have hset := perm_filterMap_set (f := inHand?) hi (j + 1, .moving)
    simp only [inHand?, Option.toList_none, Option.toList_some, List.nil_append,
      List.singleton_append] at hset
    calc item.toNat :: c.toldPushed ++ (c.pushing.set i (j + 1, .moving)).filterMap inHand?
        ~ c.toldPushed ++ item.toNat :: (c.pushing.set i (j + 1, .moving)).filterMap inHand? :=
          List.perm_middle.symm
      _ ~ c.toldPushed ++ c.pushing.filterMap inHand? := hset.append_left _
      _ ~ c.toldPopped ++ (c.popping.filterMap inHand? ++ c.queued) := hb.conserved
  counted := hb.counted
  popped := hb.popped

theorem Balanced.pop {i j : Nat} {item : UInt32} {queued : List Nat} (hb : c.Balanced)
    (hi : c.popping[i]? = some (j, .moving)) (hqueued : c.queued = item.toNat :: queued) :
    Balanced { c with popping := c.popping.set i (j, .telling item), queued } where
  own := hb.own
  told := hb.told
  conserved := by
    have hset := perm_filterMap_set (f := inHand?) hi (j, .telling item)
    simp only [inHand?, Option.toList_none, Option.toList_some, List.nil_append,
      List.singleton_append] at hset
    calc c.toldPushed ++ c.pushing.filterMap inHand?
        ~ c.toldPopped ++ (c.popping.filterMap inHand? ++ c.queued) := hb.conserved
      _ = c.toldPopped ++ (c.popping.filterMap inHand? ++ item.toNat :: queued) := by rw [hqueued]
      _ ~ c.toldPopped ++ (item.toNat :: c.popping.filterMap inHand? ++ queued) :=
          List.perm_middle.append_left _
      _ ~ c.toldPopped ++ ((c.popping.set i (j, .telling item)).filterMap inHand? ++ queued) :=
          (hset.symm.append_right _).append_left _
  counted := by
    have hset := countP_set_of_eq (f := isCounting) (b := (j, .telling item)) hi rfl
    exact hset ▸ hb.counted
  popped := by
    have hset := sum_map_set_add (f := Prod.fst) hi (j, .telling item)
    exact hb.popped.trans (Nat.add_right_cancel hset).symm

theorem Balanced.tellPopped {i j : Nat} {item : UInt32} (hb : c.Balanced)
    (hi : c.popping[i]? = some (j, .telling item)) :
    Balanced { c with
      popping := c.popping.set i (j, .counting)
      toldPopped := item.toNat :: c.toldPopped } where
  own := hb.own
  told := hb.told
  conserved := by
    have hset := perm_filterMap_set (f := inHand?) hi (j, .counting)
    simp only [inHand?, Option.toList_none, Option.toList_some, List.nil_append,
      List.singleton_append] at hset
    calc c.toldPushed ++ c.pushing.filterMap inHand?
        ~ c.toldPopped ++ (c.popping.filterMap inHand? ++ c.queued) := hb.conserved
      _ ~ c.toldPopped ++ (item.toNat :: (c.popping.set i (j, .counting)).filterMap inHand? ++
            c.queued) := (hset.symm.append_right _).append_left _
      _ ~ item.toNat :: c.toldPopped ++ ((c.popping.set i (j, .counting)).filterMap inHand? ++
            c.queued) := List.perm_middle
  counted := by
    have hset := countP_set_add (f := isCounting) hi (j, .counting)
    have hcounted := hb.counted
    simp only [isCounting, Bool.toNat_false, Bool.toNat_true] at hset
    simp only [List.length_cons]
    omega
  popped := by
    have hset := sum_map_set_add (f := Prod.fst) hi (j, .counting)
    exact hb.popped.trans (Nat.add_right_cancel hset).symm

theorem Balanced.count {i j : Nat} (hb : c.Balanced) (hi : c.popping[i]? = some (j, .counting)) :
    Balanced { c with popping := c.popping.set i (j + 1, .moving), popped := c.popped + 1 } where
  own := hb.own
  told := hb.told
  conserved := by
    have hset := perm_filterMap_set (f := inHand?) hi (j + 1, .moving)
    exact hb.conserved.trans ((hset.symm.append_right _).append_left _)
  counted := by
    have hset := countP_set_add (f := isCounting) hi (j + 1, .moving)
    have hcounted := hb.counted
    simp only [isCounting, Bool.toNat_false, Bool.toNat_true] at hset
    dsimp only
    omega
  popped := by
    have hset := sum_map_set_add (f := Prod.fst) hi (j + 1, .moving)
    have hpopped := hb.popped
    dsimp only at hset ⊢
    omega

/-- The account is balanced after every step. -/
theorem Moves.balanced (h : c.Moves c') (hb : c.Balanced) : c'.Balanced := by
  cases h with
  | same => exact hb
  | push hi => exact hb.push hi
  | tellPushed hi => exact hb.tellPushed hi
  | pop hi hqueued => exact hb.pop hi hqueued
  | tellPopped hi => exact hb.tellPopped hi
  | count hi => exact hb.count hi

/-! ## What an account comes to -/

/-- The items of so many producers. -/
def supply (threads items : Nat) : List Nat :=
  (List.range threads).flatMap fun i => (List.range items).map fun j => 100 * i + j

/-- What is known when the producers are done, and no consumer has an item in its hands: all items
    were told, each of them was popped or is in the queue, and what was popped was counted. -/
structure Settled (items : Nat) (c : Account) : Prop where
  told : c.toldPushed ~ (c.pushing.mapIdx done).flatten
  conserved : c.toldPushed ~ c.toldPopped ++ c.queued
  popped : c.popped = c.toldPopped.length
  total : c.popped + c.queued.length = c.pushing.length * items

theorem filterMap_inHand?_eq_nil {entries : List (Nat × Handling)}
    (h : ∀ entry ∈ entries, entry.2 = .moving) : entries.filterMap inHand? = [] :=
  List.filterMap_eq_nil_iff.2 fun ⟨j, handling⟩ hentry => by
    obtain rfl : handling = .moving := h _ hentry
    rfl

theorem Balanced.settled {items : Nat} (hb : c.Balanced)
    (hpushing : ∀ entry ∈ c.pushing, entry = (items, .moving))
    (hpopping : ∀ entry ∈ c.popping, entry.2 = .moving) : c.Settled items := by
  have hpushed := filterMap_inHand?_eq_nil fun entry h => congrArg Prod.snd (hpushing entry h)
  have hconserved := hb.conserved
  rw [hpushed, filterMap_inHand?_eq_nil hpopping, List.append_nil, List.nil_append] at hconserved
  have hcounting : c.popping.countP isCounting = 0 :=
    List.countP_eq_zero.2 fun ⟨j, handling⟩ hentry => by
      obtain rfl : handling = .moving := hpopping _ hentry
      exact Bool.false_ne_true
  have hcounted := hb.counted
  rw [hcounting, Nat.add_zero] at hcounted
  refine ⟨hb.told, hconserved, hcounted.symm, ?_⟩
  -- All producers are done with as many items.
  have hdone : (c.pushing.mapIdx done).map List.length = List.replicate c.pushing.length items := by
    refine List.eq_replicate_iff.2 ⟨by simp, fun n hn => ?_⟩
    obtain ⟨xs, hxs, rfl⟩ := List.mem_map.1 hn
    obtain ⟨i, hi, rfl⟩ := List.mem_mapIdx.1 hxs
    rw [hpushing _ (List.getElem_mem hi), done, List.length_map, List.length_range]
  calc c.popped + c.queued.length = (c.toldPopped ++ c.queued).length := by
        rw [List.length_append, hcounted]
    _ = (c.pushing.mapIdx done).flatten.length := by rw [← hconserved.length_eq, hb.told.length_eq]
    _ = c.pushing.length * items := by
        rw [List.length_flatten, hdone, List.sum_replicate_nat]

theorem toNat_item {i j : Nat} (h : 100 * i + j < 2 ^ 32) :
    (QueueRun.item i j).toNat = 100 * i + j := by
  rw [QueueRun.item, UInt32.toNat_add, UInt32.toNat_mul, UInt32.toNat_ofNat', UInt32.toNat_ofNat']
  have hi : i < 2 ^ 32 := by omega
  have hj : j < 2 ^ 32 := by omega
  rw [Nat.mod_eq_of_lt hi, Nat.mod_eq_of_lt hj]
  change (i * 100 % 2 ^ 32 + j) % 2 ^ 32 = 100 * i + j
  omega

/-- What all producers are done with in the end, if the numbers of the items fit. -/
theorem flatten_done {items : Nat} {entries : List (Nat × Handling)}
    (hfits : ∀ i < entries.length, ∀ j < items, 100 * i + j < 2 ^ 32)
    (h : ∀ entry ∈ entries, entry = (items, .moving)) :
    (entries.mapIdx done).flatten = supply entries.length items := by
  rw [supply, List.flatMap_def]
  congr 1
  refine List.ext_getElem (by simp) fun i hi _ => ?_
  have hi : i < entries.length := by simpa using hi
  rw [List.getElem_mapIdx, h _ (List.getElem_mem hi), List.getElem_map, List.getElem_range, done]
  exact List.map_congr_left fun j hj => toNat_item (hfits i hi j (List.mem_range.1 hj))

end Account

namespace QueueRun

/-! ## Every step moves one item at most -/

/-- How many items a mover is done with, and what it does about the next one. -/
def entry (m : Mover) : Nat × Handling := (m.moved, m.handling)

/-- What became of the items. -/
def account (r : QueueRun) : Account where
  pushing := (r.movers.map entry).take r.threads
  popping := (r.movers.map entry).drop r.threads
  queued := r.queue.items.map UInt32.toNat
  popped := r.popped
  toldPushed := r.log.filterMap (Record.item? "Producer" "pushed")
  toldPopped := r.log.filterMap (Record.item? "Consumer" "popped")

variable {r r' : QueueRun} {a : Action} {i : Nat} {m m' : Mover}

theorem getElem?_pushing (hm : r.movers[i]? = some m) (hi : i < r.threads) :
    r.account.pushing[i]? = some (m.moved, m.handling) := by
  rw [account, List.getElem?_take_of_lt hi, List.getElem?_map, hm]
  rfl

theorem getElem?_popping (hm : r.movers[i]? = some m) (hi : r.threads ≤ i) :
    r.account.popping[i - r.threads]? = some (m.moved, m.handling) := by
  rw [account, List.getElem?_drop, Nat.add_sub_cancel' hi, List.getElem?_map, hm]
  rfl

theorem exists_of_mem_pushing {x : Nat × Handling} (hx : x ∈ r.account.pushing) :
    ∃ i m, r.movers[i]? = some m ∧ i < r.threads ∧ x = entry m := by
  obtain ⟨i, hi, rfl⟩ := List.mem_take_iff_getElem.1 hx
  rw [List.length_map, Nat.lt_min] at hi
  exact ⟨i, r.movers[i], List.getElem?_eq_getElem hi.2, hi.1, List.getElem_map _⟩

theorem exists_of_mem_popping {x : Nat × Handling} (hx : x ∈ r.account.popping) :
    ∃ i m, r.movers[i]? = some m ∧ r.threads ≤ i ∧ x = entry m := by
  obtain ⟨i, hi, rfl⟩ := List.mem_drop_iff_getElem.1 hx
  rw [List.length_map, Nat.add_comm] at hi
  exact ⟨r.threads + i, r.movers[r.threads + i], List.getElem?_eq_getElem hi, Nat.le_add_right _ _,
    List.getElem_map _⟩

theorem Staffed.length_pushing (hs : r.Staffed) : r.account.pushing.length = r.threads := by
  rw [account, List.length_take, List.length_map, hs.length]
  omega

theorem Staffed.length_popping (hs : r.Staffed) : r.account.popping.length = r.threads := by
  rw [account, List.length_drop, List.length_map, hs.length]
  omega

/-- A producer handles an item. -/
theorem moves_of_pushing {s : QueueRun} {c : Account} (hmoves : r.account.Moves c)
    (hi : i < r.threads) (hthreads : s.threads = r.threads)
    (hmovers : s.movers = r.movers.set i m')
    (hpushing : c.pushing = r.account.pushing.set i (entry m'))
    (hpopping : c.popping = r.account.popping) (hqueued : c.queued = s.account.queued)
    (hpopped : c.popped = s.popped) (htoldPushed : c.toldPushed = s.account.toldPushed)
    (htoldPopped : c.toldPopped = s.account.toldPopped) : r.account.Moves s.account := by
  have hc : c = s.account := by
    refine Account.ext ?_ ?_ hqueued hpopped htoldPushed htoldPopped
    · rw [hpushing, account, account, hthreads, hmovers, List.map_set, List.take_set]
    · rw [hpopping, account, account, hthreads, hmovers, List.map_set, List.drop_set, if_pos hi]
  exact hc ▸ hmoves

/-- A consumer handles an item. -/
theorem moves_of_popping {s : QueueRun} {c : Account} (hmoves : r.account.Moves c)
    (hi : r.threads ≤ i) (hthreads : s.threads = r.threads)
    (hmovers : s.movers = r.movers.set i m')
    (hpushing : c.pushing = r.account.pushing)
    (hpopping : c.popping = r.account.popping.set (i - r.threads) (entry m'))
    (hqueued : c.queued = s.account.queued) (hpopped : c.popped = s.popped)
    (htoldPushed : c.toldPushed = s.account.toldPushed)
    (htoldPopped : c.toldPopped = s.account.toldPopped) : r.account.Moves s.account := by
  have hlength : ((r.movers.map entry).take r.threads).length ≤ i :=
    Nat.le_trans (List.length_take_le _ _) hi
  have hc : c = s.account := by
    refine Account.ext ?_ ?_ hqueued hpopped htoldPushed htoldPopped
    · rw [hpushing, account, account, hthreads, hmovers, List.map_set, List.take_set,
        List.set_eq_of_length_le hlength]
    · rw [hpopping, account, account, hthreads, hmovers, List.map_set, List.drop_set,
        if_neg (Nat.not_lt.2 hi)]
  exact hc ▸ hmoves

/-- A mover moves, but no item. -/
theorem moves_of_same {s : QueueRun} (hm : r.movers[i]? = some m)
    (hmovers : s.movers = r.movers.set i m') (hentry : entry m' = entry m)
    (hthreads : s.threads = r.threads) (hqueue : s.queue = r.queue) (hpopped : s.popped = r.popped)
    (hlog : ∀ role verb, s.log.filterMap (Record.item? role verb) =
      r.log.filterMap (Record.item? role verb)) : r.account.Moves s.account := by
  have hsame : s.movers.map entry = r.movers.map entry := by
    rw [hmovers, List.map_set, hentry, set_self]
    rw [List.getElem?_map, hm]
    rfl
  have haccount : s.account = r.account := by
    simp only [account, hsame, hthreads, hqueue, hpopped, hlog]
  exact haccount ▸ .same

/-- A step that leaves the items of the queue as they are. -/
theorem moves_of_queue {q : BlockingQueue UInt32} (hitems : q.items = r.queue.items) :
    r.account.Moves (account { r with queue := q }) := by
  have haccount : account { r with queue := q } = r.account := by
    simp only [account, hitems]
  exact haccount ▸ .same

/-- Every step moves one item one place on, or none. -/
theorem Transition.moves (ht : Transition r a r') : r.account.Moves r'.account := by
  cases ht with
  | @serve i m name standing standing' place notices hm =>
    exact moves_of_same hm rfl rfl rfl rfl rfl fun role verb =>
      filterMap_item?_notices role verb notices r.log
  | turn | print => exact .same
  | advance hm | finish hm => exact moves_of_same hm rfl rfl rfl rfl rfl fun _ _ => rfl
  | @push i _ m e hm _ hmoving _ hi hpush =>
    have hentry := getElem?_pushing hm hi
    rw [hmoving] at hentry
    have hitems := (BlockingQueue.transition_of_step hpush).conserved
    rw [Effect.after, pushed_of_step hpush] at hitems
    have hqueued : r.account.queued ++ [(item i m.moved).toNat] =
        e.state.items.map UInt32.toNat :=
      List.map_append.symm.trans (congrArg (List.map UInt32.toNat) hitems)
    exact moves_of_pushing (.push hentry) hi rfl rfl rfl rfl hqueued rfl rfl rfl
  | @tellPushed i _ _ m value hm _ hh hi =>
    have hentry := getElem?_pushing hm hi
    rw [hh] at hentry
    have htold := List.filterMap_cons_some (l := r.log) (item?_pushed i value "Producer" "pushed")
    have hother := List.filterMap_cons_none (l := r.log) (item?_pushed i value "Consumer" "popped")
    exact moves_of_pushing (.tellPushed hentry) hi rfl rfl rfl rfl rfl rfl htold.symm hother.symm
  | @pop i _ _ m value b e hm _ hmoving _ hi hb hpop ho =>
    have hentry := getElem?_popping hm hi
    rw [hmoving] at hentry
    have hitems := (BlockingQueue.transition_of_step hpop).conserved
    rw [Effect.after, ho] at hitems
    have hqueued : r.queue.items = value :: e.state.items := by
      rcases hb with rfl | rfl <;> simpa [BlockingQueue.pushed?, BlockingQueue.popped?] using hitems
    have hfirst : r.account.queued = value.toNat :: e.state.items.map UInt32.toNat := by
      rw [account, hqueued, List.map_cons]
    exact moves_of_popping (.pop hentry hfirst) hi rfl rfl rfl rfl rfl rfl rfl rfl
  | @sleep _ _ _ _ b e _ _ _ _ _ hb hpop ho =>
    have hitems := (BlockingQueue.transition_of_step hpop).conserved
    rw [Effect.after, ho] at hitems
    have hsame : e.state.items = r.queue.items := by
      rcases hb with rfl | rfl <;>
        simpa [BlockingQueue.pushed?, BlockingQueue.popped?] using hitems.symm
    exact moves_of_queue hsame
  | @tellPopped i _ _ m value hm _ hh hi =>
    have hentry := getElem?_popping hm hi
    rw [hh] at hentry
    have htold := List.filterMap_cons_some (l := r.log)
      (item?_popped (i - r.threads) value "Consumer" "popped")
    have hother := List.filterMap_cons_none (l := r.log)
      (item?_popped (i - r.threads) value "Producer" "pushed")
    exact moves_of_popping (.tellPopped hentry) hi rfl rfl rfl rfl rfl rfl hother.symm htold.symm
  | @count i _ _ m hm _ hh hi =>
    have hentry := getElem?_popping hm hi
    rw [hh] at hentry
    exact moves_of_popping (.count hentry) hi rfl rfl rfl rfl rfl rfl rfl rfl
  | stir hstir =>
    cases BlockingQueue.transition_of_step hstir with
    | stir => exact moves_of_queue rfl

end QueueRun

end CommandLine

end Threading

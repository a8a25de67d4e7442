import Threading.Proofs.Records
import Threading.Proofs.ThreadName
import Threading.Proofs.WorkerPool.Told
import Threading.Proofs.WorkerPool.Workforce

/-!
# The names of the workers

The worker `i` of the pool labelled `label` asks for the name `label-i`, of which it gets what the
operating system carries. If the name of the last worker can be carried whole, so can all, since
no number below has more digits (`carried_workerName`), and the workers are told apart by their
numbers.

Otherwise some two workers have the same name. A NUL in the label cuts the numbers off. So does
a label with no room for a digit. And if there is room for `k` digits, but the last number has more,
then the workers `10 ^ (k - 1)` and `10 ^ k` are there, whose names differ in a digit for which
there is no room (`digits_pow_succ`).
-/

namespace Threading

/-! ## The digits of a number -/

theorem utf8Size_of_isDigit {c : Char} (h : c.isDigit = true) : c.utf8Size = 1 := by
  rw [Char.isDigit, Bool.and_eq_true, decide_eq_true_eq, decide_eq_true_eq] at h
  exact Char.utf8Size_eq_one_iff.2 (UInt32.le_trans h.2 (by decide))

theorem byteSize_toDigits (n : Nat) :
    byteSize (Nat.toDigits 10 n) = (Nat.toDigits 10 n).length := by
  have hall : ∀ c ∈ Nat.toDigits 10 n, c.utf8Size = 1 := fun c hc =>
    utf8Size_of_isDigit (Nat.isDigit_of_mem_toDigits (by decide) (by decide) hc)
  generalize Nat.toDigits 10 n = ds at hall
  induction ds with
  | nil => rfl
  | cons c ds ih =>
    obtain ⟨hc, hds⟩ := List.forall_mem_cons.1 hall
    rw [byteSize_cons, hc, ih hds, List.length_cons, Nat.add_comm]

theorem length_toDigits_mono {i j : Nat} (h : i ≤ j) :
    (Nat.toDigits 10 i).length ≤ (Nat.toDigits 10 j).length := by
  rw [Nat.length_toDigits_le_iff (by decide) Nat.length_toDigits_pos]
  exact h.trans_lt ((Nat.length_toDigits_le_iff (by decide) Nat.length_toDigits_pos).1 le_rfl)

/-- A power of ten has one digit more than the one before, a zero. -/
theorem toDigits_pow_succ (k : Nat) :
    Nat.toDigits 10 (10 ^ (k + 1)) = Nat.toDigits 10 (10 ^ k) ++ ['0'] := by
  have happ := Nat.toDigits_append_toDigits (b := 10) (n := 10 ^ k) (d := 0) (by decide)
    (Nat.pow_pos (by decide)) (by decide)
  rw [pow_succ, Nat.mul_comm]
  exact happ.symm

theorem length_toDigits_pow (k : Nat) : (Nat.toDigits 10 (10 ^ k)).length = k + 1 := by
  induction k with
  | zero => rfl
  | succ k ih => rw [toDigits_pow_succ, List.length_append, ih, List.length_singleton]

/-! ## One name -/

theorem mem_toDigits_ne_nul {n : Nat} : '\x00' ∉ Nat.toDigits 10 n := fun h =>
  absurd (Nat.isDigit_of_mem_toDigits (by decide) (by decide) h) (by decide)

section Label

variable (label : String) (i : Nat)

theorem toList_numbered : (s!"{label}-{i}").toList = label.toList ++ '-' :: Nat.toDigits 10 i := by
  simp [toString]

theorem utf8ByteSize_numbered :
    (s!"{label}-{i}").utf8ByteSize = label.utf8ByteSize + 1 + (Nat.toDigits 10 i).length := by
  rw [← byteSize_toList, toList_numbered, byteSize_append, byteSize_toList, byteSize_cons,
    byteSize_toDigits, Nat.add_assoc]
  rfl

theorem numbered_injective {i j : Nat} (h : s!"{label}-{i}" = s!"{label}-{j}") : i = j := by
  have hlist := congrArg String.toList h
  rw [toList_numbered, toList_numbered] at hlist
  exact toDigits_injective (List.cons.inj (List.append_cancel_left hlist)).2

/-- The name of the worker `i` can be carried whole. -/
theorem carried_numbered_iff : Carried s!"{label}-{i}" ↔
    '\x00' ∉ label.toList ∧
      label.utf8ByteSize + 1 + (Nat.toDigits 10 i).length ≤ maxNameBytes := by
  have hnul : '\x00' ∉ (s!"{label}-{i}").toList ↔ '\x00' ∉ label.toList := by
    rw [toList_numbered, List.mem_append, List.mem_cons]
    simp [mem_toDigits_ne_nul]
  rw [← hnul, ← utf8ByteSize_numbered]
  exact ⟨fun h => ⟨h.no_nul, h.bytes_le⟩, fun h => ⟨h.1, h.2⟩⟩

end Label

/-! ## Two names that are cut alike -/

/-- What follows a NUL is cut off, and so is what follows a text that takes all the room. -/
theorem cutChars_append {xs : List Char} (h : '\x00' ∈ xs ∨ maxNameBytes ≤ byteSize xs)
    (ys : List Char) : cutChars (xs ++ ys) = cutChars xs := by
  rw [cutChars, cutChars, List.takeWhile_append]
  split
  · next hlength =>
    have hall := (List.takeWhile_prefix _).eq_of_length hlength
    have hnul : '\x00' ∉ xs := fun hnul => by
      rw [← hall] at hnul
      exact absurd (List.mem_takeWhile_imp hnul) (by decide)
    rw [hall]
    exact fitBytes_append_of_le (h.resolve_left hnul) _
  · rfl

/-- If the name of the last of several workers is cut, then two workers have the same name. -/
theorem exists_same_name (label : String) {n : Nat} (hn : 2 ≤ n)
    (hlast : ¬Carried s!"{label}-{n - 1}") :
    ∃ i j, i < j ∧ j < n ∧ cutName s!"{label}-{i}" = cutName s!"{label}-{j}" := by
  rw [carried_numbered_iff] at hlast
  by_cases hnone : '\x00' ∈ label.toList ++ ['-'] ∨ maxNameBytes ≤ byteSize (label.toList ++ ['-'])
  · -- No digit of any number is left.
    refine ⟨0, 1, Nat.one_pos, hn, ?_⟩
    have hcut (i : Nat) : cutChars (s!"{label}-{i}").toList = cutChars (label.toList ++ ['-']) := by
      rw [toList_numbered, List.append_cons, cutChars_append hnone]
    rw [cutName, cutName, hcut, hcut]
  · obtain ⟨hnul, hroom⟩ := not_or.1 hnone
    rw [byteSize_append, byteSize_toList, Nat.not_le] at hroom
    change label.utf8ByteSize + 1 < maxNameBytes at hroom
    -- There is room for `k + 1` digits, and the last number has more of them.
    obtain ⟨k, hk⟩ := Nat.exists_eq_add_of_lt hroom
    have hdigits : ¬(Nat.toDigits 10 (n - 1)).length ≤ k + 1 := fun hle =>
      hlast ⟨fun h => hnul (List.mem_append_left _ h), by omega⟩
    rw [Nat.length_toDigits_le_iff (by decide) (Nat.succ_pos k), Nat.not_lt] at hdigits
    have hlt : 10 ^ k < 10 ^ (k + 1) := Nat.pow_lt_pow_right (by decide) (Nat.lt_succ_self k)
    refine ⟨10 ^ k, 10 ^ (k + 1), hlt, by omega, ?_⟩
    have hfull : maxNameBytes ≤ byteSize (s!"{label}-{10 ^ k}").toList := by
      rw [byteSize_toList, utf8ByteSize_numbered, length_toDigits_pow]
      omega
    have hlonger : (s!"{label}-{10 ^ (k + 1)}").toList =
        (s!"{label}-{10 ^ k}").toList ++ ['0'] := by
      rw [toList_numbered, toList_numbered, toDigits_pow_succ, List.append_assoc, List.cons_append]
    rw [cutName, cutName, hlonger, cutChars_append (.inr hfull)]

/-! ## The names of a pool -/

namespace WorkerPool

variable {τ : Type} {label : String} {answers : List (Except Refusal ThreadId)} {n : Nat}

/-- The names of the workers. -/
def names (p : WorkerPool τ) : List String := p.workers.map fun w => w.handle.name.text

/-- The names of `n` workers of the pool labelled `label`. -/
def numbered (label : String) (n : Nat) : List String :=
  (List.range n).map fun i => (workerName label i).text

/-- How `n` workers of the pool labelled `label` are named. -/
structure Named (label : String) (n : Nat) (names : List String) : Prop where
  length : names.length = n
  /-- A worker has the longest beginning of its name that the operating system carries. -/
  cut : ∀ i < n, ∃ name, names[i]? = some name ∧ IsCut s!"{label}-{i}" name
  /-- If the name of the last worker can be carried whole, so can all names. -/
  whole : '\x00' ∉ label.toList →
    label.utf8ByteSize + 1 + (Nat.toDigits 10 (n - 1)).length ≤ maxNameBytes →
    ∀ i < n, names[i]? = some s!"{label}-{i}"
  /-- Otherwise two workers have the same name, unless there is one worker only. -/
  nodup_iff : names.Nodup ↔ n = 1 ∨ '\x00' ∉ label.toList ∧
    label.utf8ByteSize + 1 + (Nat.toDigits 10 (n - 1)).length ≤ maxNameBytes

theorem getElem?_numbered {i : Nat} (hi : i < n) :
    (numbered label n)[i]? = some (cutName s!"{label}-{i}") := by
  rw [numbered, List.getElem?_map, List.getElem?_range hi]
  rfl

/-- No number has more digits than the last. -/
theorem carried_of_last (hlast : Carried s!"{label}-{n - 1}") {i : Nat} (hi : i < n) :
    Carried s!"{label}-{i}" := by
  rw [carried_numbered_iff] at hlast ⊢
  have hdigits := length_toDigits_mono (Nat.le_sub_one_of_lt hi)
  exact ⟨hlast.1, by omega⟩

/-- Names that can be carried whole are different, and of several others two are the same. -/
theorem nodup_numbered_iff (hn : 0 < n) :
    (numbered label n).Nodup ↔ n = 1 ∨ Carried s!"{label}-{n - 1}" := by
  constructor
  · intro hnodup
    by_contra hnot
    obtain ⟨hone, hlast⟩ := not_or.1 hnot
    obtain ⟨i, j, hij, hj, hsame⟩ := exists_same_name label (by omega) hlast
    have heq : (numbered label n)[i]? = (numbered label n)[j]? := by
      rw [getElem?_numbered (hij.trans hj), getElem?_numbered hj, hsame]
    have hi : i < (numbered label n).length := by
      rw [numbered, List.length_map, List.length_range]
      exact hij.trans hj
    exact hij.ne ((List.getElem?_inj hi hnodup).1 heq)
  · rintro (rfl | hlast)
    · exact List.nodup_singleton _
    · refine List.Nodup.map_on (fun i hi j hj hsame => ?_) List.nodup_range
      have hi := cutName_of_carried (carried_of_last hlast (List.mem_range.1 hi))
      have hj := cutName_of_carried (carried_of_last hlast (List.mem_range.1 hj))
      exact numbered_injective label (hi.symm.trans (hsame.trans hj))

theorem named_numbered (hn : 0 < n) : Named label n (numbered label n) where
  length := by rw [numbered, List.length_map, List.length_range]
  cut i hi := ⟨_, getElem?_numbered hi, isCut_cutName _⟩
  whole hnul hle i hi := by
    have hlast := (carried_numbered_iff label (n - 1)).2 ⟨hnul, hle⟩
    rw [getElem?_numbered hi, cutName_of_carried (carried_of_last hlast hi)]
  nodup_iff := by rw [nodup_numbered_iff hn, carried_numbered_iff]

/-- Workers that are named by their numbers have these names. -/
theorem names_eq {p : WorkerPool τ} (hlength : p.workers.length = n)
    (h : ∀ (i : Nat) (w : Worker τ), p.workers[i]? = some w → w.handle.name = workerName label i) :
    p.names = numbered label n := by
  subst hlength
  refine List.ext_getElem (by simp [names, numbered]) fun i hi _ => ?_
  rw [names, List.length_map] at hi
  simp only [names, numbered, List.getElem_map, List.getElem_range]
  rw [h i _ (List.getElem?_eq_getElem hi)]

/-- The workers of a pool are told apart by their names if, and only if, there is one worker only
    or the name of the last worker can be carried whole. Then the worker `i` is named `label-i`,
    and otherwise its name is the longest beginning of that which can be carried. The names never
    change. -/
theorem workers_named (label : String) (answers : List (Except Refusal ThreadId))
    (hpos : 0 < answers.length) :
    ∃ f : Effect (WorkerPool τ) Unit, create label answers = .ok f ∧
      Named label answers.length f.state.names ∧
      ∀ (es : History τ) (p : WorkerPool τ), IsRun label answers es p →
        p.names = f.state.names := by
  have hcreated : ∃ f : Effect (WorkerPool τ) Unit, create label answers = .ok f :=
    exists_create_iff.2 hpos
  obtain ⟨f, hf⟩ := hcreated
  obtain ⟨workers, hstate, -, hthreads⟩ := create_eq_ok hf
  have hlength : f.state.workers.length = answers.length := by
    simpa [hstate] using congrArg List.length hthreads
  have hnames : f.state.names = numbered label answers.length :=
    names_eq hlength fun i w hw => name_of_create hf hw
  refine ⟨f, hf, hnames ▸ named_numbered hpos, fun es p h => ?_⟩
  have hcount : p.workers.length = answers.length := by
    simpa using congrArg List.length h.threads
  rw [hnames, names_eq hcount fun i w hw => (h.told hw).name]

/-- Sixty-one letters leave room for one digit, so the workers `1` and `10` have the same name. -/
theorem workers_named_of_long_label :
    ∃ f : Effect (WorkerPool Nat) Unit,
      create (String.ofList (List.replicate 61 'x')) ((List.range 11).map .ok) = .ok f ∧
      Named (String.ofList (List.replicate 61 'x')) 11 f.state.names ∧ ¬f.state.names.Nodup := by
  obtain ⟨f, hf, hnamed, -⟩ := workers_named (τ := Nat) (String.ofList (List.replicate 61 'x'))
    ((List.range 11).map .ok) (by decide)
  refine ⟨f, hf, hnamed, fun hnodup => ?_⟩
  have hfits := hnamed.nodup_iff.1 hnodup
  rw [utf8ByteSize_ofList] at hfits
  exact absurd hfits (by decide)

end WorkerPool

end Threading

import Threading.Proofs.Run

/-!
# How records begin

A record *reads* like a text if its own text begins so (`Record.reads`). The records of the
workers of a pool tell which worker they are about, since a number ends where its digits end
(`number_prefix_iff`): no record of another worker, and none about anything else, begins like
them.
-/

namespace Threading

/-- The record has this level, and its text begins like this. -/
def Record.reads (r : Record) (level : Level) (text : String) : Bool :=
  r.level == level && text.toList.isPrefixOf r.message.toList

theorem Record.reads_iff {r : Record} {level : Level} {text : String} :
    r.reads level text = true ↔ r.level = level ∧ text.toList <+: r.message.toList := by
  simp [reads]

/-- A number can be read back from its digits. -/
theorem toDigits_injective {i j : Nat} (h : Nat.toDigits 10 i = Nat.toDigits 10 j) : i = j := by
  have hread := congrArg (fun digits => Nat.ofDigitChars 10 digits 0) h
  simpa only [Nat.ofDigitChars_toDigits (b := 10) (by decide) (by decide)] using hread

/-- Two texts that begin with numbers, each before a blank, begin with the same number if one
    text begins with the other. -/
theorem number_prefix_iff {i k : Nat} {xs ys : List Char} :
    Nat.toDigits 10 i ++ ' ' :: xs <+: Nat.toDigits 10 k ++ ' ' :: ys ↔ i = k ∧ xs <+: ys := by
  have number (n : Nat) (cs : List Char) :
      (Nat.toDigits 10 n ++ ' ' :: cs).takeWhile Char.isDigit = Nat.toDigits 10 n := by
    rw [List.takeWhile_append_of_pos fun c hc =>
      Nat.isDigit_of_mem_toDigits (by decide) (by decide) hc]
    simp
  constructor
  · rintro ⟨zs, hzs⟩
    have hsame : Nat.toDigits 10 i = Nat.toDigits 10 k := by
      rw [← number k ys, ← hzs, List.append_assoc, List.cons_append, number]
    obtain rfl := toDigits_injective hsame
    refine ⟨rfl, zs, ?_⟩
    rw [List.append_assoc] at hzs
    exact (List.cons.inj (List.append_cancel_left hzs)).2
  · rintro ⟨rfl, zs, rfl⟩
    exact ⟨zs, by simp⟩

/-- No error begins like a record of a worker. -/
theorem Error.head?_message (error : Error) : error.message.toList.head? ≠ some 'W' := by
  rw [Error.message.eq_def]
  cases error <;> simp [toString]

namespace Notice

variable {n : Notice} {i : Nat}

theorem reads_unavailable_iff : n.record.reads .warn s!"Worker {i} unavailable" = true ↔
    ∃ error, n = .workerUnavailable i error := by
  rw [Record.reads_iff]
  cases n with
  | workerUnavailable k error => simp [record, toString, number_prefix_iff, eq_comm]
  | _ => simp [record, toString]

theorem reads_lost_iff :
    n.record.reads .error s!"Worker {i} lost to a panicking task" = true ↔ n = .workerLost i := by
  rw [Record.reads_iff]
  cases n with
  | workerLost k => simp [record, toString, number_prefix_iff, eq_comm]
  | workerJoinFailed error | jobJoinFailed error =>
    refine ⟨fun h => ?_, fun h => by cases h⟩
    obtain ⟨zs, hzs⟩ := h.2
    have hhead := error.head?_message
    rw [show error.message.toList = _ from hzs.symm] at hhead
    simp [toString] at hhead
  | _ => simp [record, toString]

theorem reads_exiting_iff :
    n.record.reads .debug s!"Worker {i} exiting" = true ↔ n = .workerExiting i := by
  rw [Record.reads_iff]
  cases n with
  | workerExiting k => simp [record, toString, number_prefix_iff, eq_comm]
  | _ => simp [record, toString]

theorem reads_running_iff :
    n.record.reads .trace s!"Worker {i} running a task" = true ↔ n = .taskBegun i := by
  rw [Record.reads_iff]
  cases n with
  | taskBegun k => simp [record, toString, number_prefix_iff, eq_comm]
  | _ => simp [record]

end Notice

end Threading

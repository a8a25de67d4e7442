import Threading.Schedule

/-!
# Schedules that come to an end

A run of agents that share one state is a list of the actions that were taken
(`Path`). If every action leaves less to do, but for some that may add a little,
then the number of the others is bounded by the number of these
(`Path.countP_le`). And if every move of an agent leaves less to do, then the
computed schedule is given enough rounds if there are as many as there is to do:
no agent can move in the end (`settled_settle`), since in a round of a state that is
not settled somebody moves.
-/

namespace Threading.Schedule

variable {σ α β : Type}

/-- The actions `as`, one after the other, lead from `s` to `t`. -/
inductive Path (step : σ → α → Option σ) (s : σ) : List α → σ → Prop
  | nil : Path step s [] s
  | snoc {as : List α} {t u : σ} {a : α} :
    Path step s as t → step t a = some u → Path step s (as ++ [a]) u

section Path

variable {step : σ → α → Option σ} {s t : σ} {as : List α}

/-- What holds at the beginning, and is kept by every step with an action of one kind, holds at
    the end of a run of such actions. -/
theorem Path.invariant (h : Path step s as t) {P : α → Prop} (has : ∀ a ∈ as, P a)
    (Inv : List α → σ → Prop) (hs : Inv [] s)
    (hstep : ∀ bs u a v, Inv bs u → P a → step u a = some v → Inv (bs ++ [a]) v) : Inv as t := by
  induction h with
  | nil => exact hs
  | snoc _ ha ih =>
    obtain ⟨hbefore, hlast⟩ := List.forall_mem_append.1 has
    exact hstep _ _ _ _ (ih hbefore) (hlast _ (List.mem_singleton_self _)) ha

theorem Path.cons {u : σ} {a : α} (ha : step s a = some u) (h : Path step u as t) :
    Path step s (a :: as) t := by
  induction h with
  | nil => exact Path.nil.snoc ha
  | snoc _ hb ih => exact ih.snoc hb

/-- The actions of a list can be tried out, and `f` tells what the run comes to. -/
theorem exists_path (step : σ → α → Option σ) (s : σ) (as : List α) (f : σ → β) (b : β)
    (h : (as.foldlM step s).map f = some b) : ∃ t, Path step s as t ∧ f t = b := by
  obtain ⟨t, ht, hf⟩ := Option.map_eq_some_iff.1 h
  refine ⟨t, ?_, hf⟩
  clear h hf
  induction as generalizing s with
  | nil =>
    cases ht
    exact .nil
  | cons a as ih =>
    obtain ⟨u, hu, hrest⟩ := Option.bind_eq_some_iff.1 ht
    exact (ih u hrest).cons hu

/-- If the actions that are not `free` leave less to do, and the others add one at most, then
    what was done and what is left is at most what was to do and what was added. -/
theorem Path.countP_le (h : Path step s as t) {P : α → Prop} (has : ∀ a ∈ as, P a)
    (Inv : σ → Prop) (hs : Inv s) (left : σ → Nat) (free : α → Bool)
    (hstep : ∀ u a v, Inv u → P a → step u a = some v →
      Inv v ∧ left v + (!free a).toNat ≤ left u + (free a).toNat) :
    as.countP (fun a => !free a) + left t ≤ left s + as.countP free := by
  refine (h.invariant has
    (fun bs u => Inv u ∧ bs.countP (fun a => !free a) + left u ≤ left s + bs.countP free)
    ⟨hs, Nat.le_of_eq (Nat.zero_add _)⟩ fun bs u a v ⟨hu, hle⟩ ha hv => ?_).2
  obtain ⟨hinv, hleft⟩ := hstep u a v hu ha hv
  refine ⟨hinv, ?_⟩
  rw [List.countP_append, List.countP_append, List.countP_singleton, List.countP_singleton]
  cases hfree : free a <;> simp [hfree] at hleft ⊢ <;> omega

end Path

/-! ## The computed schedule -/

section Settle

variable {move : σ → Nat → Option σ} {Inv : σ → Prop} {left : σ → Nat}

/-- An agent that moves leaves less to do. -/
theorem runAgent_le (hmove : ∀ s a t, Inv s → move s a = some t → Inv t ∧ left t < left s)
    (agent fuel : Nat) {s : σ} (hs : Inv s) :
    Inv (runAgent move agent fuel s) ∧ left (runAgent move agent fuel s) ≤ left s := by
  induction fuel generalizing s with
  | zero => exact ⟨hs, Nat.le_refl _⟩
  | succ fuel ih =>
    rw [runAgent]
    split
    · exact ⟨hs, Nat.le_refl _⟩
    · next t ht =>
      obtain ⟨hinv, hlt⟩ := hmove s agent t hs ht
      obtain ⟨hend, hle⟩ := ih hinv
      exact ⟨hend, Nat.le_trans hle (Nat.le_of_lt hlt)⟩

/-- An agent that can move does so if it is given fuel. -/
theorem runAgent_lt (hmove : ∀ s a t, Inv s → move s a = some t → Inv t ∧ left t < left s)
    {agent fuel : Nat} (hfuel : 0 < fuel) {s : σ} (hs : Inv s) (ha : move s agent ≠ none) :
    left (runAgent move agent fuel s) < left s := by
  obtain ⟨fuel, rfl⟩ := Nat.exists_eq_add_one_of_ne_zero (Nat.ne_of_gt hfuel)
  obtain ⟨t, ht⟩ := Option.ne_none_iff_exists'.1 ha
  obtain ⟨hinv, hlt⟩ := hmove s agent t hs ht
  rw [runAgent, ht]
  exact Nat.lt_of_le_of_lt (runAgent_le hmove agent fuel hinv).2 hlt

/-- Turns of these agents leave less to do if one of them can move. -/
theorem foldl_runAgent (hmove : ∀ s a t, Inv s → move s a = some t → Inv t ∧ left t < left s)
    {fuel : Nat} (hfuel : 0 < fuel) (agents : List Nat) {s : σ} (hs : Inv s) :
    let t := agents.foldl (fun s agent => runAgent move agent fuel s) s
    Inv t ∧ left t ≤ left s ∧ ((∃ agent ∈ agents, move s agent ≠ none) → left t < left s) := by
  induction agents generalizing s with
  | nil => exact ⟨hs, Nat.le_refl _, nofun⟩
  | cons agent agents ih =>
    obtain ⟨hinv, hle⟩ := runAgent_le hmove agent fuel hs
    obtain ⟨hend, hrest, hlt⟩ := ih hinv
    rw [List.foldl_cons]
    refine ⟨hend, Nat.le_trans hrest hle, fun hcan => ?_⟩
    by_cases ha : move s agent = none
    · -- The first agent cannot move, so the others find the state as it was.
      have hsame : runAgent move agent fuel s = s := by
        cases fuel <;> simp [runAgent, ha]
      rw [hsame] at hlt ⊢
      obtain ⟨b, hb, hmoves⟩ := hcan
      rcases List.mem_cons.1 hb with rfl | hb
      · exact absurd ha hmoves
      · exact hlt ⟨b, hb, hmoves⟩
    · exact Nat.lt_of_le_of_lt hrest (runAgent_lt hmove hfuel hs ha)

theorem settled_iff {count : Nat} {s : σ} :
    settled move count s = true ↔ ∀ agent < count, move s agent = none := by
  simp [settled]

/-- If every move leaves less to do, and there are as many rounds as there is to do, then nobody
    can move in the end. -/
theorem settled_settle (hmove : ∀ s a t, Inv s → move s a = some t → Inv t ∧ left t < left s)
    (agents : σ → Nat) {fuel : Nat} (hfuel : 0 < fuel) {rounds : Nat} {s : σ} (hs : Inv s)
    (hrounds : left s ≤ rounds) :
    let t := settle move agents fuel rounds s
    Inv t ∧ ∀ agent < agents t, move t agent = none := by
  induction rounds generalizing s with
  | zero =>
    refine ⟨hs, fun agent _ => ?_⟩
    -- Nothing is left to do, so no move can leave less.
    cases ha : move s agent with
    | none => exact ha
    | some t => exact absurd (Nat.lt_of_lt_of_le (hmove s agent t hs ha).2 hrounds) (Nat.not_lt_zero _)
  | succ rounds ih =>
    rw [settle]
    split
    · next hsettled => exact ⟨hs, settled_iff.1 hsettled⟩
    · next hsettled =>
      obtain ⟨hinv, -, hlt⟩ := foldl_runAgent hmove hfuel (List.range (agents s)) hs
      refine ih hinv (Nat.le_of_lt_succ (Nat.lt_of_lt_of_le (hlt ?_) hrounds))
      simp only [settled_iff, Classical.not_forall] at hsettled
      obtain ⟨agent, hagent, hcan⟩ := hsettled
      exact ⟨agent, List.mem_range.2 hagent, hcan⟩

end Settle

end Threading.Schedule

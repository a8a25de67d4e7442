import Threading.Log

/-!
# Runs

An object changes by atomic steps, each an action that is possible at the
moment, and every step comes to something and may report. What a step did is
an *occurrence*. A *run* is a list of occurrences, the earliest first, that
leads from one state to another (`Run`): one interleaving of everybody who uses
the object. What was done, returned or logged is read off the run, and a law of
every state that can be reached is a law of the end of every run
(`Run.invariant`). Where it matters what state a step found, the actions of the run
tell: following them from the first state, one finds them all again (`moments`).
-/

namespace Threading

/-- What a step did. -/
structure Occurrence (α ρ : Type) where
  action : α
  outcome : ρ
  notices : List Notice := []

variable {σ α ρ : Type}

/-- The occurrence of the action `a` with this effect. -/
def Effect.after (e : Effect σ ρ) (a : α) : Occurrence α ρ := ⟨a, e.outcome, e.notices⟩

/-- The occurrences `es`, one after the other, lead from `s` to `t`. -/
inductive Run (step : σ → α → Option (Effect σ ρ)) (s : σ) : List (Occurrence α ρ) → σ → Prop
  | nil : Run step s [] s
  | snoc {es : List (Occurrence α ρ)} {t : σ} {a : α} {e : Effect σ ρ} :
    Run step s es t → step t a = some e → Run step s (es ++ [e.after a]) e.state

namespace Run

variable {step : σ → α → Option (Effect σ ρ)} {s t u : σ} {es fs : List (Occurrence α ρ)}

/-- A run goes on from where another ended. -/
theorem append (h : Run step s es t) (h' : Run step t fs u) : Run step s (es ++ fs) u := by
  induction h' with
  | nil => rwa [List.append_nil]
  | snoc _ hstep ih =>
    rw [← List.append_assoc]
    exact .snoc ih hstep

/-- What holds of `s` at the beginning, and is kept by every step of a run from
    `s`, holds at the end of every run from `s`. -/
theorem invariant (h : Run step s es t) (Inv : List (Occurrence α ρ) → σ → Prop)
    (hs : Inv [] s)
    (hstep : ∀ fs v a e, Run step s fs v → Inv fs v → step v a = some e →
      Inv (fs ++ [e.after a]) e.state) : Inv es t := by
  induction h with
  | nil => exact hs
  | snoc hrun ha ih => exact hstep _ _ _ _ hrun ih ha

/-- What is kept by every step of one kind holds at the end of a run of such steps. -/
theorem invariant_of_forall (h : Run step s es t) {P : α → Prop} (hes : ∀ o ∈ es, P o.action)
    (Inv : σ → Prop) (hs : Inv s)
    (hstep : ∀ fs v a e, Run step s fs v → Inv v → P a → step v a = some e → Inv e.state) :
    Inv t := by
  refine h.invariant (fun fs v => (∀ o ∈ fs, P o.action) → Inv v) (fun _ => hs)
    (fun fs v a e hrun hv ha hfs => ?_) hes
  obtain ⟨hbefore, hlast⟩ := List.forall_mem_append.1 hfs
  exact hstep fs v a e hrun (hv hbefore) (hlast _ (List.mem_singleton_self _)) ha

/-- A step, and a run from where it leads. -/
theorem cons {a : α} {e : Effect σ ρ} (he : step s a = some e) (h : Run step e.state es t) :
    Run step s (e.after a :: es) t :=
  (snoc nil he).append h

/-- Where nothing happened, nothing changed. -/
theorem of_nil (h : Run step s [] t) : t = s := by
  generalize hgs : [] = gs at h
  cases h with
  | nil => rfl
  | snoc => exact absurd hgs.symm (List.append_ne_nil_of_right_ne_nil _ (List.cons_ne_nil _ _))

/-- The last step of a run. -/
theorem of_snoc {o : Occurrence α ρ} (h : Run step s (es ++ [o]) u) :
    ∃ t e, Run step s es t ∧ step t o.action = some e ∧ e.after o.action = o ∧ e.state = u := by
  generalize hgs : es ++ [o] = gs at h
  cases h with
  | nil => exact absurd hgs (List.append_ne_nil_of_right_ne_nil _ (List.cons_ne_nil _ _))
  | @snoc fs t a e hrun he =>
    obtain ⟨rfl, ho⟩ := List.append_inj' hgs rfl
    obtain rfl := List.singleton_inj.1 ho
    exact ⟨t, e, hrun, he, rfl, rfl⟩

/-- What happened tells where it led. -/
theorem unique (h : Run step s es t) (h' : Run step s es u) : t = u := by
  induction h generalizing u with
  | nil => exact h'.of_nil.symm
  | snoc _ he ih =>
    obtain ⟨v, e, hrun, he', -, rfl⟩ := h'.of_snoc
    obtain rfl := ih hrun
    rw [Option.some.inj (he.symm.trans he')]

/-- The moment between two parts of a run. -/
theorem split (h : Run step s (es ++ fs) u) : ∃ t, Run step s es t ∧ Run step t fs u := by
  induction fs generalizing es with
  | nil => exact ⟨u, by rwa [List.append_nil] at h, .nil⟩
  | cons o fs ih =>
    rw [List.append_cons] at h
    obtain ⟨v, hv, hfs⟩ := ih h
    obtain ⟨t, e, hes, he, ho, rfl⟩ := hv.of_snoc
    exact ⟨t, hes, ho ▸ cons he hfs⟩

/-- A step that left everything as it was need not have been taken. -/
theorem forget {a : α} {e : Effect σ ρ} (hes : Run step s es t) (he : step t a = some e)
    (hsame : e.state = t) :
    Run step s (es ++ e.after a :: fs) u ↔ Run step s (es ++ fs) u := by
  constructor
  · intro h
    rw [List.append_cons] at h
    obtain ⟨v, hv, hfs⟩ := h.split
    obtain rfl : e.state = v := (hes.snoc he).unique hv
    exact hes.append (hsame ▸ hfs)
  · intro h
    obtain ⟨v, hv, hfs⟩ := h.split
    obtain rfl := hes.unique hv
    exact hes.append (.cons he (hsame.symm ▸ hfs))

end Run

/-- The steps of a run from `s`, each with the state that it found. -/
def moments (step : σ → α → Option (Effect σ ρ)) (s : σ) :
    List (Occurrence α ρ) → List (σ × Occurrence α ρ)
  | [] => []
  | o :: os => (s, o) :: match step s o.action with
    | some e => moments step e.state os
    | none => []

/-- What happens after a run happens where the run leads. -/
theorem Run.moments_append {step : σ → α → Option (Effect σ ρ)} {s t : σ}
    {es : List (Occurrence α ρ)} (h : Run step s es t) (fs : List (Occurrence α ρ)) :
    moments step s (es ++ fs) = moments step s es ++ moments step t fs := by
  induction h generalizing fs with
  | nil => rfl
  | @snoc es t a e _ he ih =>
    have hlast (os : List (Occurrence α ρ)) :
        moments step t (e.after a :: os) = (t, e.after a) :: moments step e.state os := by
      rw [moments, Effect.after, he]
    rw [ih, List.append_assoc, ih, List.singleton_append, hlast, hlast, moments, List.append_assoc,
      List.singleton_append]

/-- The last step of a run found the state to which the others lead. -/
theorem Run.moments_snoc {step : σ → α → Option (Effect σ ρ)} {s t : σ}
    {es : List (Occurrence α ρ)} (h : Run step s es t) (o : Occurrence α ρ) :
    moments step s (es ++ [o]) = moments step s es ++ [(t, o)] := by
  rw [h.moments_append, moments]
  cases step t o.action <;> rfl

/-- What a step of a run found can be reached. -/
theorem Run.of_mem_moments {step : σ → α → Option (Effect σ ρ)} {s t : σ}
    {es : List (Occurrence α ρ)} (h : Run step s es t) {m : σ × Occurrence α ρ}
    (hm : m ∈ moments step s es) : ∃ fs, Run step s fs m.1 := by
  refine h.invariant (fun es _ => ∀ m ∈ moments step s es, ∃ fs, Run step s fs m.1)
    (fun m hm => absurd hm List.not_mem_nil) (fun fs v a e hrun ih _ m hm => ?_) m hm
  rw [hrun.moments_snoc, List.mem_append, List.mem_singleton] at hm
  rcases hm with hm | rfl
  · exact ih m hm
  · exact ⟨fs, hrun⟩

/-- One more occurrence adds what it tells to what is read off a history. -/
theorem filterMap_snoc {β γ : Type} (f : β → Option γ) (xs : List β) (x : β) :
    (xs ++ [x]).filterMap f = xs.filterMap f ++ (f x).toList := by
  rw [List.filterMap_append]
  cases hx : f x <;> simp [hx]

/-- One more occurrence counts if it has the property. -/
theorem countP_snoc {β : Type} (f : β → Bool) (xs : List β) (x : β) :
    (xs ++ [x]).countP f = xs.countP f + (f x).toNat := by
  rw [List.countP_append, List.countP_singleton]
  cases f x <;> rfl

/-- What happens when these actions are taken, one after the other, and where it
    leads; `none` if one of them is not possible. -/
def play (step : σ → α → Option (Effect σ ρ)) (s : σ) :
    List α → Option (List (Occurrence α ρ) × σ)
  | [] => some ([], s)
  | a :: as => (step s a).bind fun e =>
    (play step e.state as).map fun (es, t) => (e.after a :: es, t)

/-- What is played is a run. -/
theorem run_of_play {step : σ → α → Option (Effect σ ρ)} {s t : σ} {as : List α}
    {es : List (Occurrence α ρ)} (h : play step s as = some (es, t)) : Run step s es t := by
  induction as generalizing s es with
  | nil =>
    cases h
    exact .nil
  | cons a as ih =>
    rw [play, Option.bind_eq_some_iff] at h
    obtain ⟨e, he, h⟩ := h
    rw [Option.map_eq_some_iff] at h
    obtain ⟨⟨fs, u⟩, hu, hfs⟩ := h
    cases hfs
    exact .cons he (ih hu)

/-- Where these actions can be taken, there is a run of them. -/
theorem exists_run (step : σ → α → Option (Effect σ ρ)) (s : σ) (as : List α) {β : Type}
    (f : List (Occurrence α ρ) → σ → β) (result : β)
    (h : (play step s as).map (fun x => f x.1 x.2) = some result) :
    ∃ es t, Run step s es t ∧ f es t = result := by
  obtain ⟨⟨es, t⟩, hplay, hf⟩ := Option.map_eq_some_iff.1 h
  exact ⟨es, t, run_of_play hplay, hf⟩

end Threading

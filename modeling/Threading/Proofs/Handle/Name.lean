import Threading.Proofs.Handle.Join
import Threading.Proofs.ThreadName

/-!
# The name of a handle

A handle is given a name when it is made, and other names as long as it is idle. They are
read off the moments of its life (`givenNames`); the last one, cut to what the operating system
carries, is the name of the handle (`IsRun.name_eq`).

* A step changes the name only if it renames an idle handle that has no thread
  (`Transition.name`). So a handle that is started or run keeps its name for ever
  (`IsRun.name_of_run`), and a start that is under way keeps it until the operating system
  answers.
* Whatever error a call of the handle returns goes by this name (`Transition.error`).
-/

namespace Threading.Handle

variable {J : Type}

/-- The name that the idle handle was given at this moment. -/
def given? (m : Handle J × Occurrence Action (Outcome J)) : Option String :=
  match m.2.action with
  | .rename text => if m.1.stage = .idle then some text else none
  | _ => none

/-- The names that a handle for `job` was given while it was idle, the first one first. It was
    made with `name`, if any. -/
def givenNames (name : Option String) (job : J) (es : History J) : List String :=
  name.getD defaultName :: (moments step (create (.ofOption name) job) es).filterMap given?

/-- The last name that the handle was given while it was idle. -/
def lastName (name : Option String) (job : J) (es : History J) : String :=
  (givenNames name job es).getLast (List.cons_ne_nil _ _)

/-- The handle has a thread, or is not idle any more. -/
def IsBound (h : Handle J) : Prop := h.spawned ≠ none ∨ h.stage ≠ .idle

/-! ## One step -/

section Step

variable {h : Handle J} {a : Action} {e : Effect (Handle J) (Outcome J)} {job : J}

/-- A step gives an idle handle the name, or none. -/
theorem Transition.name (ht : Transition h a e) (ho : h.Ordered job) :
    (∃ text, given? (h, e.after a) = some text ∧ ¬h.IsBound ∧ e.state.name = .ofString text) ∨
      given? (h, e.after a) = none ∧ e.state.name = h.name := by
  cases ht with
  | @rename text hu _ hs =>
    have hunbound : ¬h.IsBound := by
      have hspawned := (ho.untouched hs (by simp [lock_of_isUnused hu])).1
      simp [IsBound, hspawned, hs]
    exact .inl ⟨text, if_pos hs, hunbound, rfl⟩
  | renameIgnored _ _ hs => exact .inr ⟨if_neg hs, rfl⟩
  | _ => exact .inr ⟨rfl, rfl⟩

/-- The thread of a handle was granted to it under the name that it has now. -/
theorem Transition.thread (ht : Transition h a e) (ho : h.Ordered job) {course : Course J}
    (hc : e.state.spawned = some course) : e.state.name = h.name ∧
      ((∃ c, a = .spawn c (.ok course.thread)) ∨
        ∃ old, h.spawned = some old ∧ old.thread = course.thread) := by
  have hsame (old : Course J) (hold : h.spawned = some old) (hthread : old.thread = course.thread) :
      (∃ c, a = .spawn c (.ok course.thread)) ∨
        ∃ old, h.spawned = some old ∧ old.thread = course.thread :=
    .inr ⟨old, hold, hthread⟩
  cases ht with
  | grant =>
    cases hc
    exact ⟨rfl, .inl ⟨_, rfl⟩⟩
  | advance hs =>
    cases hc
    exact ⟨rfl, hsame _ hs rfl⟩
  | ended _ hs =>
    cases hc
    exact ⟨rfl, hsame _ hs rfl⟩
  | rename hu _ hs =>
    -- An idle handle that nobody uses has no thread.
    have hnone := (ho.untouched hs (by simp [lock_of_isUnused hu])).1
    rw [hnone] at hc
    cases hc
  | _ => exact ⟨rfl, hsame course hc rfl⟩

theorem Transition.isBound (ht : Transition h a e) (ho : h.Ordered job) (hb : h.IsBound) :
    e.state.IsBound := by
  refine hb.imp ht.spawned fun hs => ?_
  rcases ht.turn ho with hstage | hturn
  · rwa [hstage]
  · cases hstage : e.state.stage with
    | idle =>
      rw [hstage] at hturn
      cases hturn
    | _ => exact fun h => by cases h

/-- The thread that runs the closure returns from no call. -/
theorem not_returned_of_next {spare alive alive' : Bool} {stored stored' : Option J}
    {progress progress' : Progress J} {outcome : Outcome J}
    (hn : Progress.next spare stored alive progress = some (stored', alive', progress', outcome))
    (result : Except Error Unit) : outcome ≠ .returned result := by
  rintro rfl
  cases progress with
  | created => cases stored <;> cases hn
  | raised job => cases spare <;> cases hn
  | _ => cases hn

/-- The errors that a call returns go by the name of the handle. -/
theorem Transition.error (ht : Transition h a e) {error : Error}
    (he : e.outcome = .returned (.error error)) :
    (∃ refusal, error = .spawn h.name.text refusal) ∨ error = .panicked h.name.text := by
  cases ht with
  | refuse =>
    cases he
    exact .inl ⟨_, rfl⟩
  | joined _ _ hr =>
    obtain ⟨t, panicked, -, rfl⟩ := joinResult_eq_some_iff.1 hr
    cases panicked with
    | true =>
      cases he
      exact .inr rfl
    | false => cases he
  | advance _ hn | advanceInline _ _ hn => exact absurd he (not_returned_of_next hn _)
  | _ => cases he

end Step

/-! ## Every moment -/

section Run

variable {name : Option String} {job : J} {es fs : History J} {h h' : Handle J}

/-- The name of a handle is the last one that it was given while it was idle, cut. -/
theorem IsRun.name_eq (hr : IsRun (.ofOption name) job es h) :
    h.name = .ofString (lastName name job es) := by
  refine hr.invariant (fun es h => h.name = .ofString (lastName name job es)) rfl
    fun fs v a e hv ih he => ?_
  have hgiven : givenNames name job (fs ++ [e.after a]) =
      givenNames name job fs ++ (given? (v, e.after a)).toList := by
    rw [givenNames, hv.moments_snoc, filterMap_snoc, ← List.cons_append]
    rfl
  rcases (transition_of_step he).name (IsRun.ordered hv) with
    ⟨text, htext, -, hname⟩ | ⟨hnone, hname⟩
  · rw [htext] at hgiven
    simp [hname, lastName, hgiven]
  · rw [hnone] at hgiven
    simp [hname, ih, lastName, hgiven]

/-- A handle that has a thread, or was run, keeps its name. -/
theorem Ordered.name_of_run (ho : h.Ordered job) (hb : h.IsBound) (hf : Run step h fs h') :
    h'.name = h.name := by
  refine (hf.invariant (fun _ v => v.Ordered job ∧ v.IsBound ∧ v.name = h.name) ⟨ho, hb, rfl⟩
    fun _ v a e _ ⟨hov, hbv, hname⟩ he => ?_).2.2
  have ht := transition_of_step he
  refine ⟨ht.ordered hov, ht.isBound hov hbv, ?_⟩
  rcases ht.name hov with ⟨text, -, hunbound, -⟩ | ⟨-, hkept⟩
  · exact absurd hbv hunbound
  · exact hkept.trans hname

/-- How a handle that was made for `job` with `name`, if any, is named after `es`. -/
structure Named (name : Option String) (job : J) (es : History J) (h : Handle J) : Prop where
  last : h.name.text = cutName (lastName name job es)
  /-- A handle that has a thread, or is not idle any more, keeps its name. -/
  kept : h.spawned ≠ none ∨ h.stage ≠ .idle → ∀ fs h', Run step h fs h' → h'.name = h.name
  /-- A start that begins keeps the name, too. If the operating system refuses a thread, it returns
      an error that goes by this name. -/
  started : ∀ c d e fs h' answer f, h.stage = .idle → h.step (.start c) = some e →
    Run step e.state fs h' → (∀ o ∈ fs, ∀ x answer, o.action ≠ .spawn x answer) →
    h'.step (.spawn d answer) = some f → f.state.name = h.name ∧
      ∀ refusal, answer = .error refusal →
        f.outcome = .returned (.error (.spawn h.name.text refusal))
  /-- No call returns an error that goes by another name. -/
  errors : ∀ a e error, h.step a = some e → e.outcome = .returned (.error error) →
    (∃ refusal, error = .spawn h.name.text refusal) ∨ error = .panicked h.name.text

/-- A start keeps the name of the handle, and so does the error that it returns. -/
theorem Ordered.name_of_start (ho : h.Ordered job) (hs : h.stage = .idle) {c d : ThreadId}
    {e f : Effect (Handle J) (Outcome J)} {answer : Except Refusal ThreadId}
    (he : h.step (.start c) = some e) (hr : Run step e.state fs h')
    (hfs : ∀ o ∈ fs, ∀ x answer, o.action ≠ .spawn x answer)
    (hf : h'.step (.spawn d answer) = some f) :
    f.state.name = h.name ∧ ∀ refusal, answer = .error refusal →
      f.outcome = .returned (.error (.spawn h.name.text refusal)) := by
  have ht := transition_of_step he
  cases ht with
  | startIgnored _ hne => exact absurd hs hne
  | start ha _ =>
    -- Nothing happens until the operating system answers.
    obtain rfl := ((transition_of_step he).ordered ho).starting_of_run rfl hr hfs
    cases transition_of_step hf with
    | grant => exact ⟨rfl, fun refusal h => by cases h⟩
    | refuse =>
      refine ⟨rfl, fun refusal h => ?_⟩
      cases h
      rfl

theorem IsRun.named (hr : IsRun (.ofOption name) job es h) : Named name job es h where
  last := by rw [hr.name_eq, ThreadName.text_ofString]
  kept hb _ _ hf := hr.ordered.name_of_run hb hf
  started _ _ _ _ _ _ _ hs he hf hfs hspawn := hr.ordered.name_of_start hs he hf hfs hspawn
  errors _ _ _ he hout := (transition_of_step he).error hout

end Run

end Threading.Handle

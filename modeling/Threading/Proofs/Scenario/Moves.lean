import Threading.Proofs.Scenario.Turn

/-!
# Everything that can happen in a session

A *move* is all that can happen in a session at a moment: a thread takes its next step, the
program begins something on a thread of its own, a thread on which a panic is under way
does something before it unwinds any further, or a thread wakes for no reason. A
*run* is a list of moves, in any order (`Session.IsRun`). What a move came to tells the panics
that closures and the program raise (`raised`), and those that the library would raise on
its own account (`Told.failed`): no move comes to that.

A move takes one thread on at most (`Thread.Moves`), by a sound turn, and the threads that
hold locks stay in the calls that took them (`Moved`). So every session that can be reached
is *intact* (`Session.Intact`): every object got where it is by steps of its own, whoever
holds a lock is in the call that took it, every panic under way was raised on its thread,
and the operating system carries every name.
-/

namespace Threading.Scenario

/-- Something that can happen in a session. -/
inductive Move
  /-- A thread takes its next step. -/
  | turn (t : ThreadId)
  /-- The program does a step, on a thread of its own. -/
  | enter (step : Step)
  /-- A thread on which a panic is under way does a step before it unwinds any further. -/
  | cleanUp (t : ThreadId) (job : Option JobId) (step : Step)
  /-- A thread that waits for a permit wakes for no reason. -/
  | stirSemaphore (id : Nat) (t : ThreadId)
  /-- A thread that waits for an item wakes for no reason. -/
  | stirQueue (id : Nat) (t : ThreadId)
  /-- A worker wakes for no reason. -/
  | stirWorker (pool worker : Nat)
  /-- The thread of a job that waits for a permit wakes for no reason. -/
  | stirJob (pool : Nat) (t : ThreadId)
  /-- What happened so far is reported. -/
  | report

/-- What a move comes to. -/
inductive Told
  | quiet
  /-- A closure panics on the thread, or the program does. -/
  | raised (t : ThreadId) (message : String)
  /-- The library panics on the thread, on its own account. -/
  | failed (t : ThreadId) (message : String)
  deriving DecidableEq

/-- The panic that a closure raises, or the program. -/
def Told.raised? : Told → Option (ThreadId × String)
  | .raised t message => some (t, message)
  | _ => none

/-- A panic that is under way after a turn, and was not when this frame came to move. -/
def Turn.fresh? (next : Turn) (control : Control) (frame : Frame) : Option String :=
  next.panics.find? fun message => control.panic? != some message && frame.panic? != some message

namespace Session

/-- The session with the thread `t` as it is now. -/
def setThread (σ : Session) (t : ThreadId) (th : Thread) : Session :=
  { σ with threads := σ.threads.setIfInBounds t th }

/-- What the next step of the thread `t` comes to. -/
def told (σ : Session) (t : ThreadId) : Told :=
  match σ.threads[t]? with
  | some { control, frames := frame :: _, .. } =>
    match Scenario.raised? control frame with
    | some message => .raised t message
    | none =>
      match (σ.turn t control frame).bind (Turn.fresh? · control frame) with
      | some message => .failed t message
      | none => .quiet
  | _ => .quiet

/-- The session after a move, and what the move came to; `none` if it is not possible. -/
def move (σ : Session) : Move → Option (Effect Session Told)
  | .turn t => (σ.step t).map fun τ => { state := τ, outcome := σ.told t }
  | .enter step =>
    some { state := (σ.addThread { frames := [.perform none step] }).1, outcome := .quiet }
  | .cleanUp t job step => do
    match ← σ.threads[t]? with
    | { name, control := .fail message, frames := frame :: rest } =>
      if step.isCall then
        some {
          state := σ.setThread t {
            name
            frames := .perform job step :: .resume (.fail message) :: frame :: rest }
          outcome := .quiet }
      else none
    | _ => none
  | .stirSemaphore id t =>
    (σ.stepSemaphore id (.stir t)).map fun x => { state := x.1, outcome := .quiet }
  | .stirQueue id t => (σ.stepQueue id (.stir t)).map fun x => { state := x.1, outcome := .quiet }
  | .stirWorker pool worker =>
    (σ.stepWorkers pool (.stir worker)).map fun x => { state := x.1, outcome := .quiet }
  | .stirJob pool t => (σ.stepJobs pool (.stir t)).map fun x => { state := x.1, outcome := .quiet }
  | .report => some { state := { σ with events := #[], notices := #[] }, outcome := .quiet }

end Session

/-! ## Histories -/

/-- What happened in a session. -/
abbrev History := List (Occurrence Move Told)

/-- The session began empty, then `es` happened, and now it is `σ`. -/
def Session.IsRun (es : History) (σ : Session) : Prop := Run move {} es σ

/-- The panics that closures and the program raised, each with the thread. -/
def raised (es : History) : List (ThreadId × String) := es.filterMap (·.outcome.raised?)

theorem raised_snoc (es : History) (o : Occurrence Move Told) :
    raised (es ++ [o]) = raised es ++ o.outcome.raised?.toList :=
  filterMap_snoc _ es o

/-! ## What a move does to a thread -/

/-- A move after which the thread `t` of `σ` is `th'`, where it was `th`. -/
inductive Thread.Moves (σ : Session) (t : ThreadId) (th : Thread) (told : Told) : Thread → Prop
  /-- Another thread moves, or none. -/
  | stays : Moves σ t th told th
  /-- The thread takes a turn. -/
  | turns {frame : Frame} {rest : List Frame} {next : Turn} :
    th.frames = frame :: rest → next.Sound σ t th.control frame →
    (∀ message, Scenario.raised? th.control frame = some message →
      told.raised? = some (t, message)) →
    Moves σ t th told { th with control := next.control, frames := next.frames ++ rest }
  /-- The thread does a step while a panic is under way. -/
  | cleansUp {message : String} {job : Option JobId} {step : Step} :
    th.control = .fail message → step.isCall = true →
    Moves σ t th told { th with
      control := .go
      frames := .perform job step :: .resume (.fail message) :: th.frames }

theorem panicsOf_append (control : Control) (above below : List Frame) :
    panicsOf control (above ++ below) = panicsOf control above ++ below.filterMap Frame.panic? := by
  rw [panicsOf, panicsOf, List.filterMap_append, List.append_assoc]

theorem panicsOf_cons (control : Control) (f : Frame) (rest : List Frame) :
    panicsOf control (f :: rest) =
      control.panic?.toList ++ (f.panic?.toList ++ rest.filterMap Frame.panic?) := by
  rw [panicsOf, List.filterMap_cons]
  cases f.panic? <;> rfl

section Thread

variable {σ : Session} {t : ThreadId} {th th' : Thread} {told : Told}

theorem Thread.Moves.name (h : th.Moves σ t told th') : th'.name = th.name := by
  cases h <;> rfl

/-- The topmost frame of a thread that is in a call is a frame of the call. -/
theorem frames_of_call {frame : Frame} {rest top below : List Frame}
    (hrest : th.frames = frame :: rest) (htop : th.frames = top ++ below)
    (hcall : top ≠ [] ∨ below = []) : ∃ rest', top = frame :: rest' ∧ rest = rest' ++ below := by
  rcases List.cons_eq_append_iff.1 (hrest.symm.trans htop) with ⟨rfl, hbelow⟩ | hsplit
  · rcases hcall with hcall | rfl
    · exact absurd rfl hcall
    · cases hbelow
  · exact hsplit

/-- The panics under way in the frames of a call were under way before, or are raised by the
    move. The frames of a thread are the frames of one call, in that sense. -/
theorem Thread.Moves.panics (h : th.Moves σ t told th') {top below : List Frame}
    (hframes : th.frames = top ++ below) (hcall : top ≠ [] ∨ below = []) :
    ∃ top', th'.frames = top' ++ below ∧ ∀ message ∈ panicsOf th'.control top',
      message ∈ panicsOf th.control top ∨ told.raised? = some (t, message) := by
  cases h with
  | stays => exact ⟨top, hframes, fun message hm => .inl hm⟩
  | @turns frame rest next hth hnext hraised =>
    obtain ⟨rest', rfl, rfl⟩ := frames_of_call hth hframes hcall
    refine ⟨next.frames ++ rest', (List.append_assoc ..).symm, fun message hm => ?_⟩
    rw [panicsOf_append, List.mem_append] at hm
    rw [panicsOf_cons, List.mem_append, List.mem_append]
    rcases hm with hm | hm
    · rcases hnext.panics message hm with hm | hm | hm
      · exact .inl (.inl (Option.mem_toList.2 hm))
      · exact .inl (.inr (.inl (Option.mem_toList.2 hm)))
      · exact .inr (hraised message hm)
    · exact .inl (.inr (.inr hm))
  | @cleansUp message job step hcontrol _ =>
    refine ⟨.perform job step :: .resume (.fail message) :: top, by rw [hframes]; rfl,
      fun m hm => .inl ?_⟩
    rw [hcontrol]
    exact hm

end Thread

/-! ## What a move does to a session -/

namespace Session

/-- Whoever holds a lock is in the call that took it. -/
def Held (σ : Session) : Prop := ∀ m u, σ.view.holder m = some u →
  ∃ th, σ.threads[u]? = some th ∧ Inside m th.control th.frames

/-- What a move does. -/
structure Moved (σ : Session) (told : Told) (τ : Session) : Prop where
  lawful : σ.view.Lawful → τ.view.Lawful
  kept : ∀ (t : ThreadId) (th : Thread), σ.threads[t]? = some th →
    ∃ th', τ.threads[t]? = some th' ∧ th.Moves σ t told th'
  begun : ∀ (t : ThreadId) (th' : Thread), τ.threads[t]? = some th' →
    (∃ th, σ.threads[t]? = some th) ∨ th'.IsNew
  held : σ.view.Lawful → Held σ → Held τ
  unfailed : ∀ t message, told ≠ .failed t message

variable {σ τ ρ : Session} {t : ThreadId} {th : Thread} {control : Control} {frame : Frame}
  {rest : List Frame} {next : Turn} {told : Told}

theorem holder_setThread (σ : Session) (t : ThreadId) (th : Thread) (m : Mutex) :
    (σ.setThread t th).view.holder m = σ.view.holder m := rfl

theorem threads_setThread (ht : σ.threads[t]? = some th) (th' : Thread) (u : ThreadId) :
    (σ.setThread t th').threads[u]? = if t = u then some th' else σ.threads[u]? := by
  obtain ⟨hlt, -⟩ := Array.getElem?_eq_some_iff.1 ht
  rw [setThread, Array.getElem?_setIfInBounds, if_pos hlt]

theorem lawful_setThread (hv : σ.view.Lawful) (ht : σ.threads[t]? = some th) {th' : Thread}
    (hname : th'.name = th.name) : (σ.setThread t th').view.Lawful where
  semaphores := hv.semaphores
  handles := hv.handles
  pools := hv.pools
  names id h course hh hc := by
    obtain ⟨x, hx, hcarried⟩ := hv.names id h course hh hc
    by_cases htu : t = course.thread
    · obtain rfl : th = x := Option.some.inj (ht.symm.trans (htu ▸ hx))
      exact ⟨th', (threads_setThread ht th' _).trans (if_pos htu), hname.trans hcarried⟩
    · exact ⟨x, (threads_setThread ht th' _).trans ((if_neg htu).trans hx), hcarried⟩

/-- A thread that is another one now, in a session that followed. -/
theorem kept_setThread (hσ : σ.threads[t]? = some th) (hρ : View.Follows σ.view ρ.view)
    {th' : Thread} (hmoves : th.Moves σ t told th') (u : ThreadId) (x : Thread)
    (hx : σ.threads[u]? = some x) :
    ∃ x', (ρ.setThread t th').threads[u]? = some x' ∧ x.Moves σ u told x' := by
  rw [threads_setThread (hρ.threads t th hσ)]
  split
  · next htu =>
    subst htu
    cases hσ.symm.trans hx
    exact ⟨th', rfl, hmoves⟩
  · exact ⟨x, hρ.threads u x hx, .stays⟩

theorem begun_setThread (hσ : σ.threads[t]? = some th) (hρ : View.Follows σ.view ρ.view)
    (th' : Thread) (u : ThreadId) (x' : Thread)
    (hx : (ρ.setThread t th').threads[u]? = some x') :
    (∃ x, σ.threads[u]? = some x) ∨ x'.IsNew := by
  rw [threads_setThread (hρ.threads t th hσ)] at hx
  split at hx
  · next htu => exact .inl ⟨th, htu ▸ hσ⟩
  · rcases hρ.begun u x' hx with hx | hnew
    · exact .inl ⟨x', hx⟩
    · exact .inr hnew

/-- A move of no thread that takes no lock. -/
theorem moved_of_eases (h : View.Eases σ.view τ.view) : Moved σ .quiet τ where
  lawful := h.lawful
  kept t th ht := ⟨th, h.threads t th ht, .stays⟩
  begun t th' ht := by
    rcases h.begun t th' ht with ht | hnew
    · exact .inl ⟨th', ht⟩
    · exact .inr hnew
  held hv hheld m u hu := by
    obtain ⟨th, ht, hin⟩ := hheld m u (h.frees hv m u hu)
    exact ⟨th, h.threads u th ht, hin⟩
  unfailed _ _ h := by cases h

/-- A thread does a step while a panic is under way. It is in no call with a lock then. -/
theorem moved_cleanUp {message : String} {job : Option JobId} {step : Step}
    (ht : σ.threads[t]? = some th) (hcontrol : th.control = .fail message)
    (hcall : step.isCall = true) :
    Moved σ .quiet (σ.setThread t { th with
      control := .go
      frames := .perform job step :: .resume (.fail message) :: th.frames }) where
  lawful hv := lawful_setThread hv ht rfl
  kept := kept_setThread ht (View.Eases.refl _).toFollows (.cleansUp hcontrol hcall)
  begun := begun_setThread ht (View.Eases.refl _).toFollows _
  held _ hheld m u hu := by
    obtain ⟨x, hx, hin⟩ := hheld m u hu
    have htu : t ≠ u := by
      rintro rfl
      cases ht.symm.trans hx
      have hpanic := hin.head.1
      rw [hcontrol] at hpanic
      cases hpanic
    exact ⟨x, by rw [threads_setThread ht, if_neg htu, hx], hin⟩
  unfailed _ _ h := by cases h

/-- A thread that was in a call with a lock still is after a turn, unless the call let go of
    the lock. -/
theorem inside_turn {m : Mutex} (h : Inside m control (frame :: rest))
    (hsilent : ∀ below, Silent control (frame :: below) →
      Silent next.control (next.frames ++ below))
    (hf : control = .go → frame.holds m = false) :
    Inside m next.control (next.frames ++ rest) := by
  obtain ⟨above, f, below, hframes, hholds, hs⟩ := h
  cases above with
  | nil =>
    cases hframes
    cases hs
    rw [hf rfl] at hholds
    cases hholds
  | cons g above =>
    cases hframes
    exact ⟨next.frames ++ above, f, below, (List.append_assoc ..).symm, hholds, hsilent above hs⟩

/-- A sound turn of a thread. -/
theorem moved_turn (ht : σ.threads[t]? = some th) (hframes : th.frames = frame :: rest)
    (hnext : next.Sound σ t th.control frame)
    (hsilent : ∀ below, Silent th.control (frame :: below) →
      Silent next.control (next.frames ++ below))
    (hraised : ∀ message, Scenario.raised? th.control frame = some message →
      told.raised? = some (t, message))
    (hunfailed : ∀ u message, told ≠ .failed u message) :
    Moved σ told (next.session.setThread t
      { th with control := next.control, frames := next.frames ++ rest }) where
  lawful hv := lawful_setThread (hnext.follows.lawful hv) (hnext.follows.threads t th ht) rfl
  kept := kept_setThread ht hnext.follows (.turns hframes hnext hraised)
  begun := begun_setThread ht hnext.follows _
  held hv hheld m u hu := by
    have ht' := hnext.follows.threads t th ht
    rw [holder_setThread] at hu
    rw [threads_setThread ht']
    rcases hnext.locks hv m u hu with ⟨rfl, above, f, below, hnextframes, hholds, hs⟩ | ⟨hu, hf⟩
    · rw [if_pos rfl]
      refine ⟨_, rfl, above, f, below ++ rest, ?_, hholds, hs⟩
      rw [hnextframes, List.append_assoc, List.cons_append]
    · obtain ⟨x, hx, hin⟩ := hheld m u hu
      split
      · next htu =>
        subst htu
        cases ht.symm.trans hx
        rw [hframes] at hin
        exact ⟨_, rfl, inside_turn hin hsilent (hf rfl)⟩
      · exact ⟨x, hnext.follows.threads u x hx, hin⟩
  unfailed := hunfailed

/-- After a sound turn no panic is under way but old ones, and what a closure raised. -/
theorem fresh?_eq_none (h : next.Sound σ t control frame)
    (hraised : Scenario.raised? control frame = none) : next.fresh? control frame = none := by
  rw [Turn.fresh?, List.find?_eq_none]
  intro message hm
  rcases h.panics message hm with hold | hold | hnew
  · simp [hold]
  · simp [hold]
  · rw [hraised] at hnew
    cases hnew

/-- No turn makes the library panic on its own account. -/
theorem told_ne_failed (σ : Session) (t u : ThreadId) (message : String) :
    σ.told t ≠ .failed u message := by
  intro h
  rw [told.eq_def] at h
  split at h
  · next control frame rest hth =>
    split at h
    · cases h
    · next hraised =>
      cases hturn : σ.turn t control frame with
      | none =>
        rw [hturn, Option.bind_none] at h
        cases h
      | some next =>
        rw [hturn, Option.bind_some, fresh?_eq_none (turn_sound hturn) hraised] at h
        cases h
  · cases h

/-- What a move of a thread does. -/
theorem moved_of_step (ht : σ.threads[t]? = some th) (hframes : th.frames = frame :: rest)
    (hturn : σ.turn t th.control frame = some next) :
    Moved σ (σ.told t) (next.session.setThread t
      { th with control := next.control, frames := next.frames ++ rest }) := by
  obtain ⟨name, control, frames⟩ := th
  cases hframes
  refine moved_turn ht rfl (turn_sound hturn) (fun below hs => silent_turn hs hturn)
    (fun message hm => ?_) (σ.told_ne_failed t)
  dsimp only at hm
  simp only [told, ht, hm, Told.raised?]

/-- What a move does. -/
theorem moved_of_move {a : Move} {e : Effect Session Told} (he : σ.move a = some e) :
    Moved σ e.outcome e.state := by
  cases a with
  | turn t =>
    obtain ⟨τ, hstep, rfl⟩ := Option.map_eq_some_iff.1 he
    obtain ⟨th, ht, hstep⟩ := Option.bind_eq_some_iff.1 hstep
    split at hstep
    · cases hstep
    · next frame rest hframes =>
      obtain ⟨next, hturn, hstep⟩ := Option.bind_eq_some_iff.1 hstep
      cases hstep
      exact moved_of_step ht hframes hturn
  | enter step =>
    cases he
    refine moved_of_eases (σ.eases_addThread ⟨rfl, fun name h => ?_⟩)
    cases h
  | cleanUp t job step =>
    obtain ⟨th, ht, he⟩ := Option.bind_eq_some_iff.1 he
    split at he
    · split at he
      · next hcall =>
        cases he
        exact moved_cleanUp ht rfl hcall
      · cases he
    · cases he
  | stirSemaphore id t =>
    obtain ⟨⟨τ, o⟩, hstep, rfl⟩ := Option.map_eq_some_iff.1 he
    exact moved_of_eases (eases_stepSemaphore hstep)
  | stirQueue id t =>
    obtain ⟨⟨τ, o⟩, hstep, rfl⟩ := Option.map_eq_some_iff.1 he
    exact moved_of_eases (.of_eq (view_stepQueue hstep))
  | stirWorker pool worker =>
    obtain ⟨⟨τ, o⟩, hstep, rfl⟩ := Option.map_eq_some_iff.1 he
    refine moved_of_eases (eases_stepWorkers hstep fun c hc => ?_)
    cases hc
  | stirJob pool t =>
    obtain ⟨⟨τ, o⟩, hstep, rfl⟩ := Option.map_eq_some_iff.1 he
    exact moved_of_eases (eases_stepJobs hstep rfl)
  | report =>
    cases he
    exact moved_of_eases (.refl _)

/-! ## Every moment -/

/-- What holds in a session after `es`. -/
structure Intact (es : History) (σ : Session) : Prop where
  lawful : σ.view.Lawful
  held : Held σ
  unfailed : ∀ o ∈ es, ∀ t message, o.outcome ≠ .failed t message
  /-- A panic that is under way was raised on that thread. -/
  panics : ∀ (t : ThreadId) (th : Thread), σ.threads[t]? = some th →
    ∀ message ∈ th.panics, (t, message) ∈ raised es
  names : ∀ (t : ThreadId) (th : Thread), σ.threads[t]? = some th →
    ∀ name, th.name = some name → Carried name

theorem intact_empty : Intact [] {} where
  lawful :=
    { semaphores := fun id s h => by cases h
      handles := fun id h hh => by cases hh
      pools := fun id p hp => by cases hp
      names := fun id h course hh => by cases hh }
  held m u hu := by cases m <;> cases hu
  unfailed o ho := absurd ho List.not_mem_nil
  panics t th h := by cases h
  names t th h := by cases h

/-- Every move keeps a session intact. -/
theorem Intact.snoc {es : History} (h : Intact es σ) {o : Occurrence Move Told}
    (hm : Moved σ o.outcome τ) : Intact (es ++ [o]) τ where
  lawful := hm.lawful h.lawful
  held := hm.held h.lawful h.held
  unfailed := List.forall_mem_append.2 ⟨h.unfailed, List.forall_mem_singleton.2 hm.unfailed⟩
  panics t th' ht message hmem := by
    rw [raised_snoc, List.mem_append, Option.mem_toList]
    rcases hm.begun t th' ht with ⟨th, hth⟩ | hnew
    · obtain ⟨th'', hth'', hmoves⟩ := hm.kept t th hth
      cases ht.symm.trans hth''
      obtain ⟨top, htop, hpanics⟩ := hmoves.panics (List.append_nil _).symm (.inr rfl)
      rw [List.append_nil] at htop
      rw [Thread.panics, htop] at hmem
      rcases hpanics message hmem with hold | hraised
      · exact .inl (h.panics t th hth message hold)
      · exact .inr hraised
    · rw [hnew.panics] at hmem
      exact absurd hmem List.not_mem_nil
  names t th' ht name hname := by
    rcases hm.begun t th' ht with ⟨th, hth⟩ | hnew
    · obtain ⟨th'', hth'', hmoves⟩ := hm.kept t th hth
      cases ht.symm.trans hth''
      rw [hmoves.name] at hname
      exact h.names t th hth name hname
    · exact hnew.name name hname

theorem IsRun.intact {es : History} (h : IsRun es σ) : Intact es σ :=
  h.invariant Intact intact_empty fun _ _ _ _ _ ih he => ih.snoc (moved_of_move he)

end Session

end Threading.Scenario

import Threading.Proofs.Scenario.Moves

/-!
# Names, from the text to the thread

A handle that was given a name, and any other names while it was idle, goes by the last one,
cut as little as possible (`CutLittle`). A session creates a thread under the name that its
handle has at that moment, and after that the handle keeps its name. So in every session that can
be reached the thread of a handle goes by the name of the handle, whatever happened to either
(`names_cut_and_kept`).
-/

namespace Threading

/-- The text is cut to the longest name that can be carried, and no character is split. -/
structure CutLittle (text : String) : Prop where
  cut : IsCut text (cutName text)
  walked : cutByWalking text = some (cutName text)
  whole : '\x00' ∉ text.toList → text.utf8ByteSize ≤ maxNameBytes → cutName text = text
  /-- If too much stands before the first NUL, all but three bytes are used at least. -/
  long : maxNameBytes < byteSize (text.toList.takeWhile (· != '\x00')) →
    60 ≤ (cutName text).utf8ByteSize
  again : cutName (cutName text) = cutName text

theorem cutLittle (text : String) : CutLittle text where
  cut := isCut_cutName text
  walked := cutByWalking_eq text
  whole hnul hle := cutName_of_carried ⟨hnul, hle⟩
  long hlong := by
    have hkept := lt_byteSize_fitBytes hlong
    have hmax : maxNameBytes = 63 := rfl
    rw [cutName, utf8ByteSize_ofList, cutChars]
    omega
  again := cutName_cutName text

/-- A name is the name of a handle that was made with its text. -/
theorem ThreadName.ofOption_text (name : ThreadName) : ofOption (some name.text) = name := by
  obtain ⟨text, hcut⟩ := name
  simp only [ofOption, ofString, Option.getD_some, hcut]

namespace Scenario

variable {es : History} {σ : Session}

/-- A handle of a session was made with some name, got where it is by steps of its own, and its
    thread goes by its name. -/
structure Session.KeepsName (σ : Session) (h : Handle JobId) : Prop where
  made : ∃ name job fs, Handle.IsRun (.ofOption name) job fs h
  thread : ∀ course, h.spawned = some course →
    ∃ th, σ.threads[course.thread]? = some th ∧ th.name = some h.name.text

theorem Session.IsRun.keepsName (hr : IsRun es σ) {id : Nat} {x : Owned (Handle JobId)}
    (hx : σ.handles[id]? = some x) : σ.KeepsName x.object where
  made := by
    obtain ⟨name, job, fs, hrun⟩ := hr.intact.lawful.handles id x.object (objects_eq_some hx)
    exact ⟨some name.text, job, fs, by rwa [name.ofOption_text]⟩
  thread course hc := hr.intact.lawful.names id x.object course (objects_eq_some hx) hc

end Scenario

/-- Names are cut as little as possible, and kept from the start on. A name is the longest beginning
    of a text that the operating system carries. A handle goes by the last name that it was given
    while it was idle, cut like this, and so does its thread, and every error that its calls
    return. -/
theorem names_cut_and_kept {J : Type} :
    (∀ text, CutLittle text) ∧
    (∀ (name : Option String) (job : J) (es : Handle.History J) (h : Handle J),
      Handle.IsRun (.ofOption name) job es h → Handle.Named name job es h) ∧
    ∀ (es : Scenario.History) (σ : Scenario.Session), Scenario.Session.IsRun es σ →
      ∀ (id : Nat) (x : Scenario.Owned (Handle Scenario.JobId)), σ.handles[id]? = some x →
        σ.KeepsName x.object :=
  ⟨cutLittle, fun _ _ _ _ hr => hr.named, fun _ _ hr _ _ hx => hr.keepsName hx⟩

/-- Forty letters of two bytes each are cut to thirty-one, under which the first start is refused.
    The handle is renamed, and the second start gets its thread; the next name comes too late. -/
theorem names_cut_and_kept_after_refusal :
    (CutLittle (String.ofList (List.replicate 40 'é')) ∧
      cutName (String.ofList (List.replicate 40 'é')) = String.ofList (List.replicate 31 'é')) ∧
    (∃ (es : Handle.History Nat) (h : Handle Nat), Handle.IsRun (.ofOption none) 10 es h ∧
      Handle.Named none 10 es h ∧ Handle.givenNames none 10 es =
        ["Thread", String.ofList (List.replicate 40 'é'), "late"] ∧ h.name.text = "late") ∧
    ∃ (es : Scenario.History) (σ : Scenario.Session)
      (x : Scenario.Owned (Handle Scenario.JobId)), Scenario.Session.IsRun es σ ∧
      σ.handles[0]? = some x ∧ σ.KeepsName x.object ∧ x.object.name.text = "late" ∧
      (σ.threads[5]?.bind Scenario.Thread.name) = some "late" := by
  obtain ⟨hcut, hnamed, hcarried⟩ := names_cut_and_kept (J := Nat)
  refine ⟨⟨hcut _, by decide +kernel⟩, ?_, ?_⟩
  · obtain ⟨es, h, hrun, hf⟩ := exists_run Handle.step (Handle.create (.ofOption none) 10)
      [.rename (String.ofList (List.replicate 40 'é')), .start 1,
        .spawn 1 (.error (.system 11)), .rename "late", .start 1, .spawn 1 (.ok 5), .proceed 1,
        .rename "later", .advance 5]
      (fun es h => (Handle.givenNames none 10 es, h.name.text))
      (["Thread", String.ofList (List.replicate 40 'é'), "late"], "late") (by decide +kernel)
    simp only [Prod.mk.injEq] at hf
    exact ⟨es, h, hrun, hnamed none 10 es h hrun, hf⟩
  · obtain ⟨es, σ, hrun, hf⟩ := exists_run Scenario.Session.move {}
      ([.enter (.handleNew "h" none [] false), .turn 0,
        .enter (.rename "h" (String.ofList (List.replicate 40 'é'))), .turn 1,
        .enter (.start "h" { refused := .all }), .turn 2, .turn 2, .turn 2,
        .enter (.rename "h" "late"), .turn 3, .enter (.start "h" {}), .turn 4, .turn 4, .turn 4,
        .enter (.rename "h" "later"), .turn 6])
      (fun _ σ => (σ.handles[0]?.map (·.object.name.text), σ.threads[5]?.bind Scenario.Thread.name))
      (some "late", some "late") (by decide +kernel)
    simp only [Prod.mk.injEq] at hf
    obtain ⟨x, hx, hname⟩ := Option.map_eq_some_iff.1 hf.1
    exact ⟨es, σ, x, hrun, hx, hcarried es σ hrun 0 x hx, hname, hf.2⟩

end Threading

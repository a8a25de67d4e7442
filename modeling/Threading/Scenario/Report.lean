import Threading.Scenario.Execution

/-!
# Reports on scenarios

The steps of a scenario are started one after the other, each on a thread of its
own, and each only when the session is settled. The report has an entry for every
step, written when the session is settled again: the result of the step or that it
is blocked, the earlier steps that are over by now, the events, and the log.

If the scenario is not *ordered*, only what does not depend on the order in which
threads move is shown: events are put together by body and sorted, and the log
hides the numbers of workers.
-/

namespace Threading.Scenario

/-! ## Logs -/

/-- The text after `start`, if `text` begins with it. -/
def afterStart? (start text : List Char) : Option (List Char) :=
  if start.isPrefixOf text then some (text.drop start.length) else none

/-- The message of a worker without its number: that it runs a task, exits or is
    lost. -/
def hideWorker (message : List Char) : List Char :=
  match afterStart? "Worker ".toList message with
  | none => message
  | some rest =>
    let (number, rest) := (rest.takeWhile Char.isDigit, rest.dropWhile Char.isDigit)
    let shown := [" running".toList, " exiting".toList, " lost".toList].any (·.isPrefixOf rest)
    if number.isEmpty || !shown then message else "Worker *".toList ++ rest

/-- The message without the number of the thread that it reports as panicked at
    its end. -/
def hidePanicked (message : List Char) : List Char :=
  match afterStart? "` panicked".toList.reverse message.reverse with
  | none => message
  | some before =>
    let (number, before) := (before.takeWhile Char.isDigit, before.dropWhile Char.isDigit)
    match number, before with
    | _ :: _, '-' :: name =>
      if (List.range name.length).any fun n =>
          "thread `".toList.reverse.isPrefixOf (name.drop n) then
        name.reverse ++ "-*` panicked".toList
      else message
    | _, _ => message

/-- The line of a record. -/
def logLine (ordered : Bool) (r : Record) : String :=
  if ordered then r.line
  else Record.line { r with message := String.ofList (hidePanicked (hideWorker r.message.toList)) }

/-- The lines of notices, sorted. -/
def logLines (ordered : Bool) (notices : List Notice) : List String :=
  (notices.map fun n => logLine ordered n.record).mergeSort fun a b => decide (a ≤ b)

/-! ## Events -/

/-- What the events of one body or item are sorted by. -/
def groupKey (events : List Event) : String × String :=
  ((events.head?.map Event.actor).getD "", (Value.arr (events.map Event.value)).compact)

/-- The key `a` comes before the key `b`, or is the same. -/
def keyLe (a b : String × String) : Bool :=
  if a.1 = b.1 then decide (a.2 ≤ b.2) else decide (a.1 ≤ b.1)

/-- The events put together by the body or item they belong to, and sorted. -/
def groupEvents (events : List Event) : List Event :=
  let origins := (events.map Event.origin).eraseDups
  let groups := origins.map fun o => events.filter fun e => e.origin == o
  let keyed := groups.map fun g => (groupKey g, g)
  ((keyed.mergeSort fun a b => keyLe a.1 b.1).map (·.2)).flatten

/-- The events as they are shown. -/
def shownEvents (ordered : Bool) (events : List Event) : List Value :=
  (if ordered then events else groupEvents events).map Event.value

/-! ## Steps -/

/-- A scenario, and how it is reported on. -/
structure Script where
  steps : List Value
  ordered : Bool := false
  logged : Bool := false

/-- A step that was blocked when its entry was written. -/
structure Pending where
  /-- The word and the name of the step. -/
  label : String
  thread : ThreadId

/-- How often the mark in a step is replaced, with everything nested in it. -/
def effort : Nat → Value → Nat
  | 0, _ => 1
  | depth + 1, .arr items => items.foldl (fun n v => n + effort depth v) 1
  | depth + 1, .obj fields =>
    let times := max 1 (((fields.lookup "n").bind Value.nat?).getD 1)
    let threads :=
      if fields.lookup "kind" |>.isSome then 0
      else ((fields.lookup "threads").bind Value.nat?).getD 0
    times * fields.foldl (fun n (_, v) => n + effort depth v) (threads + 1)
  | _, _ => 1

/-- A bound on the steps that the threads of a scenario take. -/
def Script.fuel (s : Script) : Nat :=
  let size := s.steps.foldl (fun n v => n + effort (v.depth + 1) v) 8
  64 * size * size

/-- The session when no thread can move any more. -/
def Session.settle (fuel : Nat) (σ : Session) : Session :=
  Schedule.settle Session.step (fun σ => σ.threads.size) fuel fuel σ

/-- The result of a thread, if it is over. -/
def Session.result? (σ : Session) (t : ThreadId) : Option Value := σ.threads[t]?.bind Thread.result?

/-- The entries for the steps from here on, the last first, and the steps still
    blocked at the end. -/
def entries (s : Script) (fuel : Nat) (σ : Session) (pending : List Pending) (done : List Value) :
    List Value → List Value × List Pending
  | [] => (done, pending)
  | v :: rest =>
    let σ := { σ with events := #[], notices := #[] }
    let (σ, t) := match Step.ofValue? v with
      | some step => σ.addThread { frames := [.perform none step] }
      | none => σ.addThread { control := .give noObject, frames := [] }
    let σ := σ.settle fuel
    let word := (textField "do" v).getD ""
    let ended := pending.filterMap fun p =>
      (σ.result? p.thread).map fun r => Value.arr [.str p.label, r]
    let pending := pending.filter fun p => (σ.result? p.thread).isNone
    let (result, pending) : Value × List Pending := match σ.result? t with
      | some r => (r, pending)
      | none => ("blocked", pending ++ [⟨word ++ " " ++ stepId v, t⟩])
    let events := shownEvents s.ordered σ.events.toList
    let log := logLines s.ordered σ.notices.toList
    let entry : List (String × Value) :=
      [("r", result)]
        ++ (if ended.isEmpty then [] else [("done", .arr (Value.sortByText ended))])
        ++ (if events.isEmpty then [] else [("events", .arr events)])
        ++ (if s.logged then [("log", .arr (log.map .str))] else [])
    let done := Value.obj entry :: done
    entries s fuel σ pending done rest

/-- The report on a scenario. -/
def Script.report (s : Script) : Value :=
  let (done, pending) := entries s s.fuel {} [] [] s.steps
  .obj [("steps", .arr done.reverse), ("unfinished", pending.length)]

/-- The scenario that an object describes. -/
def Script.ofValue (v : Value) : Script :=
  { steps := (listField "ops" v).getD []
    ordered := flagField "ordered" v
    logged := flagField "logs" v }

end Threading.Scenario

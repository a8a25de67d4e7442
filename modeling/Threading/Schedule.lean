/-!
# Schedules

Threads are *agents* sharing one state. `step s a` is the state after agent `a`
takes its next atomic step from `s`, or `none` if `a` cannot move: it has ended,
sleeps, or waits for another agent. A run is a choice, at every moment, of one
step that is possible. The steps of a single object are told apart by *actions*
rather than agents.

The schedule computed here is one of the runs: in rounds, every agent in turn moves
as long as it can (`runAgent`), until a whole round finds nobody able to move
(`settle`). Then the state is *settled*.
-/

namespace Threading

/-- The number of a thread. -/
abbrev ThreadId := Nat

namespace Schedule

variable {σ : Type}

/-- The state after `agent` moved as long as it could, at most `fuel` times. -/
def runAgent (step : σ → Nat → Option σ) (agent : Nat) : Nat → σ → σ
  | 0, s => s
  | fuel + 1, s =>
    match step s agent with
    | none => s
    | some s' => runAgent step agent fuel s'

/-- The state after one round of the agents below `count`. -/
def round (step : σ → Nat → Option σ) (fuel count : Nat) (s : σ) : σ :=
  (List.range count).foldl (fun s agent => runAgent step agent fuel s) s

/-- No agent below `count` can move. -/
def settled (step : σ → Nat → Option σ) (count : Nat) (s : σ) : Bool :=
  (List.range count).all fun agent => (step s agent).isNone

/-- The state after rounds of all agents until none can move, at most `rounds`
    of them; agents may come into being on the way. -/
def settle (step : σ → Nat → Option σ) (agents : σ → Nat) (fuel : Nat) : Nat → σ → σ
  | 0, s => s
  | rounds + 1, s =>
    if settled step (agents s) s then s
    else settle step agents fuel rounds (round step fuel (agents s) s)

end Schedule

end Threading

import Threading.CommandLine.Duration
import Threading.CommandLine.Help
import Threading.CommandLine.LogFilter
import Threading.CommandLine.QueueRun

/-!
# The program

What the program does with a command line: what it prints and logs, and its exit
code. A command line that is not understood ends with code 2, an error in a
command with code 1.
-/

namespace Threading.CommandLine

/-- The surroundings of a run of the program. -/
structure Surroundings where
  /-- The filter for records, if one is set. -/
  filter : Option String := none
  /-- The number of processors. -/
  processors : Nat := 1
  /-- Whether the operating system refuses to create the thread of a worker. -/
  refusal : Nat → Option Refusal := fun _ => none
  /-- The nanoseconds that a command takes besides the simulated work. -/
  elapsed : Nat := 0

/-- What the program leaves behind. -/
structure Output where
  code : Nat := 0
  stdout : String := ""
  /-- What it writes to standard error besides the log. -/
  complaints : String := ""
  /-- The records that are shown, in order. -/
  log : List Record := []
  /-- The milliseconds that the simulated work takes. -/
  workTime : Nat := 0

/-- The output of a command that fails. -/
def failing (log : List Record) (e : Error) : Output :=
  { code := 1, log := log ++ [⟨.error, "workpool", e.message⟩] }

/-- A line that was printed. -/
def printedLine (line : Option String) : String := (line.map (· ++ "\n")).getD ""

/-- The output of the run of tasks on workers. -/
def runPool (s : Surroundings) (workers tasks workTime : Nat) : Output :=
  match PoolRun.create ((List.range workers).map s.refusal) tasks with
  | .error e => failing [] e
  | .ok r =>
    let r := r.finish
    match r.place with
    | .finished =>
      let workTime := workTime * ((tasks + workers - 1) / workers)
      let elapsed := 1000000 * workTime + s.elapsed
      { stdout := printedLine r.printed
        log := (r.note s!"Pool destroyed after {shownDuration elapsed}").log.reverse
        workTime }
    | .failed e => failing r.log.reverse e
    | _ => { log := r.log.reverse }

/-- The output of the run of producers and consumers. -/
def runQueue (threads items : Nat) : Output :=
  let r := (QueueRun.create threads items).finish
  match r.place with
  | .finished => { stdout := printedLine r.printed, log := r.log.reverse }
  | .failed e => failing r.log.reverse e
  | _ => { log := r.log.reverse }

/-- The output of a command. -/
def Command.run (s : Surroundings) : Command → Output
  | pool workers tasks workTime => runPool s (workers.getD s.processors) tasks workTime
  | queue threads items => runQueue threads items

/-- The output if no command is to be run. -/
def Stop.output : Stop → Output
  | help topic => { stdout := topic.text }
  | version => { stdout := s!"{programName} {CommandLine.version}\n" }
  | usage .noCommand => { code := 2, complaints := Topic.program.text }
  | usage e =>
    { code := 2
      complaints := s!"error: {e.message}\n\nFor more information, try '--help'.\n" }

/-- The output for a command line. -/
def run (s : Surroundings) (args : List String) : Output :=
  let (filter, warnings) := LogFilter.read s.filter
  let output := match readLine args with
    | .error stop => stop.output
    | .ok command =>
      let output := command.run s
      { output with log := infoRecord s!"{programName} {version}" :: output.log }
  { output with
    complaints := String.join (warnings.map (· ++ "\n")) ++ output.complaints
    log := output.log.filter filter.shows }

end Threading.CommandLine

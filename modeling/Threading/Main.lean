import Std.Time.Format
import Threading.CommandLine.Program

/-!
The command line: `pool` runs tasks on a worker pool, `queue` moves items through
a blocking queue.
-/

open Threading CommandLine

/-- The number of processors of the machine, as far as it can be found out. -/
def processorCount : IO Nat := do
  try
    let lines ← IO.FS.lines "/proc/cpuinfo"
    return max 1 (lines.filter fun line => line.startsWith "processor").size
  catch _ => return 1

/-- Writes an output, and gives its exit code. -/
def writeOutput (o : Output) : IO UInt32 := do
  let now ← Std.Time.Timestamp.now
  let time := (Std.Time.DateTime.ofTimestampWithZone now .UTC).format "uuuu-MM-dd'T'HH:mm:ss'Z'"
  IO.eprint o.complaints
  for r in o.log do
    IO.eprintln s!"[{time} {r.level.label} {r.origin}] {r.message}"
  IO.print o.stdout
  return UInt32.ofNat o.code

/-- Runs the command line. -/
def main (args : List String) : IO UInt32 := do
  let started ← IO.monoNanosNow
  let surroundings : Surroundings :=
    { filter := ← IO.getEnv "RUST_LOG", processors := ← processorCount }
  let workTime := (run surroundings args).workTime
  let elapsed := (← IO.monoNanosNow) - started
  IO.sleep (UInt32.ofNat workTime)
  writeOutput (run { surroundings with elapsed } args)

import Threading.CommandLine.Program
import Threading.Value.Written

/-!
# Transcripts

What can be compared between two runs of the program: the exit code, the standard
output, the first line of standard error besides the log, and the sorted lines of
the log. What differs from run to run is hidden in these: how long a command
took, which worker or consumer it was, and how many tasks were still queued.
-/

namespace Threading.CommandLine

/-- The characters with a star for every number that stands after `key`. `room`
    bounds the number of characters. -/
def hideNumbers (key : List Char) : Nat → List Char → List Char
  | 0, text => text
  | _, [] => []
  | room + 1, c :: rest =>
    if key.isPrefixOf (c :: rest) then
      let after := (c :: rest).drop key.length
      let number := after.takeWhile Char.isDigit
      let after := after.dropWhile Char.isDigit
      key ++ (if number.isEmpty then [] else ['*']) ++ hideNumbers key room after
    else c :: hideNumbers key room rest

/-- The characters up to the end of the first `key`, or all of them. -/
def cutAfter (key : List Char) : List Char → List Char
  | [] => []
  | c :: rest => if key.isPrefixOf (c :: rest) then key else c :: cutAfter key rest

/-- The line of a record without what differs from run to run. -/
def steadyLine (r : Record) : String :=
  let line := cutAfter "destroyed after ".toList r.line.toList
  let hide (key : String) (text : List Char) : List Char := hideNumbers key.toList text.length text
  String.ofList (hide "shutting down with " (hide "Consumer " (hide "Worker " line)))

/-- The first line of a text, if it has one. A carriage return in front of the line
    feed is not part of the line. -/
def firstLine? (text : String) : Option String :=
  if text = "" then none
  else match text.splitOn "\n" with
    | line :: _ :: _ =>
      match line.toList.reverse with
      | '\r' :: rest => some (String.ofList rest.reverse)
      | _ => some line
    | lines => lines.head?

/-- What can be compared of an output. -/
def Output.transcript (o : Output) : Value :=
  let log := (o.log.map steadyLine).mergeSort fun a b => decide (a ≤ b)
  .obj [("code", o.code), ("stdout", o.stdout),
    ("stderr", match firstLine? o.complaints with
      | some line => line
      | none => .null),
    ("log", .arr (log.map .str))]

end Threading.CommandLine

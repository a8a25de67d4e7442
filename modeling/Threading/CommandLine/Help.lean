import Threading.CommandLine.Grammar

/-!
# Help

The help on the program, on its commands, and on the command that prints help.
-/

namespace Threading.CommandLine

/-- The name of the program. -/
def programName : String := "workpool"

/-- The version of the program. -/
def version : String := "0.1.0"

/-- What the program is for. -/
def about : String := "Exercise the workpool primitives"

/-- What the command that prints help is for. -/
def helpAbout : String := "Print this message or the help of the given subcommand(s)"

/-- Lines of two columns, the second beginning where the longest first column is
    two blanks past. -/
def columns (rows : List (String × String)) : List String :=
  let width := (rows.map (·.1.length)).foldl max 0 + 2
  rows.map fun (first, second) => first ++ String.ofList (List.replicate (width - first.length) ' ') ++ second

/-- The row of an option. -/
def NumberOption.row (o : NumberOption) : String × String :=
  let default := match o.default with
    | some n => s!" [default: {n}]"
    | none => ""
  (s!"      {o.shown}", o.help ++ default)

/-- The row of the flag for help. -/
def helpRow : String × String := ("  -h, --help", "Print help")

/-- The lines of the help on a topic. -/
def Topic.lines : Topic → List String
  | program =>
    [about, "", s!"Usage: {programName} <COMMAND>", "", "Commands:"]
      ++ columns (grammars.map (fun g => (s!"  {g.name}", g.about)) ++ [("  help", helpAbout)])
      ++ ["", "Options:"]
      ++ columns [helpRow, ("  -V, --version", "Print version")]
  | command g =>
    [g.about, "", s!"Usage: {programName} {g.name} [OPTIONS]", "", "Options:"]
      ++ columns (g.options.map NumberOption.row ++ [helpRow])
  | help =>
    [helpAbout, "", s!"Usage: {programName} help [COMMAND]...", "", "Arguments:"]
      ++ columns [("  [COMMAND]...", "Print help for the subcommand(s)")]

/-- The help on a topic. -/
def Topic.text (t : Topic) : String := String.join (t.lines.map (· ++ "\n"))

end Threading.CommandLine

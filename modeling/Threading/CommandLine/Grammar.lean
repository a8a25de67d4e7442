import Threading.CommandLine.Number
import Threading.Text.ControlSequence

/-!
# The grammar of the command line

The program has two commands, each with options that take a number, and a third
that prints help. An option is written `--name N` or `--name=N`.

An option takes effect only when the next option, or the end of the line, is
reached; a fault found before that, such as an argument that is not expected,
goes first. After a lone `--` no argument is an option any more.

All this stands in for the argument parser that the program is built with, as far as the
program uses it. No law of the program rests on it.
-/

namespace Threading.CommandLine

/-- How the number of an option is read. -/
inductive NumberKind
  | word
  | long
  deriving DecidableEq, Repr

/-- The number that a text stands for. -/
def NumberKind.read : NumberKind → String → Except NumberError Nat
  | word => readWord
  | long => readLong

/-- An option that takes a number. -/
structure NumberOption where
  name : String
  /-- What stands for the number in texts. -/
  placeholder : String
  kind : NumberKind
  help : String
  /-- The number, if the option is not given. -/
  default : Option Nat
  deriving Repr

/-- The option as it is shown. -/
def NumberOption.shown (o : NumberOption) : String := s!"--{o.name} <{o.placeholder}>"

/-- A command and its options. -/
structure CommandGrammar where
  name : String
  about : String
  options : List NumberOption
  deriving Repr

/-- The command that runs tasks on a worker pool. -/
def poolGrammar : CommandGrammar :=
  { name := "pool"
    about := "Run counting tasks on a worker pool, then destroy it"
    options :=
      [{ name := "workers", placeholder := "N", kind := .word, default := none
         help := "Number of worker threads (defaults to the CPU count)" },
       { name := "tasks", placeholder := "N", kind := .long, default := some 8
         help := "Number of tasks to submit" },
       { name := "work-ms", placeholder := "MS", kind := .long, default := some 0
         help := "Simulated work per task, in milliseconds" }] }

/-- The command that moves items through a queue. -/
def queueGrammar : CommandGrammar :=
  { name := "queue"
    about := "Move items through a blocking queue with producer and consumer threads"
    options :=
      [{ name := "threads", placeholder := "N", kind := .word, default := some 4
         help := "Number of producers, and of consumers" },
       { name := "items", placeholder := "N", kind := .word, default := some 5
         help := "Items pushed by each producer" }] }

/-- The commands of the program. -/
def grammars : List CommandGrammar := [poolGrammar, queueGrammar]

/-- What the program is asked to do. -/
inductive Command
  | pool (workers : Option Nat) (tasks workTime : Nat)
  | queue (threads items : Nat)
  deriving DecidableEq, Repr

/-- What is wrong with a command line. -/
inductive UsageError
  | noCommand
  | unknownCommand (text : String)
  | unexpectedArgument (text : String)
  /-- A flag got a value. -/
  | unexpectedValue (value flag : String)
  | missingValue (option : String)
  | invalidValue (value option : String) (error : NumberError)
  | repeatedOption (option : String)
  deriving DecidableEq, Repr

/-- The error in words; an empty line is answered by the help instead. What it
    quotes of the command line does not command the terminal. -/
def UsageError.message : UsageError → String
  | noCommand => ""
  | unknownCommand text => s!"unrecognized subcommand '{quote text}'"
  | unexpectedArgument text => s!"unexpected argument '{quote text}' found"
  | unexpectedValue value flag =>
    s!"unexpected value '{quote value}' for '{flag}' found; no more were expected"
  | missingValue option => s!"a value is required for '{option}' but none was supplied"
  | invalidValue value option error =>
    s!"invalid value '{quote value}' for '{option}': {error.message}"
  | repeatedOption option => s!"the argument '{option}' cannot be used multiple times"
where
  quote (text : String) : String := Text.withoutControls text

/-- What help is about. -/
inductive Topic
  | program
  | command (grammar : CommandGrammar)
  | help
  deriving Repr

/-- Why a command line does not lead to a command. -/
inductive Stop
  | help (topic : Topic)
  | version
  | usage (error : UsageError)
  deriving Repr

/-- The name and the value of an argument `--name` or `--name=value`. -/
def longForm? (arg : String) : Option (String × Option String) :=
  match arg.toList with
  | '-' :: '-' :: c :: rest =>
    let text := c :: rest
    let name := String.ofList (text.takeWhile (· != '='))
    match text.dropWhile (· != '=') with
    | [] => some (name, none)
    | _ :: value => some (name, some (String.ofList value))
  | _ => none

/-- The first flag of an argument `-c…`. -/
def shortForm? (arg : String) : Option Char :=
  match arg.toList with
  | '-' :: c :: _ => if c = '-' then none else some c
  | _ => none

/-- How far the options of a command were read. -/
structure Reading where
  /-- The last option, which did not take effect yet, and its value. -/
  pending : Option (NumberOption × Option String) := none
  /-- The numbers of the options before. -/
  values : List (String × Nat) := []
  /-- A lone `--` was read. -/
  literal : Bool := false

namespace Reading

/-- The reading after an option took effect. -/
def store (r : Reading) (o : NumberOption) (text : String) : Except Stop Reading :=
  if (r.values.lookup o.name).isSome then .error (.usage (.repeatedOption o.shown))
  else match o.kind.read text with
    | .error e => .error (.usage (.invalidValue text o.shown e))
    | .ok n => .ok { r with values := r.values ++ [(o.name, n)] }

/-- The reading after the last option took effect. -/
def settle (r : Reading) : Except Stop Reading :=
  match r.pending with
  | none => .ok r
  | some (o, none) => .error (.usage (.missingValue o.shown))
  | some (o, some text) => { r with pending := none }.store o text

/-- The help on a command, once the last option took effect. -/
def stopForHelp (r : Reading) (grammar : CommandGrammar) : Except Stop Reading := do
  let _ ← r.settle
  .error (.help (.command grammar))

/-- The reading after one more argument. -/
def next (grammar : CommandGrammar) (r : Reading) (arg : String) : Except Stop Reading :=
  if r.literal then .error (.usage (.unexpectedArgument arg))
  else if arg = "--" then .ok { r with literal := true }
  else match longForm? arg, shortForm? arg with
  | some ("help", some value), _ => .error (.usage (.unexpectedValue value "--help"))
  | some ("help", none), _ => r.stopForHelp grammar
  | some (name, value), _ =>
    match grammar.options.find? (·.name == name), value with
    | none, _ => .error (.usage (.unexpectedArgument ("--" ++ name)))
    | some o, some text => do (← r.settle).store o text
    | some o, none => do .ok { ← r.settle with pending := some (o, none) }
  | none, some 'h' => r.stopForHelp grammar
  | none, some c => .error (.usage (.unexpectedArgument (String.ofList ['-', c])))
  | none, none =>
    match r.pending with
    | some (o, none) => .ok { r with pending := some (o, some arg) }
    | _ => .error (.usage (.unexpectedArgument arg))

/-- The number of an option, given or not. -/
def number (r : Reading) (o : NumberOption) : Option Nat :=
  match r.values.lookup o.name with
  | some n => some n
  | none => o.default

end Reading

/-- The numbers of the options of a command, in the order of its grammar. -/
def readOptions (grammar : CommandGrammar) (args : List String) : Except Stop (List (Option Nat)) := do
  let r ← args.foldlM (Reading.next grammar) {}
  let r ← r.settle
  return grammar.options.map r.number

/-- The command with the options given. -/
def readCommand (grammar : CommandGrammar) (args : List String) : Except Stop Command := do
  match grammar.name, ← readOptions grammar args with
  | "pool", [workers, some tasks, some workTime] => return .pool workers tasks workTime
  | "queue", [some threads, some items] => return .queue threads items
  | name, _ => .error (.usage (.unknownCommand name))

/-- What the command `help` leads to. -/
def readHelp : List String → Stop
  | [] => .help .program
  | name :: rest =>
    let topic := match grammars.find? (·.name == name) with
      | some grammar => some (Topic.command grammar)
      | none => if name = "help" then some .help else none
    match topic, rest with
    | none, _ => .usage (.unknownCommand name)
    | some topic, [] => .help topic
    | some _, extra :: _ => .usage (.unknownCommand extra)

/-- The text is the name of a command. -/
def isCommand (text : String) : Bool := text = "help" || grammars.any (·.name == text)

/-- The fault of an argument after a lone `--`. -/
def literalError (arg : String) : UsageError :=
  if isCommand arg then .unexpectedArgument arg else .unknownCommand arg

/-- What a command line asks for. -/
def readLine : List String → Except Stop Command
  | [] => .error (.usage .noCommand)
  | "--" :: rest =>
    match rest with
    | [] => .error (.usage .noCommand)
    | arg :: _ => .error (.usage (literalError arg))
  | "help" :: rest => .error (readHelp rest)
  | arg :: rest =>
    match grammars.find? (·.name == arg), longForm? arg, shortForm? arg with
    | some grammar, _, _ => readCommand grammar rest
    | none, some ("help", none), _ | none, none, some 'h' => .error (.help .program)
    | none, some ("version", none), _ | none, none, some 'V' => .error .version
    | none, some ("help", some value), _ => .error (.usage (.unexpectedValue value "--help"))
    | none, some ("version", some value), _ => .error (.usage (.unexpectedValue value "--version"))
    | none, some (name, _), _ => .error (.usage (.unexpectedArgument ("--" ++ name)))
    | none, none, some c => .error (.usage (.unexpectedArgument (String.ofList ['-', c])))
    | none, none, none => .error (.usage (.unknownCommand arg))

end Threading.CommandLine

import Threading.Log
import Threading.Pattern
import Threading.Text.Blank

/-!
# Log filters

A filter decides which records are shown. It is written as directives with commas
between them: a level for all records (`debug`), a level for the records of a
part of the program (`workpool::thread=trace`), or a part alone, all of whose
records are shown. What follows a slash is a pattern that shown messages match.

Of the directives whose part a record comes from, the one with the longest name
decides; where two are equally long, the later one.

This stands in for the filter of the logger that the program is built with. No law of the
program rests on it: the laws are about the records, shown or not.
-/

namespace Threading.CommandLine

/-- A directive: the part of the program it is for, or all of it, and the number
    of levels shown, from the gravest on. -/
structure Directive where
  part : Option String
  levels : Nat
  deriving DecidableEq, Repr

/-- A filter for records. -/
structure LogFilter where
  directives : List Directive
  /-- What occurs in the messages of shown records. -/
  needle : Option Pattern := none

/-- The letters of `text` as small ones. -/
def lowered (text : String) : String := text.map Char.toLower

/-- The number of levels that a word shows, in letters of any size. -/
def levelsOf? (word : String) : Option Nat :=
  if lowered word = "off" then some 0
  else (Level.all.find? fun l => lowered l.label = lowered word).map Level.rank

/-- The directive that shows what is not meant for debugging. -/
def Directive.standard : Directive := ⟨none, Level.info.rank⟩

/-- The directives with one more, in the place of one for the same part. -/
def putDirective (directives : List Directive) (d : Directive) : List Directive :=
  if directives.any (·.part == d.part) then
    directives.map fun old => if old.part == d.part then d else old
  else directives ++ [d]

/-- The directive that a text stands for, or what is wrong with it. -/
def readDirective (text : String) : Except String Directive :=
  match text.splitOn "=" with
  | [word] =>
    match levelsOf? word with
    | some levels => .ok ⟨none, levels⟩
    | none => .ok ⟨some word, Level.trace.rank⟩
  | [part, word] =>
    let word := Text.trimBlanks word
    if word = "" then .ok ⟨some part, Level.trace.rank⟩
    else match levelsOf? word with
      | some levels => .ok ⟨some part, levels⟩
      | none => .error word
  | _ => .error text

/-- What a filter is set to by a text. -/
structure FilterText where
  directives : List Directive
  needle : Option Pattern
  /-- A warning for each part of the text that is not understood. -/
  warnings : List String

/-- What a text sets a filter to. -/
def FilterText.read (text : String) : FilterText :=
  let ignored (what text : String) : String := s!"warning: invalid {what} {text}, ignoring it"
  let directives (text : String) : List Directive × List String :=
    let words := (text.splitOn ",").map Text.trimBlanks
    (words.filter (· != "")).foldl (fun (directives, warnings) word =>
      match readDirective word with
      | .ok d => (directives ++ [d], warnings)
      | .error text => (directives, warnings ++ [ignored "logging spec" s!"'{text}'"])) ([], [])
  match text.splitOn "/" with
  | [text] =>
    let (directives, warnings) := directives text
    { directives, needle := none, warnings }
  | [text, needle] =>
    let (directives, warnings) := directives text
    match Pattern.read needle with
    | .ok needle => { directives, needle := some needle, warnings }
    | .error e =>
      { directives, needle := none, warnings := warnings ++ [ignored "regex filter -" e.message] }
  | _ =>
    { directives := [], needle := none
      warnings := [ignored "logging spec" s!"'{text}' (too many '/'s)"] }

/-- The filter that a text sets, and warnings about the text. The text is read before
    the standard directive is put and after it: it goes first and has the last word,
    and the warnings are given twice. -/
def LogFilter.read : Option String → LogFilter × List String
  | none => ({ directives := [Directive.standard] }, [])
  | some text =>
    let t := FilterText.read text
    let once := putDirective (t.directives.foldl putDirective []) Directive.standard
    ({ directives := t.directives.foldl putDirective once, needle := t.needle },
      t.warnings ++ t.warnings)

/-- The number of bytes of the name of a part. -/
def Directive.length (d : Directive) : Nat := (d.part.map String.utf8ByteSize).getD 0

/-- The directive decides on records of that part. -/
def Directive.covers (d : Directive) (origin : String) : Bool :=
  match d.part with
  | none => true
  | some part => part.toList.isPrefixOf origin.toList

/-- The number of levels shown of the records from a part of the program. -/
def LogFilter.levels (filter : LogFilter) (origin : String) : Nat :=
  let sorted := filter.directives.mergeSort fun a b => decide (a.length ≤ b.length)
  match sorted.reverse.find? (·.covers origin) with
  | some d => d.levels
  | none => 0

/-- The record is shown. -/
def LogFilter.shows (filter : LogFilter) (r : Record) : Bool :=
  decide (r.level.rank ≤ filter.levels r.origin) &&
    match filter.needle with
    | some pattern => pattern.occursIn r.message
    | none => true

end Threading.CommandLine

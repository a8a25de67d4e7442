import Threading.Pattern.Expr

/-!
# Spans

Where an expression matches in a text. `Spans` is a relation between positions of
a text: for each position, from the first to the one at the end, the lengths of
the matches that begin there. An expression gives a relation for each text
(`Expr.spans`); sequences compose relations, choices unite them, and repetition
is repeated composition.

A set of lengths is a number, whose bit `n` tells whether the length `n` is in the
set: 1 stands for the length zero alone.
-/

namespace Threading.Pattern

/-- The lengths of the matches from each position of a text on. -/
abbrev Spans := List Nat

namespace Spans

/-- The lengths reached by a first match of one of the lengths in `row` and a
    second match, whose lengths are given from here on. -/
def follow (row : Nat) : Spans → Nat
  | [] => 0
  | lengths :: rest =>
    if row = 0 then 0
    else Nat.lor (if row % 2 = 1 then lengths else 0) (2 * follow (row / 2) rest)

/-- A match of the first relation and one of the second. -/
def compose : Spans → Spans → Spans
  | row :: rows, t => follow row t :: compose rows (t.tail)
  | [], _ => []

/-- A match of one of two relations. -/
def union (s t : Spans) : Spans := List.zipWith Nat.lor s t

/-- The empty match at each position. -/
def unit (positions : Nat) : Spans := List.replicate positions 1

/-- Any number of matches. -/
def closure : Spans → Spans
  | [] => []
  | row :: rows =>
    let rest := closure rows
    Nat.lor 1 (2 * follow (row / 2) rest) :: rest

/-- So many matches. `bits` bounds the number of binary digits. -/
def power (s : Spans) : Nat → Nat → Spans
  | 0, _ => unit s.length
  | bits + 1, n =>
    if n = 0 then unit s.length
    else
      let half := power (s.compose s) bits (n / 2)
      if n % 2 = 1 then s.compose half else half

/-- At least and at most so many matches. -/
def times (s : Spans) (least : Nat) (most : Option Nat) : Spans :=
  let more := match most with
    | none => s.closure
    | some most => ((unit s.length).union s).power 32 (most - least)
  (s.power 32 least).compose more

end Spans

/-- The character is part of the words of ASCII. -/
def isWordChar (c : Char) : Bool := c.isAlphanum || c = '_'

/-- The position between two characters is at such an edge of a word. -/
def WordEdge.holds (edge : WordEdge) (before after : Option Char) : Bool :=
  let before := before.any isWordChar
  let after := after.any isWordChar
  match edge with
  | boundary => before != after
  | noBoundary => before == after
  | start => !before && after
  | stop => before && !after
  | startHalf => !before
  | stopHalf => !after

/-- The condition holds between two characters. -/
def Look.holds (before after : Option Char) : Look → Bool
  | textStart => before.isNone
  | textEnd => after.isNone
  | lineStart false => before.isNone || before == some '\n'
  | lineEnd false => after.isNone || after == some '\n'
  | lineStart true =>
    before.isNone || before == some '\n' || (before == some '\r' && after != some '\n')
  | lineEnd true =>
    after.isNone || after == some '\r' || (after == some '\n' && before != some '\r')
  | word edge _ => edge.holds before after

/-- The empty match at the positions where the condition holds; `before` is the
    character in front of the text. -/
def Look.spans (l : Look) (before : Option Char) : List Char → Spans
  | [] => [if l.holds before none then 1 else 0]
  | c :: rest => (if l.holds before (some c) then 1 else 0) :: l.spans (some c) rest

/-- A match of a character with the property. -/
def charSpans (p : Char → Bool) (text : List Char) : Spans :=
  text.map (fun c => if p c then 2 else 0) ++ [0]

namespace Expr

mutual

/-- Where the expression matches in a text. -/
def spans (text : List Char) : Expr → Spans
  | empty => Spans.unit (text.length + 1)
  | literal cs =>
    cs.foldr (fun c s => (charSpans (· == c) text).compose s) (Spans.unit (text.length + 1))
  | oneOf set => charSpans set.contains text
  | look l => l.spans none text
  | repetition least most _ inner => (inner.spans text).times least most
  | group _ inner => inner.spans text
  | sequence parts => sequenceSpans text parts
  | choice branches => choiceSpans text branches

/-- Where the expressions match one after another. -/
def sequenceSpans (text : List Char) : List Expr → Spans
  | [] => Spans.unit (text.length + 1)
  | e :: rest => (e.spans text).compose (sequenceSpans text rest)

/-- Where one of the expressions matches. -/
def choiceSpans (text : List Char) : List Expr → Spans
  | [] => List.replicate (text.length + 1) 0
  | e :: rest => (e.spans text).union (choiceSpans text rest)

end

/-- The expression matches somewhere in the text. -/
def occursIn (e : Expr) (text : List Char) : Bool := (e.spans text).any (· != 0)

end Expr

end Threading.Pattern

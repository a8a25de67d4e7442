import Threading.Pattern.Atom

/-!
# Classes of characters

A class is written in brackets: characters, ranges, named sets and inner classes,
which are united, and the operators `&&`, `--` and `~~` between such unions, read
from the left. A `^` in front asks for the characters that are not in the class.

In a pattern of bytes a class holds characters of ASCII alone.
-/

namespace Threading.Pattern

/-- What a part of a class stands for, and how deep classes and operators are
    nested in it. -/
structure ClassPart where
  set : CharSet
  depth : Nat := 0
  deriving DecidableEq, Repr

/-- What is done with the parts on both sides. -/
inductive SetOperator
  | inter
  | difference
  | symmetricDifference
  deriving DecidableEq, Repr

/-- The set for two sets. -/
def SetOperator.apply : SetOperator → CharSet → CharSet → CharSet
  | inter => CharSet.inter
  | difference => CharSet.difference
  | symmetricDifference => CharSet.symmetricDifference

/-- The named sets of ASCII. -/
def namedRanges? (name : String) : Option (List (Nat × Nat)) :=
  match name with
  | "alnum" => some [(48, 57), (65, 90), (97, 122)]
  | "alpha" => some [(65, 90), (97, 122)]
  | "ascii" => some [(0, 127)]
  | "blank" => some [(9, 9), (32, 32)]
  | "cntrl" => some [(0, 31), (127, 127)]
  | "digit" => some [(48, 57)]
  | "graph" => some [(33, 126)]
  | "lower" => some [(97, 122)]
  | "print" => some [(32, 126)]
  | "punct" => some [(33, 47), (58, 64), (91, 96), (123, 126)]
  | "space" => some [(9, 13), (32, 32)]
  | "upper" => some [(65, 90)]
  | "word" => some [(48, 57), (65, 90), (95, 95), (97, 122)]
  | "xdigit" => some [(48, 57), (65, 70), (97, 102)]
  | _ => none

namespace ClassPart

/-- A set in a class as the flags want it: with letters in both sizes for bytes,
    while these are not known for characters. -/
def folded (f : Flags) (s : CharSet) : Option CharSet :=
  if !f.ignoreCase then some s else if f.unicode then none else some s.foldCase

/-- The set, or all that is not in it; what a set of bytes leaves out are not only
    characters. -/
def negated (f : Flags) (negate : Bool) (s : CharSet) : Option CharSet :=
  if !negate then some s else if f.unicode then some s.complement else none

/-- The union of parts. -/
def union : List ClassPart → ClassPart
  | [] => ⟨CharSet.empty, 0⟩
  | [part] => part
  | parts =>
    ⟨CharSet.ofRanges (parts.flatMap (·.set.ranges)), 1 + (parts.map depth).foldl max 0⟩

/-- The part for an operator and the part in front of it, if there are, and the part
    after it. -/
def combine (pending : Option (SetOperator × ClassPart)) (part : ClassPart) : ClassPart :=
  match pending with
  | none => part
  | some (operator, first) =>
    ⟨operator.apply first.set part.set, 1 + max first.depth part.depth⟩

/-- The named set `[:name:]` whose text begins after the first bracket, and the text
    after it. -/
def readNamed (text : List Char) : Option (Bool × List (Nat × Nat) × List Char) :=
  match text with
  | ':' :: rest =>
    let (negate, rest) := match rest with
      | '^' :: rest => (true, rest)
      | rest => (false, rest)
    match rest.dropWhile (· != ':') with
    | ':' :: ']' :: after =>
      (namedRanges? (String.ofList (rest.takeWhile (· != ':')))).map (negate, ·, after)
    | _ => none
  | _ => none

/-- A character or an escape in a class, and the text after it. -/
def readAtom (f : Flags) : List Char → Option (Atom × List Char)
  | [] => none
  | '\\' :: rest => readEscape f rest
  | c :: rest => some (.char c, rest)

/-- The set of a range of characters. -/
def interval? (f : Flags) (first last : Char) : Option CharSet :=
  if last < first ∨ (!f.unicode ∧ '\x7f' < last) then none
  else folded f (CharSet.interval first last)

/-- The character after the one at hand that decides what a `-` means: a blank does
    not, nor the mark of a remark. -/
def afterDash (f : Flags) (rest : List Char) : Option Char :=
  if !f.spaced then rest.head?
  else
    match rest.dropWhile Text.isBlank with
    | '#' :: rest => (rest.dropWhile Text.isBlank).head?
    | rest => rest.head?

/-- A character, a range or a named set in a class, and the text after it. -/
def readRange (f : Flags) (text : List Char) : Option (ClassPart × List Char) := do
  let (first, rest) ← readAtom f text
  let rest := f.skip rest
  let isRange := match rest with
    | '-' :: after => afterDash f after != some ']' && afterDash f after != some '-'
    | _ => false
  if isRange then
    let (last, rest) ← readAtom f (f.skip rest.tail)
    match first, last with
    | .char first, .char last => (interval? f first last).map (⟨·, 0⟩, rest)
    | _, _ => none
  else
    match first with
    | .char c => (interval? f c c).map (⟨·, 0⟩, rest)
    | .set s => (folded f s).map (⟨·, 0⟩, rest)
    | .look _ => none

/-- The characters in front of the text of a class that are no operators: dashes,
    or a closing bracket. Whether the class is negated is found before them. -/
def readOpening (f : Flags) (text : List Char) : Option (Bool × List ClassPart × List Char) :=
  let (negate, text) := match f.skip text with
    | '^' :: rest => (true, f.skip rest)
    | text => (false, text)
  let (dashes, text) := f.span (· == '-') text
  let (literals, text) := match dashes, text with
    | [], ']' :: rest => ([']'], f.skip rest)
    | dashes, text => (dashes, text)
  (literals.mapM fun c => (interval? f c c).map (⟨·, 0⟩)).map (negate, ·, text)

/-- The part in brackets. -/
def bracketed (f : Flags) (negate : Bool) (part : ClassPart) : Option ClassPart :=
  (negated f negate part.set).map (⟨·, part.depth + 1⟩)

/-- What stands up to the end of a class, after an operator or not and after `items`,
    and the text after the class. `room` bounds the length of the text. -/
def readBody (f : Flags) : Nat → Option (SetOperator × ClassPart) → List ClassPart → List Char →
    Option (ClassPart × List Char)
  | 0, _, _, _ => none
  | room + 1, pending, items, text =>
    let operator (o : SetOperator) (rest : List Char) : Option (ClassPart × List Char) :=
      readBody f room (some (o, combine pending (union items))) [] rest
    match f.skip text with
    | ']' :: rest => some (combine pending (union items), rest)
    | '&' :: '&' :: rest => operator .inter rest
    | '-' :: '-' :: rest => operator .difference rest
    | '~' :: '~' :: rest => operator .symmetricDifference rest
    | '[' :: rest =>
      match readNamed rest with
      | some (negate, ranges, rest) => do
        let s ← folded f (CharSet.ofRanges ranges)
        let s ← negated f negate s
        readBody f room pending (items ++ [⟨s, 0⟩]) rest
      | none => do
        let (negate, inner, rest) ← readOpening f rest
        let (part, rest) ← readBody f room none inner rest
        let part ← bracketed f negate part
        readBody f room pending (items ++ [part]) rest
    | text => do
      let (part, rest) ← readRange f text
      readBody f room pending (items ++ [part]) rest

/-- The class whose text begins after the first bracket, and the text after it. -/
def read (f : Flags) (text : List Char) : Option (ClassPart × List Char) := do
  let (negate, inner, rest) ← readOpening f text
  let (part, rest) ← readBody f text.length none inner rest
  let part ← bracketed f negate part
  some (part, rest)

end ClassPart

end Threading.Pattern

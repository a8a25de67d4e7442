import Threading.Pattern.Class
import Threading.Text.Alphabetic

/-!
# Reading patterns

A pattern is a choice of branches with `|` between them, and a branch a sequence of
items: characters, classes, conditions, groups, and items repeated. Each part is
read as the expression that it stands for, along with how deep it is nested:
brackets, groups, repetitions, sequences and choices count. Flags hold from where
they stand up to the end of their group.
-/

namespace Threading.Pattern

/-- What a part of a pattern stands for. -/
structure Part where
  expr : Expr
  /-- How deep it is nested. -/
  depth : Nat := 0
  /-- It can be repeated; flags cannot. -/
  isItem : Bool := true

/-- The groups that a pattern has so far. -/
structure Groups where
  count : Nat := 0
  names : List (List Char) := []

/-- What a parenthesis opens. -/
inductive Opening
  /-- Nothing: it holds flags for the rest of the group. -/
  | flags (f : Flags)
  /-- A group with flags of its own, which has a number or not. -/
  | group (f : Flags) (number : Option Nat)

namespace Part

/-- How deep some parts are nested in a part for all of them. -/
def depthOver (parts : List Part) : Nat := 1 + (parts.map depth).foldl max 0

/-- The parts one after another. -/
def sequence : List Part → Part
  | [] => { expr := .empty }
  | [part] => part
  | parts => { expr := Expr.sequenceOf (parts.map expr), depth := depthOver parts }

/-- One of the parts. -/
def choice : List Part → Part
  | [part] => part
  | parts => { expr := Expr.choiceOf (parts.map expr), depth := depthOver parts }

/-- The part repeated; `lazy` tells that it is to take as little as possible. -/
def repeated (f : Flags) (least : Nat) (most : Option Nat) (lazy : Bool) (part : Part) : Part :=
  { expr := Expr.repeated least most (f.swapGreed == lazy) part.expr, depth := part.depth + 1 }

/-- The part that a character stands for; the size of letters can be ignored in a
    pattern of bytes alone. -/
def ofChar? (f : Flags) (c : Char) : Option Part :=
  if !f.ignoreCase then some { expr := .literal [c] }
  else if f.unicode then none
  else some { expr := Expr.ofSet (CharSet.interval c c).foldCase }

/-- The part that a dot stands for. -/
def dot? (f : Flags) : Option Part :=
  if !f.unicode then none
  else
    let left : List (Nat × Nat) :=
      if f.dotAll then [] else if f.crlf then [(10, 10), (13, 13)] else [(10, 10)]
    some { expr := Expr.ofSet (CharSet.ofRanges left).complement }

/-- The part that an escape stands for. -/
def ofAtom? (f : Flags) : Atom → Option Part
  | .char c => ofChar? f c
  | .set s => some { expr := Expr.ofSet s }
  | .look l => some { expr := .look l }

/-- The part in a group. -/
def grouped (number : Option Nat) (part : Part) : Part :=
  { expr := match number with
      | some n => .group n part.expr
      | none => part.expr
    depth := part.depth + 1 }

end Part

/-- A decimal number with blanks around it, and the text after it. -/
def readNumber (f : Flags) (text : List Char) : Option (Nat × List Char) :=
  match f.span Char.isDigit (text.dropWhile Text.isBlank) with
  | ([], _) => none
  | (digits, rest) =>
    let n := numberOf 10 digits
    if n < UInt32.size then some (n, f.skip (rest.dropWhile Text.isBlank)) else none

/-- The bounds whose text begins after the brace, and the text after them. -/
def readBounds (f : Flags) (text : List Char) : Option (Nat × Option Nat × List Char) := do
  let (least, rest) ← readNumber f (f.skip text)
  match rest with
  | '\x7d' :: rest => some (least, some least, rest)
  | ',' :: rest =>
    match f.skip rest with
    | '\x7d' :: rest => some (least, none, rest)
    | rest =>
      match ← readNumber f rest with
      | (most, '\x7d' :: rest) => if least ≤ most then some (least, some most, rest) else none
      | _ => none
  | _ => none

/-- The sign of a repetition: its bounds, whether it is lazy, and the text after it. -/
def readRepetition (f : Flags) (sign : Char) (rest : List Char) :
    Option (Nat × Option Nat × Bool × List Char) := do
  let (least, most, rest) ← match sign with
    | '?' => some (0, some 1, rest)
    | '*' => some (0, none, rest)
    | '+' => some (1, none, rest)
    | _ => (readBounds f rest).map fun (least, most, rest) => (least, most, f.skip rest)
  match rest with
  | '?' :: rest => some (least, most, true, rest)
  | rest => some (least, most, false, rest)

/-- The character can stand in the name of a group. -/
def isNameChar (first : Bool) (c : Char) : Bool :=
  if first then c = '_' || Text.isAlphabetic c
  else c = '_' || c = '.' || c = '[' || c = ']' || Text.isAlphanumeric c

/-- The group whose name begins the text, among others, and the text after the name. -/
def Groups.readName (g : Groups) (text : List Char) : Option (Groups × List Char) :=
  match text.takeWhile (· != '>'), text.dropWhile (· != '>') with
  | c :: cs, '>' :: rest =>
    if isNameChar true c && cs.all (isNameChar false) && !g.names.contains (c :: cs) then
      some ({ count := g.count + 1, names := (c :: cs) :: g.names }, rest)
    else none
  | _, _ => none

/-- What the parenthesis in front of a text opens, and the text after that. -/
def Groups.open (g : Groups) (f : Flags) (text : List Char) :
    Option (Opening × Groups × List Char) :=
  let named (rest : List Char) : Option (Opening × Groups × List Char) :=
    (g.readName rest).map fun (g, rest) => (.group f (some g.count), g, rest)
  match text with
  | '?' :: 'P' :: '<' :: rest => named rest
  | '?' :: '<' :: rest => named rest
  | '?' :: rest => (f.read true [] rest).map fun (f, isGroup, rest) =>
    (if isGroup then .group f none else .flags f, g, rest)
  | rest =>
    let g := { g with count := g.count + 1 }
    some (.group f (some g.count), g, rest)

/-- The part up to the end of the group, or of the pattern if it is in none, after
    branches and items, the last first; and the text after it. `room` is more than
    the length of the text. -/
def readGroup (inGroup : Bool) : Nat → Flags → Groups → List Part → List Part → List Char →
    Option (Part × Groups × List Char)
  | 0, _, _, _, _, _ => none
  | room + 1, f, g, branches, items, text =>
    let whole : Part := Part.choice (Part.sequence items.reverse :: branches).reverse
    let item (part : Part) (rest : List Char) : Option (Part × Groups × List Char) :=
      readGroup inGroup room f g branches (part :: items) rest
    match f.skip text with
    | [] => if inGroup then none else some (whole, g, [])
    | ')' :: rest => if inGroup then some (whole, g, rest) else none
    | '|' :: rest =>
      readGroup inGroup room f g (Part.sequence items.reverse :: branches) [] rest
    | '(' :: rest => do
      match ← g.open f (f.skip rest) with
      | (.flags f, g, rest) =>
        readGroup inGroup room f g branches ({ expr := .empty, isItem := false } :: items) rest
      | (.group inner number, g, rest) =>
        let (part, g, rest) ← readGroup true room inner g [] [] rest
        readGroup inGroup room f g branches (part.grouped number :: items) rest
    | '[' :: rest => do
      let (part, rest) ← ClassPart.read f rest
      item { expr := Expr.ofSet part.set, depth := part.depth } rest
    | '\\' :: rest => do
      let (atom, rest) ← readEscape f rest
      item (← Part.ofAtom? f atom) rest
    | '.' :: rest => do item (← Part.dot? f) rest
    | '^' :: rest => item { expr := .look (if f.multiLine then .lineStart f.crlf else .textStart) } rest
    | '$' :: rest => item { expr := .look (if f.multiLine then .lineEnd f.crlf else .textEnd) } rest
    | c :: rest =>
      if c = '?' ∨ c = '*' ∨ c = '+' ∨ c = '\x7b' then
        match items with
        | last :: before =>
          if last.isItem then do
            let (least, most, lazy, rest) ← readRepetition f c rest
            readGroup inGroup room f g branches (last.repeated f least most lazy :: before) rest
          else none
        | [] => none
      else do item (← Part.ofChar? f c) rest

/-- How deep a pattern is nested at most. -/
def maxDepth : Nat := 250

/-- What a pattern stands for; `none` if it is malformed. -/
def readExpr (text : List Char) : Option Expr := do
  let (part, _, _) ← readGroup false (text.length + 1) {} {} [] [] text
  if part.depth ≤ maxDepth then some part.expr else none

end Threading.Pattern

import Threading.Pattern.Expr
import Threading.Pattern.Flags

/-!
# Atoms of patterns

What a backslash and the characters after it stand for: a character, a set of
characters, or a condition on a position. Where a set is asked for that needs the
tables of Unicode, there is none.
-/

namespace Threading.Pattern

/-- What an escape stands for. -/
inductive Atom
  | char (c : Char)
  | set (s : CharSet)
  | look (l : Look)
  deriving DecidableEq, Repr

/-- The value of a digit. -/
def digitValue (c : Char) : Nat :=
  if c.isDigit then c.toNat - '0'.toNat else c.toLower.toNat - 'a'.toNat + 10

/-- The number with these digits. -/
def numberOf (base : Nat) (digits : List Char) : Nat :=
  digits.foldl (fun n c => base * n + digitValue c) 0

/-- The character is a hexadecimal digit. -/
def isHexadecimal (c : Char) : Bool :=
  c.isDigit || ('a' ≤ c && c ≤ 'f') || ('A' ≤ c && c ≤ 'F')

/-- The character with that code point. -/
def charOf? (n : Nat) : Option Char := if n.isValidChar then some (Char.ofNat n) else none

/-- So many hexadecimal digits, and the text after them. -/
def readDigits? (f : Flags) : Nat → List Char → Option (List Char × List Char)
  | 0, text => some ([], text)
  | n + 1, c :: rest =>
    if isHexadecimal c then
      (readDigits? f n (f.skip rest)).map fun (digits, after) => (c :: digits, after)
    else none
  | _, [] => none

/-- The character whose code point stands in braces or has so many digits, and the
    text after it. In a set of bytes no two digits stand for half a character. -/
def readCodePoint (f : Flags) (digits : Nat) (text : List Char) : Option (Char × List Char) :=
  match f.skip text with
  | '\x7b' :: rest =>
    match f.span isHexadecimal (f.skip rest) with
    | (c :: cs, '\x7d' :: after) => (charOf? (numberOf 16 (c :: cs))).map (·, after)
    | _ => none
  | text => do
    let (written, after) ← readDigits? f digits text
    let c ← charOf? (numberOf 16 written)
    if digits = 2 ∧ '\x7f' < c ∧ !f.unicode then none else some (c, after)

/-- The edge of a word with that name. -/
def WordEdge.named? (name : String) : Option WordEdge :=
  match name with
  | "start" => some .start
  | "end" => some .stop
  | "start-half" => some .startHalf
  | "end-half" => some .stopHalf
  | _ => none

/-- The character can stand in the name of an edge. -/
def isEdgeChar (c : Char) : Bool := c.isAlpha || c = '-'

/-- The edge of a word that may be named in braces, and the text after it. Braces
    that begin with anything but a name are left to be read as a count. -/
def readEdge (f : Flags) : List Char → Option (WordEdge × List Char)
  | '\x7b' :: rest =>
    match f.skip rest with
    | [] => none
    | c :: after =>
      if isEdgeChar c then
        match f.span isEdgeChar (c :: after) with
        | (name, '\x7d' :: after) => (WordEdge.named? (String.ofList name)).map (·, after)
        | _ => none
      else some (.boundary, '\x7b' :: rest)
  | text => some (.boundary, text)

/-- The set of bytes that a letter stands for. -/
def byteSet? : Char → Option CharSet
  | 'd' => some (CharSet.interval '0' '9')
  | 's' => some (CharSet.ofRanges [(9, 13), (32, 32)])
  | 'w' => some (CharSet.ofRanges [(48, 57), (65, 90), (95, 95), (97, 122)])
  | _ => none

/-- What the text after a backslash stands for, and the text after that. -/
def readEscape (f : Flags) : List Char → Option (Atom × List Char)
  | [] => none
  | c :: rest =>
    let char (c : Char) : Option (Atom × List Char) := some (.char c, rest)
    let look (l : Look) : Option (Atom × List Char) := some (.look l, rest)
    match c with
    | 'x' => (readCodePoint f 2 rest).map fun (c, after) => (.char c, after)
    | 'u' => (readCodePoint f 4 rest).map fun (c, after) => (.char c, after)
    | 'U' => (readCodePoint f 8 rest).map fun (c, after) => (.char c, after)
    | 'a' => char '\x07'
    | 'f' => char '\x0c'
    | 't' => char '\t'
    | 'n' => char '\n'
    | 'r' => char '\r'
    | 'v' => char '\x0b'
    | 'A' => look .textStart
    | 'z' => look .textEnd
    | 'B' => look (.word .noBoundary f.unicode)
    | '<' => look (.word .start f.unicode)
    | '>' => look (.word .stop f.unicode)
    | 'b' => (readEdge f rest).map fun (edge, after) => (.look (.word edge f.unicode), after)
    | c =>
      if f.unicode || (byteSet? c).isNone then
        if c.isAlphanum || '\x7f' < c then none else char c
      else (byteSet? c).map fun s => (.set s, rest)

end Threading.Pattern

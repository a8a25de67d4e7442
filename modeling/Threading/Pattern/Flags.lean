import Threading.Text.Blank

/-!
# Flags of patterns

A pattern can change how the rest of it is read: with `(?i-u)` up to the end of the
group, and with `(?i-u:…)` for a new group. Each flag is a letter.

Among the flags is the *spaced* reading, in which blanks mean nothing and a `#`
begins a remark up to the end of the line.
-/

namespace Threading.Pattern

/-- How a pattern is read. -/
structure Flags where
  /-- Letters match in both sizes (`i`). -/
  ignoreCase : Bool := false
  /-- `^` and `$` match at the ends of lines too (`m`). -/
  multiLine : Bool := false
  /-- A dot matches the end of a line too (`s`). -/
  dotAll : Bool := false
  /-- Repetition takes as little as possible unless asked otherwise (`U`). -/
  swapGreed : Bool := false
  /-- Sets are sets of characters and not of bytes (`u`). -/
  unicode : Bool := true
  /-- A carriage return ends lines too (`R`). -/
  crlf : Bool := false
  /-- Blanks mean nothing (`x`). -/
  spaced : Bool := false
  deriving DecidableEq, Repr

/-- The text after blanks and remarks; `remark` tells that it begins in a remark. -/
def skipBlanks (remark : Bool) : List Char → List Char
  | [] => []
  | c :: rest =>
    if remark then skipBlanks (c != '\n') rest
    else if Text.isBlank c then skipBlanks false rest
    else if c = '#' then skipBlanks true rest
    else c :: rest

theorem length_skipBlanks_le (remark : Bool) (text : List Char) :
    (skipBlanks remark text).length ≤ text.length := by
  induction text generalizing remark with
  | nil => simp [skipBlanks]
  | cons c rest ih =>
    rw [skipBlanks]
    split
    · exact Nat.le_succ_of_le (ih _)
    · split
      · exact Nat.le_succ_of_le (ih _)
      · split
        · exact Nat.le_succ_of_le (ih _)
        · exact Nat.le_refl _

namespace Flags

/-- The text after what means nothing. -/
def skip (f : Flags) (text : List Char) : List Char :=
  if f.spaced then skipBlanks false text else text

theorem length_skip_le (f : Flags) (text : List Char) : (f.skip text).length ≤ text.length := by
  rw [skip]
  split
  · exact length_skipBlanks_le false text
  · exact Nat.le_refl _

/-- The characters with the property in front of a text, without what means nothing
    between them, and the text after them. -/
def span (f : Flags) (p : Char → Bool) : List Char → List Char × List Char
  | [] => ([], [])
  | c :: rest =>
    if p c then
      let (found, after) := f.span p (f.skip rest)
      (c :: found, after)
    else ([], c :: rest)
termination_by text => text.length
decreasing_by exact Nat.lt_succ_of_le (f.length_skip_le rest)

/-- The flags with one of them on or off. -/
def set (f : Flags) (on : Bool) : Char → Option Flags
  | 'i' => some { f with ignoreCase := on }
  | 'm' => some { f with multiLine := on }
  | 's' => some { f with dotAll := on }
  | 'U' => some { f with swapGreed := on }
  | 'u' => some { f with unicode := on }
  | 'R' => some { f with crlf := on }
  | 'x' => some { f with spaced := on }
  | _ => none

/-- The flags after their letters in front of a text, those after a `-` being off,
    whether they are for a new group, and the text after the mark that ends them.
    No letter stands twice; `seen` are those read, the last first. -/
def read (f : Flags) (on : Bool) (seen : List Char) : List Char → Option (Flags × Bool × List Char)
  | [] => none
  | c :: rest =>
    if c = ':' ∨ c = ')' then
      if seen.head? = some '-' ∨ (c = ')' ∧ seen = []) then none else some (f, c == ':', rest)
    else if seen.contains c then none
    else if c = '-' then f.read false (c :: seen) rest
    else do (← f.set on c).read on (c :: seen) rest

end Flags

end Threading.Pattern

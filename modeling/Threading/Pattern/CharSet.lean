/-!
# Sets of characters

A set of characters as the ranges of its code points, in order and with a gap
between any two of them, so that a set has one form. The code points that are no
characters (`0xD800` to `0xDFFF`) are in no range.
-/

namespace Threading.Pattern

/-- A set of characters. -/
structure CharSet where
  /-- The ranges, first and last code point of each, in order. -/
  ranges : List (Nat × Nat)
  deriving DecidableEq, Repr

namespace CharSet

/-- The characters of a range of code points. -/
def scalars (range : Nat × Nat) : List (Nat × Nat) :=
  [(range.1, min range.2 0xd7ff), (max range.1 0xe000, min range.2 0x10ffff)].filter
    fun (first, last) => first ≤ last

/-- The ranges with `range` in front of them; those that touch are one. -/
def join (range : Nat × Nat) : List (Nat × Nat) → List (Nat × Nat)
  | [] => [range]
  | next :: rest =>
    if next.1 ≤ range.2 + 1 then join (range.1, max range.2 next.2) rest
    else range :: join next rest

/-- The set of the characters in some ranges of code points. -/
def ofRanges (ranges : List (Nat × Nat)) : CharSet :=
  match (ranges.flatMap scalars).mergeSort fun a b => decide (a.1 ≤ b.1) with
  | [] => ⟨[]⟩
  | range :: rest => ⟨join range rest⟩

/-- The set of the characters from `first` to `last`. -/
def interval (first last : Char) : CharSet := ofRanges [(first.toNat, last.toNat)]

/-- No character. -/
def empty : CharSet := ⟨[]⟩

/-- The character is in the set. -/
def contains (s : CharSet) (c : Char) : Bool :=
  s.ranges.any fun (first, last) => first ≤ c.toNat && c.toNat ≤ last

/-- The character of a set with one. -/
def single? (s : CharSet) : Option Char :=
  match s.ranges with
  | [(first, last)] => if first = last then some (Char.ofNat first) else none
  | _ => none

/-- All characters of the set are in ASCII. -/
def isAscii (s : CharSet) : Bool := s.ranges.all fun (_, last) => last < 0x80

/-- The characters of both sets together. -/
def union (s t : CharSet) : CharSet := ofRanges (s.ranges ++ t.ranges)

/-- The ranges of code points from `next` on that are left out. -/
def gaps (next : Nat) : List (Nat × Nat) → List (Nat × Nat)
  | [] => [(next, 0x10ffff)]
  | (first, last) :: rest => (next, first - 1) :: gaps (last + 1) rest

/-- The characters that are not in the set. -/
def complement (s : CharSet) : CharSet :=
  match s.ranges with
  | (0, last) :: rest => ofRanges (gaps (last + 1) rest)
  | ranges => ofRanges (gaps 0 ranges)

/-- The characters that are in both sets. -/
def inter (s t : CharSet) : CharSet := (s.complement.union t.complement).complement

/-- The characters of the first set that are not in the second. -/
def difference (s t : CharSet) : CharSet := s.inter t.complement

/-- The characters that are in one of the sets alone. -/
def symmetricDifference (s t : CharSet) : CharSet := (s.difference t).union (t.difference s)

/-- The set with the letters of ASCII in both sizes if it has them in one. -/
def foldCase (s : CharSet) : CharSet :=
  let shift (first last target : Char) : List (Nat × Nat) :=
    (s.inter (interval first last)).ranges.map fun (a, b) =>
      (a + target.toNat - first.toNat, b + target.toNat - first.toNat)
  ofRanges (s.ranges ++ shift 'a' 'z' 'A' ++ shift 'A' 'Z' 'a')

end CharSet

end Threading.Pattern

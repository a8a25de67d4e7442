import Threading.Pattern.Expr

/-!
# The size of a pattern

A pattern is refused if an automaton for it takes too much memory. What it takes
is counted here without making it (`Expr.size`), so that a pattern such as
`x{1000}{1000}` costs nothing.

The automaton reads bytes of UTF-8. A state takes 32 bytes, an arrow of a state
with several arrows for bytes 8, and an arrow of a fork 4. An automaton is
counted in both directions, since a match that ends somewhere is followed back to
where it begins.
-/

namespace Threading.Pattern

/-- The direction in which a text is read. -/
inductive Direction
  | forward
  | backward
  deriving DecidableEq, Repr

/-- What a piece of an automaton takes. -/
structure Cost where
  bytes : Nat
  /-- The bytes of an arrow from its end to what comes next: a fork as the last
      state gets one more arrow, any other state has a place for it. -/
  link : Nat := 0

namespace Cost

/-- The bytes of a state. -/
def state : Nat := 32

/-- The bytes of an arrow for a range of bytes. -/
def edge : Nat := 8

/-- The bytes of an arrow of a fork. -/
def way : Nat := 4

/-- A state that does nothing. -/
def nothing : Cost := ⟨state, 0⟩

/-- Two pieces, one after the other. -/
def followedBy (a b : Cost) : Cost := ⟨a.bytes + a.link + b.bytes, b.link⟩

/-- The sum of some numbers. -/
def total (ns : List Nat) : Nat := ns.foldl (fun a b => a + b) 0

/-- Some pieces, one after the other. -/
def inSequence : List Cost → Cost
  | [] => nothing
  | c :: rest => rest.foldl followedBy c

/-- Some pieces, one of which is taken. -/
def oneOf (cs : List Cost) : Cost :=
  ⟨2 * state + total (cs.map fun c => c.bytes + c.link + way), 0⟩

/-- A piece so many times. -/
def times (c : Cost) : Nat → Cost
  | 0 => nothing
  | n + 1 => ⟨(n + 1) * c.bytes + n * c.link, c.link⟩

/-- A piece so many times or more; `consumes` tells that it matches no empty text. -/
def atLeast (c : Cost) (consumes : Bool) : Nat → Cost
  | 0 =>
    if consumes then ⟨state + way + c.bytes + c.link, way⟩
    else ⟨c.bytes + c.link + 3 * state + 4 * way, 0⟩
  | n + 1 => ⟨(n + 1) * (c.bytes + c.link) + state + way, way⟩

/-- A piece a number of times within bounds. -/
def between (c : Cost) (least most : Nat) : Cost :=
  if least = 0 ∧ most = 1 then ⟨c.bytes + c.link + 2 * state + 2 * way, 0⟩
  else
    let first := c.times least
    if least = most then first
    else
      ⟨first.bytes + first.link + state + (most - least) * (c.bytes + c.link + state + 2 * way), 0⟩

end Cost

/-- The bytes of the characters from `first` to `last`, as choices of byte ranges
    in sequence. The code points are without their first bits, which stand in the
    bytes `base` and above; `more` bytes of six bits follow the first. -/
def byteRanges (base : Nat) : Nat → Nat → Nat → List (List (Nat × Nat))
  | 0, first, last => [[(base + first, base + last)]]
  | more + 1, first, last =>
    let size := Nat.pow 64 (more + 1)
    let within (digit first last : Nat) : List (List (Nat × Nat)) :=
      (byteRanges 0x80 more first last).map ((base + digit, base + digit) :: ·)
    let a := first / size
    let b := last / size
    if a = b then within a (first % size) (last % size)
    else
      let low := if first % size = 0 then [] else within a (first % size) (size - 1)
      let high := if last % size = size - 1 then [] else within b 0 (last % size)
      let start := if low.isEmpty then a else a + 1
      let stop := if high.isEmpty then b + 1 else b
      let middle := if start < stop then
          (byteRanges 0x80 more 0 (size - 1)).map ((base + start, base + stop - 1) :: ·)
        else []
      low ++ middle ++ high

/-- The characters of a set in UTF-8, as choices of byte ranges in sequence. -/
def CharSet.byteSequences (s : CharSet) : List (List (Nat × Nat)) :=
  s.ranges.flatMap fun (first, last) =>
    let part (lowest highest base more : Nat) : List (List (Nat × Nat)) :=
      let first := max first lowest
      let last := min last highest
      if first ≤ last then byteRanges base more first last else []
    part 0 0x7f 0 0 ++ part 0x80 0x7ff 0xc0 1 ++ part 0x800 0xffff 0xe0 2
      ++ part 0x10000 0x10ffff 0xf0 3

/-- The sequences in groups with the same first range. -/
def byFirst (seqs : List (List (Nat × Nat))) : List (List (List (Nat × Nat))) :=
  seqs.splitBy fun a b => a.head? == b.head?

/-- What can follow in the states of an automaton for the sequences. `depth` bounds
    their length. -/
def statesOf : Nat → List (List (Nat × Nat)) → List (List (List (Nat × Nat)))
  | 0, _ => []
  | depth + 1, seqs =>
    if seqs.all List.isEmpty then []
    else seqs :: (byFirst seqs).flatMap fun group => statesOf depth (group.map List.tail)

/-- What a set takes. Read forward, states after which the same can follow are one;
    read backward, those before which the same stands. -/
def CharSet.cost (d : Direction) (s : CharSet) : Cost :=
  if s.isAscii then ⟨2 * Cost.state + Cost.edge * s.ranges.length, 0⟩
  else
    let seqs := s.byteSequences
    match d with
    | .forward =>
      let states := (statesOf 4 seqs).eraseDups
      ⟨Cost.state + Cost.total (states.map fun seqs =>
        Cost.state + Cost.edge * (byFirst seqs).length), 0⟩
    | .backward =>
      let beginnings := seqs.flatMap fun seq => (List.range seq.length).map fun n => seq.take (n + 1)
      ⟨2 * Cost.state + Cost.way * seqs.length + Cost.state * beginnings.eraseDups.length, 0⟩

/-- The bytes of a text. -/
def bytesOf (text : List Char) : List UInt8 := text.flatMap String.utf8EncodeChar

/-- The words between the empty words of a list. -/
def segments : List (List UInt8) → List (List (List UInt8))
  | [] => [[]]
  | [] :: rest => [] :: segments rest
  | word :: rest =>
    match segments rest with
    | first :: others => (word :: first) :: others
    | [] => [[word]]

/-- What the states of a tree for some words take besides its end. A word that ends
    at a state parts the words before it from those after it; where none is before,
    it does so once. `depth` bounds the length of the words. -/
def treeCost : Nat → List (List UInt8) → Nat
  | 0, _ => 0
  | depth + 1, words =>
    if words.all List.isEmpty then 0
    else
      let words := match words with
        | [] :: rest => [] :: rest.dropWhile List.isEmpty
        | words => words
      let chunks := segments words
      let full := chunks.filter fun chunk => !chunk.isEmpty
      let ways := full.length + (chunks.length - 1)
      let chunkCost (chunk : List (List UInt8)) : Nat :=
        let firsts := (chunk.filterMap List.head?).eraseDups
        let edges := if firsts.length = 1 then 0 else Cost.edge * firsts.length
        let below := firsts.map fun first =>
          treeCost depth ((chunk.filter (·.head? == some first)).map List.tail)
        Cost.state + edges + Cost.total below
      Cost.state + Cost.way * ways + Cost.total (full.map chunkCost)

namespace Expr

/-- The text of a literal. -/
def text? : Expr → Option (List Char)
  | literal text => some text
  | _ => none

mutual

/-- The least number of bytes that the expression matches, if it can match. -/
def leastLength : Expr → Option Nat
  | empty | look _ => some 0
  | literal text => some (bytesOf text).length
  | oneOf set => set.ranges.head?.map fun (first, _) => (Char.ofNat first).utf8Size
  | repetition least _ _ inner => inner.leastLength.map (least * ·)
  | group _ inner => inner.leastLength
  | sequence parts => leastTotal parts
  | choice branches => leastOf branches

/-- The least number of bytes that the expressions match one after another. -/
def leastTotal : List Expr → Option Nat
  | [] => some 0
  | e :: rest =>
    match e.leastLength, leastTotal rest with
    | some n, some m => some (n + m)
    | _, _ => none

/-- The least number of bytes that one of the expressions matches, if all can match. -/
def leastOf : List Expr → Option Nat
  | [] => none
  | [e] => e.leastLength
  | e :: rest =>
    match e.leastLength, leastOf rest with
    | some n, some m => some (min n m)
    | _, _ => none

end

mutual

/-- The expression matches only from the beginning of the text on, or, read
    backward, only up to its end. -/
def anchored (d : Direction) : Expr → Bool
  | look l => l == (match d with | .forward => .textStart | .backward => .textEnd)
  | repetition least _ _ inner => decide (0 < least) && inner.anchored d
  | group _ inner => inner.anchored d
  | sequence parts => sequenceAnchored d parts
  | choice branches => allAnchored d branches
  | _ => false

/-- The expressions are anchored one after another. -/
def sequenceAnchored (d : Direction) : List Expr → Bool
  | [] => false
  | e :: rest =>
    match d with
    | .forward => e.anchored d || (e.isBare && sequenceAnchored d rest)
    | .backward => sequenceAnchored d rest || (allBare rest && e.anchored d)

/-- Each of the expressions is anchored. -/
def allAnchored (d : Direction) : List Expr → Bool
  | [] => true
  | e :: rest => e.anchored d && allAnchored d rest

end

mutual

/-- What an automaton for the expression takes. -/
def cost (d : Direction) : Expr → Cost
  | empty | look _ => Cost.nothing
  | literal text => ⟨Cost.state * (bytesOf text).length, 0⟩
  | oneOf set => set.cost d
  | repetition least none _ inner =>
    (inner.cost d).atLeast (inner.leastLength.any (0 < ·)) least
  | repetition least (some most) _ inner => (inner.cost d).between least most
  | group _ inner =>
    let c := inner.cost d
    match d with
    | .forward => ⟨2 * Cost.state + c.bytes + c.link, 0⟩
    | .backward => c
  | sequence parts =>
    let cs := costs d parts
    Cost.inSequence (match d with | .forward => cs | .backward => cs.reverse)
  | choice branches =>
    match branches.mapM text? with
    | some texts =>
      let words := texts.map fun text =>
        match d with | .forward => bytesOf text | .backward => (bytesOf text).reverse
      ⟨Cost.state + treeCost ((words.map List.length).foldl max 0) words, 0⟩
    | none => Cost.oneOf (costs d branches)

/-- What automata for the expressions take. -/
def costs (d : Direction) : List Expr → List Cost
  | [] => []
  | e :: rest => e.cost d :: costs d rest

end

/-- The bytes of an automaton that finds the expression in a text: where the
    expression is not anchored, a loop in front of it skips bytes. -/
def size (d : Direction) (e : Expr) : Nat :=
  let loop := if e.anchored d then Cost.nothing else Cost.atLeast ⟨2 * Cost.state + Cost.edge, 0⟩ true 0
  let c := loop.followedBy (cost d (group 0 e))
  c.bytes + c.link + Cost.state

mutual

/-- The expression asks for words with letters beyond ASCII. -/
def asksForWords : Expr → Bool
  | look (.word _ unicode) => unicode
  | repetition _ _ _ inner | group _ inner => inner.asksForWords
  | sequence parts => anyAsksForWords parts
  | choice branches => anyAsksForWords branches
  | _ => false

/-- One of the expressions asks for words with letters beyond ASCII. -/
def anyAsksForWords : List Expr → Bool
  | [] => false
  | e :: rest => e.asksForWords || anyAsksForWords rest

end

end Expr

end Threading.Pattern

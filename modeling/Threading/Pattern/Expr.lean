import Threading.Pattern.CharSet

/-!
# Pattern expressions

What a pattern matches, in a form that is as small as its structure allows:
adjoining literals are one, a sequence is in no sequence and a choice in no
choice, a choice of characters is a set, and a choice of sequences has no common
beginning. `sequenceOf`, `choiceOf` and `repeated` keep that form.
-/

namespace Threading.Pattern

/-- How the sides of a position differ if it is at the edge of a word. -/
inductive WordEdge
  | boundary
  | noBoundary
  | start
  | stop
  /-- No word stands before. -/
  | startHalf
  /-- No word stands after. -/
  | stopHalf
  deriving DecidableEq, Repr

/-- A condition on a position in a text. -/
inductive Look
  | textStart
  | textEnd
  /-- A line begins there; if `crlf` holds, a carriage return ends lines too. -/
  | lineStart (crlf : Bool)
  | lineEnd (crlf : Bool)
  /-- The position is at the edge of a word; if `unicode` holds, letters beyond
      ASCII are in words too. -/
  | word (edge : WordEdge) (unicode : Bool)
  deriving DecidableEq, Repr

/-- What a pattern matches. -/
inductive Expr
  /-- The empty text. -/
  | empty
  | literal (text : List Char)
  /-- A character of the set. -/
  | oneOf (set : CharSet)
  /-- The empty text where the condition holds. -/
  | look (look : Look)
  /-- The inner expression, `least` times at least and `most` times at most. -/
  | repetition (least : Nat) (most : Option Nat) (greedy : Bool) (inner : Expr)
  /-- A group; groups are numbered in their order. -/
  | group (number : Nat) (inner : Expr)
  | sequence (parts : List Expr)
  | choice (branches : List Expr)
  deriving Repr

namespace Expr

mutual

/-- The expressions are the same. -/
def same : Expr → Expr → Bool
  | empty, empty => true
  | literal s, literal t => s == t
  | oneOf s, oneOf t => s == t
  | look a, look b => a == b
  | repetition least most greedy a, repetition least' most' greedy' b =>
    least == least' && most == most' && greedy == greedy' && same a b
  | group n a, group m b => n == m && same a b
  | sequence as, sequence bs => allSame as bs
  | choice as, choice bs => allSame as bs
  | _, _ => false

/-- The lists have the same expressions. -/
def allSame : List Expr → List Expr → Bool
  | [], [] => true
  | a :: as, b :: bs => same a b && allSame as bs
  | _, _ => false

end

mutual

/-- The expression matches the empty text alone. -/
def isBare : Expr → Bool
  | empty | look _ => true
  | literal _ | oneOf _ => false
  | repetition _ most _ inner => inner.isBare && most.isSome
  | group _ inner => inner.isBare
  | sequence parts => allBare parts
  | choice branches => allBare branches

/-- The expressions match the empty text alone. -/
def allBare : List Expr → Bool
  | [] => true
  | e :: rest => e.isBare && allBare rest

end

/-- The expression for a character of a set. -/
def ofSet (set : CharSet) : Expr :=
  match set.single? with
  | some c => literal [c]
  | none => oneOf set

/-- The parts of an expression as a sequence. -/
def parts : Expr → List Expr
  | empty => []
  | sequence parts => parts
  | e => [e]

/-- The sequence with one more expression in front. -/
def consPart (e : Expr) (rest : List Expr) : List Expr :=
  match e, rest with
  | literal s, literal t :: rest => literal (s ++ t) :: rest
  | e, rest => e :: rest

/-- The expressions one after another. -/
def sequenceOf (es : List Expr) : Expr :=
  match (es.flatMap parts).foldr consPart [] with
  | [] => empty
  | [e] => e
  | parts => sequence parts

/-- The branches of an expression as a choice. -/
def branches : Expr → List Expr
  | choice branches => branches
  | e => [e]

/-- The character that the expression matches alone. -/
def char? : Expr → Option Char
  | literal [c] => some c
  | _ => none

/-- The set whose characters the expression matches. -/
def set? : Expr → Option CharSet
  | oneOf set => some set
  | _ => none

/-- One of the expressions, which may have a common beginning. -/
def plainChoice (es : List Expr) : Expr :=
  let es := es.flatMap branches
  match es with
  | [e] => e
  | es =>
    match es.mapM char?, es.mapM set? with
    | some chars, _ => ofSet (CharSet.ofRanges (chars.map fun c => (c.toNat, c.toNat)))
    | none, some sets => ofSet (CharSet.ofRanges (sets.flatMap CharSet.ranges))
    | none, none => choice es

/-- The common beginning of two sequences. -/
def commonStart : List Expr → List Expr → List Expr
  | a :: as, b :: bs => if same a b then a :: commonStart as bs else []
  | _, _ => []

/-- The parts of each expression, if all are sequences. -/
def sequences? (es : List Expr) : Option (List (List Expr)) :=
  es.mapM fun
    | sequence parts => some parts
    | _ => none

/-- One of the expressions. -/
def choiceOf (es : List Expr) : Expr :=
  let plain := plainChoice es
  match plain with
  | choice es =>
    match sequences? es with
    | some (first :: others) =>
      match others.foldl commonStart first with
      | [] => plain
      | start =>
        let ends := (first :: others).map fun parts => sequenceOf (parts.drop start.length)
        sequenceOf (start ++ [plainChoice ends])
    | _ => plain
  | e => e

/-- The expression repeated; one that matches the empty text alone is repeated
    once at most. -/
def repeated (least : Nat) (most : Option Nat) (greedy : Bool) (e : Expr) : Expr :=
  let (least, most) := if e.isBare then (min least 1, some (min (most.getD 1) 1)) else (least, most)
  match least, most with
  | 0, some 0 => empty
  | 1, some 1 => e
  | _, _ => repetition least most greedy e

end Expr

end Threading.Pattern

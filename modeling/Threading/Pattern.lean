import Threading.Pattern.Reading
import Threading.Pattern.Size
import Threading.Pattern.Spans

/-!
# Patterns

A pattern is a regular expression that a text is searched for. A text is not always
a pattern (`Pattern.read`): it may be malformed, an automaton for it may take too
much memory, and it may ask for the edges of words, for which there is no table.

Patterns stand in for the search engine behind the log filter. No law of the program
rests on them.
-/

namespace Threading

/-- What is wrong with the text of a pattern. -/
inductive PatternError
  | malformed (text : String)
  /-- It takes more bytes than this. -/
  | tooLarge (limit : Nat)
  /-- It asks for the edges of words with letters beyond ASCII. -/
  | unknownWords
  deriving DecidableEq, Repr

/-- The error in words. -/
def PatternError.message : PatternError → String
  | malformed text => s!"regex parse error:\n    {text}"
  | tooLarge limit => s!"Compiled regex exceeds size limit of {limit} bytes."
  | unknownWords => "error building NFA"

/-- A regular expression. -/
structure Pattern where
  expr : Pattern.Expr

namespace Pattern

/-- The most bytes that an automaton for a pattern takes. -/
def maxSize : Nat := 10485760

/-- The pattern that a text stands for, or what is wrong with it. -/
def read (text : String) : Except PatternError Pattern :=
  match readExpr text.toList with
  | none => .error (.malformed text)
  | some expr =>
    if maxSize < expr.size .forward then .error (.tooLarge maxSize)
    else if expr.asksForWords then .error .unknownWords
    else if maxSize < expr.size .backward then .error (.tooLarge maxSize)
    else .ok ⟨expr⟩

/-- The pattern matches somewhere in the text. -/
def occursIn (p : Pattern) (text : String) : Bool := p.expr.occursIn text.toList

end Pattern

end Threading

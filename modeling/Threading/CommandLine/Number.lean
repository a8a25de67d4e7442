/-!
# Numbers on the command line

A number is written in decimal digits, with a `+` in front or not. Two readings
differ in what else they take and in what they answer to a number out of range:
`readWord` takes a signed number first and then asks whether it is a word of 32
bits; `readLong` takes no sign but `+` and reads 64 bits.
-/

namespace Threading.CommandLine

/-- Why a text is not the number asked for. -/
inductive NumberError
  | empty
  | invalidDigit
  | tooLarge
  | tooSmall
  /-- A number, but above this one or below zero. -/
  | outside (n : Int) (most : Nat)
  deriving DecidableEq, Repr

/-- The error in words. -/
def NumberError.message : NumberError → String
  | empty => "cannot parse integer from empty string"
  | invalidDigit => "invalid digit found in string"
  | tooLarge => "number too large to fit in target type"
  | tooSmall => "number too small to fit in target type"
  | outside n most => s!"{n} is not in 0..={most}"

/-- The number that the digits continue from `acc`, at most `limit`; `beyond` is
    the error once it is larger. -/
def readDigits (limit : Nat) (beyond : NumberError) : Nat → List Char → Except NumberError Nat
  | acc, [] => .ok acc
  | acc, c :: rest =>
    if c.isDigit then
      let next := 10 * acc + (c.toNat - '0'.toNat)
      if limit < next then .error beyond else readDigits limit beyond next rest
    else .error .invalidDigit

/-- The number of at most 64 bits that a text stands for. -/
def readLong (text : String) : Except NumberError Nat :=
  match text.toList with
  | [] => .error .empty
  | ['+'] | ['-'] => .error .invalidDigit
  | '+' :: digits | digits => readDigits (UInt64.size - 1) .tooLarge 0 digits

/-- The number of signed numbers of 64 bits that are below zero, and of those that
    are not. -/
def signedHalf : Nat := 9223372036854775808

/-- The signed number of 64 bits that a text stands for. -/
def readSigned (text : String) : Except NumberError Int :=
  match text.toList with
  | [] => .error .empty
  | ['+'] | ['-'] => .error .invalidDigit
  | '-' :: digits => (readDigits signedHalf .tooSmall 0 digits).map fun n => -(n : Int)
  | '+' :: digits | digits => (readDigits (signedHalf - 1) .tooLarge 0 digits).map fun n => (n : Int)

/-- The word of 32 bits that a text stands for. -/
def readWord (text : String) : Except NumberError Nat := do
  let n ← readSigned text
  if 0 ≤ n ∧ n < UInt32.size then .ok n.toNat else .error (.outside n (UInt32.size - 1))

end Threading.CommandLine

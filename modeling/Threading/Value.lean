/-!
# Values

Structured values as scenarios carry them: null, truth values, whole numbers,
texts, lists, and objects with named fields.
-/

namespace Threading

/-- A structured value. -/
inductive Value
  | null
  | bool (b : Bool)
  | num (n : Int)
  | str (s : String)
  | arr (items : List Value)
  | obj (fields : List (String × Value))
  deriving Inhabited

namespace Value

instance : Coe String Value := ⟨str⟩
instance : Coe Bool Value := ⟨bool⟩
instance : Coe Nat Value := ⟨fun n => num n⟩

mutual

/-- The value with the number `i` for the mark `$i`: a text that is the mark
    becomes the number, and the mark inside a text becomes its digits. -/
def instantiate (i : Int) : Value → Value
  | str s => if s = "$i" then num i else str (s.replace "$i" (toString i))
  | arr items => arr (instantiateItems i items)
  | obj fields => obj (instantiateFields i fields)
  | v => v

/-- The items with the number for the mark. -/
def instantiateItems (i : Int) : List Value → List Value
  | [] => []
  | v :: rest => instantiate i v :: instantiateItems i rest

/-- The fields with the number for the mark. -/
def instantiateFields (i : Int) : List (String × Value) → List (String × Value)
  | [] => []
  | (k, v) :: rest => (k, instantiate i v) :: instantiateFields i rest

end

mutual

/-- How deep lists and objects are nested. -/
def depth : Value → Nat
  | arr items => depthItems items + 1
  | obj fields => depthFields fields + 1
  | _ => 0

/-- The greatest depth of the items. -/
def depthItems : List Value → Nat
  | [] => 0
  | v :: rest => max (depth v) (depthItems rest)

/-- The greatest depth of the fields. -/
def depthFields : List (String × Value) → Nat
  | [] => 0
  | (_, v) :: rest => max (depth v) (depthFields rest)

end

/-- The field of an object. -/
def field? (name : String) : Value → Option Value
  | obj fields => fields.lookup name
  | _ => none

/-- The text of a value that is one. -/
def text? : Value → Option String
  | str s => some s
  | _ => none

/-- The number of a value that is one. -/
def int? : Value → Option Int
  | num n => some n
  | _ => none

/-- The number of a value that is one and not negative. -/
def nat? : Value → Option Nat
  | num n => n.toNat?
  | _ => none

/-- The truth value of a value that is one. -/
def bool? : Value → Option Bool
  | bool b => some b
  | _ => none

/-- The items of a value that is a list. -/
def items? : Value → Option (List Value)
  | arr items => some items
  | _ => none

end Value

end Threading

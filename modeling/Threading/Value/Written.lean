import Threading.Value

/-!
# The written form of values

`Value.write` writes a value without spaces. `Value.compact` is the written form
in which the fields of an object stand in the order of their names; values are
sorted by it. `Value.runs` gives a list by its runs of equal values.
-/

namespace Threading.Value

/-- A character as it stands between quotes. -/
def quoteChar (c : Char) : List Char :=
  if c = '"' then ['\\', '"']
  else if c = '\\' then ['\\', '\\']
  else if c = '\n' then ['\\', 'n']
  else if c = '\r' then ['\\', 'r']
  else if c = '\t' then ['\\', 't']
  else if c = '\x08' then ['\\', 'b']
  else if c = '\x0c' then ['\\', 'f']
  else if c.toNat < 32 then ['\\', 'u', '0', '0', Nat.digitChar (c.toNat / 16),
    Nat.digitChar (c.toNat % 16)]
  else [c]

/-- A text between quotes. -/
def quote (s : String) : String :=
  String.ofList ('"' :: (s.toList.flatMap quoteChar ++ ['"']))

mutual

/-- The value without spaces, the fields of objects in the order given. -/
def write : Value → String
  | null => "null"
  | bool b => if b then "true" else "false"
  | num n => toString n
  | str s => quote s
  | arr items => "[" ++ String.intercalate "," (writeItems items) ++ "]"
  | obj fields => "\x7b" ++ String.intercalate "," (writeFields fields) ++ "\x7d"

/-- The items of a list. -/
def writeItems : List Value → List String
  | [] => []
  | v :: rest => write v :: writeItems rest

/-- The fields of an object. -/
def writeFields : List (String × Value) → List String
  | [] => []
  | (k, v) :: rest => (quote k ++ ":" ++ write v) :: writeFields rest

end

mutual

/-- The value with the fields of all its objects in the order of their names. -/
def sortFields : Value → Value
  | arr items => arr (sortFieldsItems items)
  | obj fields => obj ((sortFieldsFields fields).mergeSort fun a b => decide (a.1 ≤ b.1))
  | v => v

/-- The items with their fields in order. -/
def sortFieldsItems : List Value → List Value
  | [] => []
  | v :: rest => sortFields v :: sortFieldsItems rest

/-- The fields with the fields of their values in order. -/
def sortFieldsFields : List (String × Value) → List (String × Value)
  | [] => []
  | (k, v) :: rest => (k, sortFields v) :: sortFieldsFields rest

end

/-- The written form by which values are compared. -/
def compact (v : Value) : String := v.sortFields.write

/-- Values in the order of their written forms. -/
def sortByText (values : List Value) : List Value :=
  ((values.map fun v => (v.compact, v)).mergeSort fun a b => decide (a.1 ≤ b.1)).map (·.2)

/-- The runs of equal values in a list, with their lengths. -/
def countRuns : List Value → List (Value × Nat)
  | [] => []
  | v :: rest =>
    match countRuns rest with
    | [] => [(v, 1)]
    | (w, n) :: runs => if v.compact = w.compact then (w, n + 1) :: runs else (v, 1) :: (w, n) :: runs

/-- The runs of equal values in a list, as pairs of value and length. -/
def runs (values : List Value) : Value :=
  arr ((countRuns values).map fun (v, n) => arr [v, n])

end Threading.Value

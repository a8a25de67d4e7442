/-!
# Growing lists

A list has room for a number of elements, its *capacity*. It asks for memory
only when it is full; then its capacity becomes 4, and from there on doubles:
0, 4, 8, 16, … It never shrinks, so it is the least of these that is at least
the greatest length the list ever had.
-/

namespace Threading

/-- The capacity a full list grows to. -/
def grownCapacity (capacity : Nat) : Nat := max 4 (2 * capacity)

/-- The capacity of a list with room for one more element, if it has room
    already or finds memory for more. -/
def reserveOne (length capacity : Nat) (memory : Bool) : Option Nat :=
  if length < capacity then some capacity
  else if memory then some (grownCapacity capacity)
  else none

/-- With memory there is room for one more element. -/
theorem reserveOne_true_ne_none (length capacity : Nat) : reserveOne length capacity true ≠ none := by
  rw [reserveOne]
  split <;> exact nofun

end Threading

/-!
# Thread names

The operating system takes thread names of a bounded number of bytes that end
at the first NUL. A name is *cut* to what it can carry (`cutName`): the longest
run of whole characters before the first NUL that takes at most `maxNameBytes`
bytes of UTF-8. A `ThreadName` is a text that the cut leaves as it is.
-/

namespace Threading

/-- The most bytes of UTF-8 a thread name takes. -/
def maxNameBytes : Nat := 63

/-- The name of a thread nobody named. -/
def defaultName : String := "Thread"

/-- The longest prefix of the characters that takes at most `room` bytes. -/
def fitBytes : Nat → List Char → List Char
  | _, [] => []
  | room, c :: rest =>
    if c.utf8Size ≤ room then c :: fitBytes (room - c.utf8Size) rest else []

/-- The characters of a name that the operating system carries. -/
def cutChars (text : List Char) : List Char :=
  fitBytes maxNameBytes (text.takeWhile (· != '\x00'))

/-- The part of `text` that the operating system carries. -/
def cutName (text : String) : String :=
  String.ofList (cutChars text.toList)

theorem fitBytes_sublist (room : Nat) (text : List Char) : (fitBytes room text).Sublist text := by
  induction text generalizing room with
  | nil => exact .slnil
  | cons c rest ih =>
    rw [fitBytes]
    split
    · exact (ih _).cons_cons c
    · exact List.nil_sublist _

/-- What fits is not cut again. -/
theorem fitBytes_fitBytes (room : Nat) (text : List Char) :
    fitBytes room (fitBytes room text) = fitBytes room text := by
  induction text generalizing room with
  | nil => rfl
  | cons c rest ih =>
    by_cases h : c.utf8Size ≤ room
    · simp [fitBytes, h, ih]
    · simp [fitBytes, h]

theorem takeWhile_fitBytes (room : Nat) (p : Char → Bool) (text : List Char) :
    (fitBytes room (text.takeWhile p)).takeWhile p = fitBytes room (text.takeWhile p) := by
  induction text generalizing room with
  | nil => rfl
  | cons c rest ih =>
    by_cases hp : p c
    · by_cases h : c.utf8Size ≤ room
      · simp [fitBytes, hp, h, ih]
      · simp [fitBytes, hp, h]
    · simp [fitBytes, hp]

theorem cutChars_cutChars (text : List Char) : cutChars (cutChars text) = cutChars text := by
  rw [cutChars, cutChars, takeWhile_fitBytes, fitBytes_fitBytes]

/-- The cut of a cut name is that name. -/
theorem cutName_cutName (text : String) : cutName (cutName text) = cutName text := by
  simp [cutName, cutChars_cutChars]

/-- A name that the operating system carries whole. -/
structure ThreadName where
  text : String
  cut_text : cutName text = text

namespace ThreadName

/-- The name carried for `text`. -/
def ofString (text : String) : ThreadName := ⟨cutName text, cutName_cutName text⟩

/-- The name of a thread that asked for `text`, or for none. -/
def ofOption (text : Option String) : ThreadName := ofString (text.getD defaultName)

instance : Inhabited ThreadName := ⟨ofString defaultName⟩

@[simp] theorem text_ofString (text : String) : (ofString text).text = cutName text := rfl

end ThreadName

end Threading

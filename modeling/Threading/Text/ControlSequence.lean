/-!
# Control sequences

A text may hold commands to the terminal: an escape character and what follows it
up to the end of the command, and single control characters. `withoutControls`
leaves them out, so that what remains cannot do more than show itself; of the
control characters, those that end a line or make a gap remain.

A command is followed by its place in the grammar of commands. Where a gap stands
within a command it is shown, and so is what comes after it: up to the next
control character the text is plain again.
-/

namespace Threading.Text

/-- Where a text stands in the grammar of commands to the terminal. -/
inductive CommandPlace
  /-- Outside of commands. -/
  | ground
  /-- After the escape character. -/
  | escape
  | escapeIntermediate
  /-- After the introducer of a control sequence. -/
  | sequenceEntry
  | sequenceParameter
  | sequenceIntermediate
  | sequenceIgnored
  /-- After the introducer of a text for a device. -/
  | deviceEntry
  | deviceParameter
  | deviceIntermediate
  /-- In the text for a device, which ends with a string terminator. -/
  | deviceText
  /-- In a text for the operating system, which ends with a bell. -/
  | systemText
  /-- In a text for somebody else. -/
  | foreignText
  deriving DecidableEq, Repr

namespace CommandPlace

/-- Control characters have their effect in that place. -/
def obeys : CommandPlace → Bool
  | deviceEntry | deviceParameter | deviceIntermediate | deviceText | systemText | foreignText => false
  | _ => true

/-- The place after a character of ASCII that is no control character. -/
def after (place : CommandPlace) (c : Char) : CommandPlace :=
  let intermediate : Bool := decide (c < '0')
  let parameter : Bool := decide (c < '@')
  match place with
  | ground => ground
  | escape =>
    if intermediate then escapeIntermediate
    else match c with
      | '[' => sequenceEntry
      | ']' => systemText
      | 'P' => deviceEntry
      | 'X' | '^' | '_' => foreignText
      | _ => ground
  | escapeIntermediate => if intermediate then escapeIntermediate else ground
  | sequenceEntry =>
    if intermediate then sequenceIntermediate else if parameter then sequenceParameter else ground
  | sequenceParameter =>
    if intermediate then sequenceIntermediate
    else if c < '<' then sequenceParameter
    else if parameter then sequenceIgnored else ground
  | sequenceIntermediate =>
    if intermediate then sequenceIntermediate else if parameter then sequenceIgnored else ground
  | sequenceIgnored => if parameter then sequenceIgnored else ground
  | deviceEntry =>
    if intermediate then deviceIntermediate else if parameter then deviceParameter else deviceText
  | deviceParameter =>
    if intermediate then deviceIntermediate
    else if c < '<' then deviceParameter else deviceText
  | deviceIntermediate => if intermediate then deviceIntermediate else deviceText
  | deviceText => deviceText
  | systemText => systemText
  | foreignText => foreignText

/-- A character beyond ASCII ends the text in that place: one of its bytes is a
    string terminator. -/
def endsAt (place : CommandPlace) (c : Char) : Bool :=
  (place == deviceText || place == foreignText) && (String.utf8EncodeChar c).contains 0x9c

end CommandPlace

/-- The control character makes a gap or ends a line. -/
def isGap (c : Char) : Bool := c = '\t' || c = '\n' || c = '\x0c' || c = '\r'

/-- The character of ASCII shows itself. -/
def isPlain (c : Char) : Bool := isGap c || (' ' ≤ c && c < '\x7f')

/-- The place after a character of ASCII, and whether the character is shown. -/
def CommandPlace.next (place : CommandPlace) (c : Char) : CommandPlace × Bool :=
  if c = '\x18' ∨ c = '\x1a' then (ground, false)
  else if c = '\x1b' then (escape, false)
  else if c < ' ' then
    (if place = systemText ∧ c = '\x07' then ground else place, place.obeys && isGap c)
  else if c = '\x7f' then (place, false)
  else (place.after c, decide (place = ground))

/-- The characters that are shown of a text. `plain` tells that the character
    before is shown. -/
def shownChars (plain : Bool) (place : CommandPlace) : List Char → List Char
  | [] => []
  | c :: rest =>
    if '\x7f' < c then
      if plain || place == .ground then c :: shownChars true .ground rest
      else shownChars false (if place.endsAt c then .ground else place) rest
    else if plain && isPlain c then c :: shownChars true place rest
    else match place.next c with
      | (place, true) => c :: shownChars true place rest
      | (place, false) => shownChars false place rest

/-- The text without commands to the terminal. -/
def withoutControls (text : String) : String :=
  String.ofList (shownChars false .ground text.toList)

end Threading.Text

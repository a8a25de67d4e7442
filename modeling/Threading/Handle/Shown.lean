import Threading.Handle
import Threading.Text.Quoted

/-!
# Handles as text

A handle shows its name, its stage and whether it is alive, on one line or with
a line for each.
-/

namespace Threading.Handle

variable {J : Type}

/-- The fields that a handle shows. -/
def shownFields (h : Handle J) : List (String × String) :=
  [("name", Text.quoted h.name.text), ("state", h.stage.label),
    ("alive", if h.alive then "true" else "false")]

/-- The handle on one line. -/
def shown (h : Handle J) : String :=
  let fields := h.shownFields.map fun (name, text) => name ++ ": " ++ text
  "ThreadHandle \x7b " ++ String.intercalate ", " fields ++ " \x7d"

/-- The handle with a line for each field. -/
def shownLong (h : Handle J) : String :=
  let fields := h.shownFields.map fun (name, text) => "    " ++ name ++ ": " ++ text ++ ",\n"
  "ThreadHandle \x7b\n" ++ String.join fields ++ "\x7d"

end Threading.Handle

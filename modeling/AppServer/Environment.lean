import AppServer.Text.Bytes

/-!
# Variables of the environment

A variable holds bytes. A program that asks for its text does not see one whose
bytes are no text: such a variable counts as unset.
-/

namespace AppServer.Environment

def text? (held : Option Bytes) : Option String := held.bind Bytes.toText?

theorem text?_ofText (s : String) : text? (some (Bytes.ofText s)) = some s := by
  simp only [text?, Option.bind_some, Bytes.toText?_ofText]

end AppServer.Environment

import AppServer.Environment
import AppServer.Json.Reader
import AppServer.Text.Blank

/-!
# Runtime modes

A process runs in one of three modes. The token of a mode names the profile
that is layered on top of the base configuration. A mode is read from its token
with blanks around it; any other text is refused, and only the absence of a
text selects the production mode.
-/

namespace AppServer

inductive Mode where
  | prod
  | dev
  | test
deriving DecidableEq, Repr, Inhabited

namespace Mode

def envVar : String := "TRELLIS_MODE"

def token : Mode → String
  | .prod => "prod"
  | .dev => "dev"
  | .test => "test"

def ofToken? (s : String) : Option Mode :=
  if s = "prod" then some .prod
  else if s = "dev" then some .dev
  else if s = "test" then some .test
  else none

theorem ofToken?_token (m : Mode) : ofToken? m.token = some m := by cases m <;> rfl

structure ParseError where
  /-- The text without the blanks around it. -/
  found : String
deriving DecidableEq, Repr

def ParseError.message (e : ParseError) : String :=
  "unknown mode `" ++ e.found ++ "` (expected prod, dev, or test)"

def parse (s : String) : Except ParseError Mode :=
  match ofToken? (Text.trim s) with
  | some m => .ok m
  | none => .error ⟨Text.trim s⟩

/-- The mode that the environment selects; `value` is the text of the variable, if it holds one. -/
def ofEnv (value : Option String) : Except ParseError Mode :=
  match value with
  | some s => parse s
  | none => .ok .prod

/-- The mode of a process, from the bytes of its variable if it is set. -/
def ofEnvironment (held : Option Bytes) : Except ParseError Mode := ofEnv (Environment.text? held)

/-- The mode of a JSON text: its token, alone or as the name of an alternative without contents. -/
def ofJsonText? (s : String) : Option Mode := (Json.readVariant? s).bind ofToken?

def toJson (m : Mode) : Json := .string m.token

end Mode

end AppServer

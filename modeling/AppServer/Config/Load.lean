import AppServer.Config.Properties

/-!
# Loading properties

Properties come from two files of a directory: the base file, and over it the
profile file of the mode. A missing file contributes nothing; a file that
cannot be read, is too large or is not UTF-8 refuses the whole configuration.
-/

namespace AppServer.Properties

def dirEnvVar : String := "TRELLIS_CONF_DIR"

def defaultDir : String := "conf"

def maxFileBytes : Nat := 1024 * 1024

/-- The configuration directory: the one given, else that of the environment unless it is blank. -/
def resolveDir (dir env : Option String) : String :=
  match dir, env with
  | some dir, _ => dir
  | none, some env => if Text.trim env = "" then defaultDir else env
  | none, none => defaultDir

def filesFor (dir : String) (mode : Mode) : List String :=
  [Files.join dir "application.toml", Files.join dir ("application." ++ mode.token ++ ".toml")]

/-- The document in a file, if the file exists. -/
def readDocument (files : Files) (path : String) : Except ConfigError (Option String) :=
  match files.read path with
  | .error .notFound => .ok none
  | .error cause => .error (.unreadable path cause)
  | .ok content =>
    if maxFileBytes < content.length then .error (.tooLarge path)
    else match Bytes.toText? content with
      | some document => .ok (some document)
      | none => .error (.notText path)

def loadFile (files : Files) (p : Properties) (path : String) : Except ConfigError Properties := do
  match ← readDocument files path with
  | none => .ok p
  | some document =>
    let (p, outcome) := p.mergeToml document
    outcome
    .ok p

def loadDir (files : Files) (dir : String) (mode : Mode) : Except ConfigError Properties :=
  (filesFor dir mode).foldlM (loadFile files) empty

def load (files : Files) (dir env : Option String) (mode : Mode) : Except ConfigError Properties :=
  loadDir files (resolveDir dir env) mode

end AppServer.Properties

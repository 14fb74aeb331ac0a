import AppServer.Template.Compile

/-!
# Errors of templates

Why a template cannot be rendered, and why templates cannot be loaded.
-/

namespace AppServer.Template

inductive RenderError where
  | templateNotFound (name : String)
  | badSource (reason : SyntaxError)
  | helperNotFound (name : String)
  | decoratorNotFound (name : String)
  | inclusionNotFound (name : String)
  | bodyNotFound
  | includesItself
  | missingArgument (helper : String) (index : Nat)
  | missingNamed (helper : String) (name : String)
  | badArgumentType (expected : String)
  | missingBody
  | badIndex (name : String)
  | badLoggingLevel (level : String)
  | rejectsParameters (helper : String)
  | rejectsLoopVariables (helper : String)
  | tooDeep
deriving DecidableEq, Repr

def RenderError.misuse? : RenderError → Option String
  | .rejectsParameters helper => some (helper ++ " does not accept parameters")
  | .rejectsLoopVariables helper => some (helper ++ " does not accept loop variables")
  | _ => none

inductive LoadError where
  | io (text : String)
  | badSource (reason : SyntaxError)
deriving DecidableEq, Repr

def LoadError.ioMessage (text : String) : String := "template io error: " ++ text

end AppServer.Template

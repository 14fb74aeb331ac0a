import AppServer.Files

/-!
# Configuration errors

The causes for which a configuration is refused, with their wording. Every
cause belongs to one of three classes: a file that cannot be read, a document
that cannot be parsed, or data that is not valid.
-/

namespace AppServer

inductive ConfigError where
  | unreadable (path : String) (cause : FileError)
  | unparsable
  | tooLarge (path : String)
  | notText (path : String)
  | arrayAt (path : String)
  | keyLength
  | malformedKey (key : String)
  | required (key : String)
  | notBoolean (key : String)
  | notPort (key : String)
  | hostNotLiteral (key raw : String)
  | hostNotName (key raw : String)
  | contextPathStart (key : String)
  | contextPathEnd (key : String)
  | cookiePrefix (key : String)
  | unknownSink (key found : String)
deriving DecidableEq, Repr

namespace ConfigError

inductive Class where
  | io
  | parse
  | invalid
deriving DecidableEq, Repr

def Class.announce : Class → String → String
  | .io, detail => "config io error: " ++ detail
  | .parse, detail => "config parse error: " ++ detail
  | .invalid, detail => "invalid config: " ++ detail

def errorClass : ConfigError → Class
  | .unreadable _ _ => .io
  | .unparsable => .parse
  | _ => .invalid

def detail : ConfigError → String
  | .unreadable path cause => path ++ ": " ++ cause.message
  | .unparsable => "malformed document"
  | .tooLarge path => path ++ " exceeds size limit"
  | .notText path => path ++ " must be utf-8"
  | .arrayAt path => path ++ ": arrays are not supported"
  | .keyLength => "property key length out of range"
  | .malformedKey key => "property key `" ++ key ++ "` is malformed"
  | .required key => key ++ " is required"
  | .notBoolean key => key ++ " must be true or false"
  | .notPort key => key ++ " must be an integer port"
  | .hostNotLiteral key raw => key ++ " `" ++ raw ++ "` is not an ipv6 literal"
  | .hostNotName key raw => key ++ " `" ++ raw ++ "` is not a host name"
  | .contextPathStart key => key ++ " must start with '/'"
  | .contextPathEnd key => key ++ " must not end with '/'"
  | .cookiePrefix key => key ++ " must be an alphanumeric token"
  | .unknownSink key found => key ++ " must be stderr, file, or none (got `" ++ found ++ "`)"

def message (e : ConfigError) : String := e.errorClass.announce e.detail

end ConfigError

end AppServer

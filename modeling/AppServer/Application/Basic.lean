import AppServer.Config.Settings
import AppServer.Http.Route
import AppServer.Injector
import AppServer.Template.Engine

/-!
# Applications

An application binds services and, from the services that are bound in the end,
makes its routes. A server adds services of its own before the application's,
and a module may replace any of them afterwards.
-/

namespace AppServer

/-! ### Services -/

inductive Greeter where
  | polite
  | pirate
deriving DecidableEq, Repr

def Greeter.greet : Greeter → String → String
  | .polite, name => "Hello, " ++ name
  | .pirate, name => "Ahoy, " ++ name

inductive StoreHandle where
  | ofServer
  | separate (store : Store SessionRef)

inductive Service where
  | mode (mode : Mode)
  | properties (properties : Properties)
  | settings (settings : ServerSettings)
  | sessions (store : StoreHandle)
  | templates (engine : TemplateEngine)
  | greeter (greeter : Greeter)
  | text (text : String)

namespace Service

def modeType : TypeName := "Mode"

def propertiesType : TypeName := "Properties"

def settingsType : TypeName := "ServerSettings"

def sessionsType : TypeName := "SessionStore"

def templatesType : TypeName := "TemplateEngine"

def greeterType : TypeName := "Greeter"

def textType : TypeName := "String"

def type : Service → TypeName
  | .mode _ => modeType
  | .properties _ => propertiesType
  | .settings _ => settingsType
  | .sessions _ => sessionsType
  | .templates _ => templatesType
  | .greeter _ => greeterType
  | .text _ => textType

/-- The type of a name; one that names no service of a server stands for itself. -/
def typeOfName : String → TypeName
  | "mode" => modeType
  | "string" => textType
  | "greeter" => greeterType
  | "properties" => propertiesType
  | "settings" => settingsType
  | "sessions" => sessionsType
  | "templates" => templatesType
  | other => other

def bindAs (id : Nat) (service : Service) : BindingStep Service := .bind service.type ⟨id, service⟩

end Service

/-! ### Applications -/

abbrev RouteTable := List (String × Http.Endpoint Unit)

structure Application where
  configure : Properties → Except String (List (BindingStep Service)) := fun _ => .ok []
  /-- Its routes, made from the services that are bound, or why there are none. -/
  routes : Injector Service → Except String RouteTable

def Application.need (injector : Injector Service) (type : TypeName) : Except String Service :=
  match injector.require type with
  | .ok service => .ok service.value
  | .error e => .error e.message

end AppServer

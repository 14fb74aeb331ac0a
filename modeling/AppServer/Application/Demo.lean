import AppServer.Application.Basic
import AppServer.Http.Authenticity
import AppServer.Json.Writer

/-!
# The demo application

A small application with a bit of everything: an injected service, templates,
sessions, properties, and two routes behind the authenticity check.
-/

namespace AppServer.Demo

open Http

/-! ### Responses -/

def answer (respond : Captures → Request → Response) : Endpoint Unit :=
  fun captures request _ realm => ⟨respond captures request, realm, some ()⟩

def withSession (respond : SessionRef → Realm → Response × Realm) : Endpoint Unit :=
  fun _ => needSession fun _ ref realm =>
    let (response, realm) := respond ref realm
    ⟨response, realm, some ()⟩

def page (text : String) : Response :=
  ⟨200, [("content-type", Bytes.ofText "text/html; charset=utf-8")], Bytes.ofText text⟩

def json (value : Json) : Response :=
  ⟨200, [("content-type", Bytes.ofText "application/json")], Bytes.ofText (Json.write value)⟩

/-- The one text that a path captures, or the response when there is not exactly one. -/
def captured : Captures → Except Response String
  | [(name, raw)] =>
    match Bytes.toText? (Form.percentDecode (Bytes.ofText raw)) with
    | some text => .ok text
    | none => .error (Response.ofText 400 ("Invalid URL: Invalid UTF-8 in `" ++ name ++ "`"))
  | captures => .error (Response.ofText 500
      ("Wrong number of path arguments for `Path`. Expected 1 but got " ++ Text.decimal captures.length ++
        ". Note that multiple parameters must be extracted with a tuple `Path<(_, _)>` or a struct `Path<YourParams>`"))

def answerCaptured (respond : String → Response) : Endpoint Unit :=
  answer fun captures _ => match captured captures with
    | .ok text => respond text
    | .error response => response

def text (s : String) : Response := Response.ofText 200 s

/-! ### Pages -/

def formTemplate : String :=
  "<form method=\"post\" action=\"submit\">\x7b\x7bauthenticity_form\x7d\x7d<input name=\"name\" /></form>"

def formPage (templates : TemplateEngine) (ref : SessionRef) (realm : Realm) : Response × Realm :=
  match templates.render "form" (.object []) (Realm.token ref) realm with
  | (.ok text, realm) => (page text, realm)
  | (.error _, realm) => (Response.ofText 500 "template render error", realm)

/-- What a posted form is answered: the name in it is saved. -/
def submitted (request : Request) : Response :=
  if !request.isForm then
    Response.ofText 415 "Form requests must have `Content-Type: application/x-www-form-urlencoded`"
  else text ("saved " ++ (((Form.decode request.body).reverse.lookup "name").getD ""))

def echoed (request : Request) : Response :=
  match request.headers.text? "content-type" with
  | some type =>
    if (Text.dropStart? "application/json".toList type.toList).isNone then
      Response.ofText 415 "Expected request with `Content-Type: application/json`"
    else match (Bytes.toText? request.body).bind Json.read? with
      | some value => json value
      | none => Response.ofText 400 "Failed to parse the request body as JSON"
  | none => Response.ofText 415 "Expected request with `Content-Type: application/json`"

def propertyText (properties : Properties) (key : String) : Response :=
  match properties.get? key with
  | some value => text value
  | none => Response.ofText 404 ""

def guarded (endpoint : Endpoint Unit) : Endpoint Unit := fun captures => requireToken (endpoint captures)

/-! ### The application -/

def routes (greeter : Greeter) (templates : TemplateEngine) (properties : Properties) (mode : Mode) :
    RouteTable :=
  [("/", Endpoint.onGet (answer fun _ _ => text "home")),
    ("/mode", Endpoint.onGet (answer fun _ _ => text mode.token)),
    ("/greeting/\x7bname\x7d", Endpoint.onGet (answerCaptured fun name => text (greeter.greet name))),
    ("/form", Endpoint.onGet (withSession (formPage templates))),
    ("/token", Endpoint.onGet (withSession fun ref realm =>
      let (token, realm) := realm.token ref
      (text token, realm))),
    ("/property/\x7bkey\x7d", Endpoint.onGet (answerCaptured (propertyText properties))),
    ("/status", Endpoint.onGet (answer fun _ _ =>
      json (.object [("ok", .bool true), ("service", .string "demo")]))),
    ("/headers", Endpoint.onGet (answer fun _ request =>
      text ((request.headers.text? "x-demo").getD "missing"))),
    ("/submit", guarded (Endpoint.onPost (answer fun _ => submitted))),
    ("/echo-json", guarded (Endpoint.onPost (answer fun _ => echoed)))]

def application : Application where
  configure _ :=
    match TemplateEngine.empty.register "form" formTemplate with
    | .ok templates =>
      .ok [Service.bindAs 10 (.templates templates), Service.bindAs 11 (.greeter .polite)]
    | .error _ => .error "template syntax error"
  routes injector := do
    let greeter ← Application.need injector Service.greeterType
    let templates ← Application.need injector Service.templatesType
    let properties ← Application.need injector Service.propertiesType
    let mode ← Application.need injector Service.modeType
    match greeter, templates, properties, mode with
    | .greeter greeter, .templates templates, .properties properties, .mode mode =>
      .ok (routes greeter templates properties mode)
    | _, _, _, _ => .error "a service is bound under the type of another"

def pirateModule : List (BindingStep Service) := [Service.bindAs 20 (.greeter .pirate)]

/-! ### Smaller applications -/

def echoApplication : Application where
  routes _ :=
    let echo : Endpoint Unit := answer fun _ request =>
      text (request.method ++ " " ++ request.target.path ++ (request.target.query.elim "" ("?" ++ ·)))
    .ok [("/", echo), ("/\x7b*rest\x7d", echo)]

def brokenApplication (cause : String) : Application where
  routes _ := .error cause

def misconfiguredApplication (cause : String) : Application where
  configure _ := .error cause
  routes _ := .ok []

def needyApplication (type : TypeName) : Application where
  routes injector := do
    let _ ← Application.need injector type
    .ok []

/-! ### By name -/

def applicationNamed (name cause : String) : Application :=
  match name with
  | "echo" => echoApplication
  | "broken" => brokenApplication cause
  | "misconfigured" => misconfiguredApplication cause
  | "unbound" => needyApplication "u64"
  | _ => application

/-- The steps of a module that replaces one service, by the name of what it replaces. -/
def replacement : String → List (BindingStep Service)
  | "pirate" => pirateModule
  | "mode" => [Service.bindAs 21 (.mode .dev)]
  | _ => [Service.bindAs 22 (.text "override")]

def moduleOfNames (names : List String) : List (BindingStep Service) := names.flatMap replacement

end AppServer.Demo

import Mathlib
import AppServer.Application.Demo
import AppServer.Proofs.Http.ContextRoot
import AppServer.Proofs.Http.Holdings
import AppServer.Proofs.Injector
import AppServer.Proofs.Server.Routes
import AppServer.Proofs.Server.Start
import AppServer.Proofs.Template.Fragment

/-!
# The demo application on a server

All endpoints of the demo application at most ask for the token of their session.
Two of them show it: one as it is and one on a page, in the hidden field of a
form. Two others are behind the authenticity check.
-/

namespace AppServer.Demo

open Http Template

/-! ### Endpoints -/

/-- An endpoint does mild work for each request. -/
def Calm (endpoint : Endpoint Unit) : Prop :=
  ∀ captures request, ∃ work, (endpoint captures).WorksOn request work ∧ Mild work

theorem answer_worksOn (respond : Captures → Request → Response) (captures : Captures) (request : Request) :
    (answer respond captures).WorksOn request fun s e => ⟨respond captures request, some (), s, e⟩ := by
  intro ref realm hexists
  rw [answer, Ending.outcome, Realm.update_session hexists]

theorem calm_answer {respond : Captures → Request → Response}
    (hplain : ∀ captures request, (respond captures request).Plain) : Calm (answer respond) :=
  fun captures request =>
    ⟨_, answer_worksOn respond captures request, mild_looking (fun _ => some ()) fun _ => hplain captures request⟩

theorem forMethods_worksOn {endpoint : Endpoint Unit} {methods : List String} {captures : Captures}
    {request : Request} {work : Session → Entropy → Ending Unit} (h : (endpoint captures).WorksOn request work)
    (hmethod : request.method ∈ methods) :
    (endpoint.forMethods methods captures).WorksOn request work := by
  intro ref realm hexists
  rw [Endpoint.forMethods, if_pos hmethod]
  exact h ref realm hexists

theorem plain_methodNotAllowed (allowed : String) : (methodNotAllowed allowed).Plain := by
  have hname : lowerName "allow" ≠ lowerName "set-cookie" := by decide
  simp [Response.Plain, methodNotAllowed, Headers.all, hname]

theorem Calm.forMethods {endpoint : Endpoint Unit} (h : Calm endpoint) (methods : List String) :
    Calm (endpoint.forMethods methods) := by
  intro captures request
  by_cases hmethod : request.method ∈ methods
  · obtain ⟨work, hworks, hmild⟩ := h captures request
    exact ⟨work, forMethods_worksOn hworks hmethod, hmild⟩
  · refine ⟨_, fun ref realm hexists => ?_,
      mild_looking (fun _ => none) fun _ => plain_methodNotAllowed (Text.join "," methods)⟩
    rw [Endpoint.forMethods, if_neg hmethod, Ending.outcome, Realm.update_session hexists]

theorem Calm.guarded {endpoint : Endpoint Unit} (h : Calm endpoint) : Calm (guarded endpoint) := by
  intro captures request
  obtain ⟨work, hworks, hmild⟩ := h captures request
  exact ⟨_, requireToken_worksOn hworks, hmild.guarded request⟩

/-! ### The token on a page -/

theorem token_worksOn (captures : Captures) (request : Request) :
    (withSession (fun ref realm => let (token, realm) := realm.token ref; (text token, realm)) captures).WorksOn
      request (asking text ()) := by
  intro ref realm hexists
  rfl

/-- The parts of the form's page. -/
def formFragments : List Fragment :=
  [.text "<form method=\"post\" action=\"submit\">", .hiddenField, .text "<input name=\"name\" /></form>"]

theorem compile_formTemplate : compile formTemplate = .ok ⟨formFragments.map Fragment.element⟩ := by cbv

def formText (token : String) : String :=
  "<form method=\"post\" action=\"submit\">" ++ hiddenField token ++ "<input name=\"name\" /></form>"

theorem render_form {templates : TemplateEngine}
    (htemplate : templates.get? "form" = some ⟨formFragments.map Fragment.element⟩) {ref : SessionRef} {realm : Realm}
    (hexists : ref.index < realm.sessions.size) :
    templates.render "form" (.object []) (Realm.token ref) realm =
      (.ok (formText (realm.token ref).1), (realm.token ref).2) := by
  have hread : realm.token ref = ((realm.token ref).1, (realm.token ref).2) := rfl
  have hrendered : ref.index < (realm.token ref).2.sessions.size := by
    rw [Realm.size_token]
    exact hexists
  have hagain := Realm.token_of_some hrendered (Realm.token?_token hexists)
  simp only [TemplateEngine.render, TemplateEngine.rendered, htemplate]
  rw [TemplateEngine.renderedElements_fragments hread hagain]
  have hjoin (before field after : String) : String.join [before, field, after] = before ++ field ++ after := by
    simp only [String.join_cons, String.join_nil, String.append_empty, String.append_assoc]
  have htext (token : String) : String.join (formFragments.map (Fragment.shows token)) = formText token :=
    hjoin _ _ _
  rw [htext]
  rfl

theorem form_worksOn {templates : TemplateEngine}
    (htemplate : templates.get? "form" = some ⟨formFragments.map Fragment.element⟩) (captures : Captures)
    (request : Request) :
    (withSession (formPage templates) captures).WorksOn request (asking (fun token => page (formText token)) ()) := by
  intro ref realm hexists
  simp only [withSession, needSession, formPage, render_form htemplate hexists]
  rfl

theorem hiddenValue?_formText {token : String} (hquote : '"' ∉ token.toList) :
    hiddenValue? (formText token) = some token := by
  exact hiddenValue?_append hquote fun rest => rfl

/-! ### All endpoints -/

theorem plain_page (text : String) : (page text).Plain := by
  have hname : lowerName "content-type" ≠ lowerName "set-cookie" := by decide
  simp [Response.Plain, page, Headers.all, hname]

theorem plain_json (value : Json) : (json value).Plain := by
  have hname : lowerName "content-type" ≠ lowerName "set-cookie" := by decide
  simp [Response.Plain, json, Headers.all, hname]

theorem calm_asking {respond : SessionRef → Realm → Response × Realm} {shows : String → Response}
    (hworks : ∀ captures request, (withSession respond captures).WorksOn request (asking shows ()))
    (hplain : ∀ token, (shows token).Plain) : Calm (withSession respond) :=
  fun captures request => ⟨_, hworks captures request, mild_asking () hplain⟩

theorem plain_captured {captures : Captures} {response : Response} (h : captured captures = .error response) :
    response.Plain := by
  rw [captured.eq_def] at h
  split at h
  · split at h
    · cases h
    · cases h
      exact plain_ofText _ _
  · cases h
    exact plain_ofText _ _

theorem calm_answerCaptured {respond : String → Response} (hplain : ∀ text, (respond text).Plain) :
    Calm (answerCaptured respond) := by
  refine calm_answer fun captures request => ?_
  split
  · exact hplain _
  · next response hcaptured => exact plain_captured hcaptured

theorem plain_propertyText (properties : Properties) (key : String) : (propertyText properties key).Plain := by
  rw [propertyText]
  split
  · exact plain_ofText _ _
  · exact plain_ofText _ _

theorem plain_submitted (request : Request) : (submitted request).Plain := by
  rw [submitted]
  split
  · exact plain_ofText _ _
  · exact plain_ofText _ _

theorem plain_echoed (request : Request) : (echoed request).Plain := by
  rw [echoed]
  split
  · split
    · exact plain_ofText _ _
    · split
      · exact plain_json _
      · exact plain_ofText _ _
  · exact plain_ofText _ _

/-- The routes of the demo application, with templates that hold the form. -/
structure IsTable (table : RouteTable) : Prop where
  made : ∃ greeter templates properties mode, table = routes greeter templates properties mode ∧
    templates.get? "form" = some ⟨formFragments.map Fragment.element⟩

theorem IsTable.calm {table : RouteTable} (h : IsTable table) {written : String × Endpoint Unit}
    (hwritten : written ∈ table) : Calm written.2 := by
  obtain ⟨greeter, templates, properties, mode, rfl, htemplate⟩ := h.made
  rw [routes] at hwritten
  simp only [List.mem_cons, List.not_mem_nil, or_false] at hwritten
  rcases hwritten with rfl | rfl | rfl | rfl | rfl | rfl | rfl | rfl | rfl | rfl
  · exact (calm_answer fun _ _ => plain_ofText _ _).forMethods _
  · exact (calm_answer fun _ _ => plain_ofText _ _).forMethods _
  · exact (calm_answerCaptured fun _ => plain_ofText _ _).forMethods _
  · exact (calm_asking (form_worksOn htemplate) fun _ => plain_page _).forMethods _
  · exact (calm_asking token_worksOn fun _ => plain_ofText _ _).forMethods _
  · exact (calm_answerCaptured fun _ => plain_propertyText _ _).forMethods _
  · exact (calm_answer fun _ _ => plain_json _).forMethods _
  · exact (calm_answer fun _ _ => plain_ofText _ _).forMethods _
  · exact ((calm_answer fun _ request => plain_submitted request).forMethods _).guarded
  · exact ((calm_answer fun _ request => plain_echoed request).forMethods _).guarded

theorem IsTable.eq_of_path {table : RouteTable} (h : IsTable table) {written other : String × Endpoint Unit}
    (hwritten : written ∈ table) (hother : other ∈ table) (hpath : written.1 = other.1) : written = other := by
  obtain ⟨greeter, templates, properties, mode, rfl, -⟩ := h.made
  have hnodup : ((routes greeter templates properties mode).map Prod.fst).Nodup := by
    rw [routes]
    simp only [List.map_cons, List.map_nil]
    decide
  exact List.inj_on_of_nodup_map hnodup hwritten hother hpath

theorem IsTable.path_ne {table : RouteTable} (h : IsTable table) {written : String × Endpoint Unit}
    (hwritten : written ∈ table) : written.1 ≠ "" := by
  obtain ⟨greeter, templates, properties, mode, rfl, -⟩ := h.made
  have hall : ∀ path ∈ (routes greeter templates properties mode).map Prod.fst, path ≠ "" := by
    rw [routes]
    simp only [List.map_cons, List.map_nil]
    decide
  exact hall _ (List.mem_map_of_mem hwritten)

section

variable {table : RouteTable} {written : String × Endpoint Unit} {captures : Captures} {request : Request}

theorem IsTable.token_worksOn (h : IsTable table) (hwritten : written ∈ table) (hpath : written.1 = "/token")
    (hmethod : request.method = "GET") : (written.2 captures).WorksOn request (asking text ()) := by
  obtain ⟨greeter, templates, properties, mode, rfl, -⟩ := h.made
  have hmem : ("/token", Endpoint.onGet (withSession fun ref realm =>
      let (token, realm) := realm.token ref
      (text token, realm))) ∈ routes greeter templates properties mode := by
    rw [routes]
    simp only [List.mem_cons, true_or, or_true]
  rw [h.eq_of_path hwritten hmem hpath]
  exact forMethods_worksOn (Demo.token_worksOn captures request) (by rw [hmethod]; exact List.mem_cons_self)

theorem IsTable.form_worksOn (h : IsTable table) (hwritten : written ∈ table) (hpath : written.1 = "/form")
    (hmethod : request.method = "GET") :
    (written.2 captures).WorksOn request (asking (fun token => page (formText token)) ()) := by
  obtain ⟨greeter, templates, properties, mode, rfl, htemplate⟩ := h.made
  have hmem : ("/form", Endpoint.onGet (withSession (formPage templates))) ∈
      routes greeter templates properties mode := by
    rw [routes]
    simp only [List.mem_cons, true_or, or_true]
  rw [h.eq_of_path hwritten hmem hpath]
  exact forMethods_worksOn (Demo.form_worksOn htemplate captures request) (by rw [hmethod]; exact List.mem_cons_self)

theorem IsTable.submit_worksOn (h : IsTable table) (hwritten : written ∈ table) (hpath : written.1 = "/submit")
    (hmethod : request.method = "POST") : (written.2 captures).WorksOn request
      (Http.guarded request fun s e => ⟨submitted request, some (), s, e⟩) := by
  obtain ⟨greeter, templates, properties, mode, rfl, -⟩ := h.made
  have hmem : ("/submit", guarded (Endpoint.onPost (answer fun _ => submitted))) ∈
      routes greeter templates properties mode := by
    rw [routes]
    simp only [List.mem_cons, true_or, or_true]
  rw [h.eq_of_path hwritten hmem hpath]
  exact requireToken_worksOn (forMethods_worksOn (answer_worksOn (fun _ => submitted) captures request)
    (by rw [hmethod]; exact List.mem_cons_self))

end

/-! ### On a server -/

/-- A server is made to run the demo application, with the templates that the application binds. -/
structure RunsDemo (config : ServerConfig) : Prop where
  application : config.application = application
  templates : ∀ steps, config.overrideModule = some steps →
    ∀ entry ∈ stepBindings steps, entry.1 ≠ Service.templatesType

theorem configure_eq (properties : Properties) : application.configure properties =
    .ok [Service.bindAs 10 (.templates (TemplateEngine.empty.put "form" ⟨formFragments.map Fragment.element⟩)),
      Service.bindAs 11 (.greeter .polite)] := by
  simp only [application, TemplateEngine.register, compile_formTemplate, Except.map]

theorem templates_of_injectorOf {config : ServerConfig} (h : RunsDemo config) {properties : Properties}
    {settings : ServerSettings} {injector : Injector Service}
    (hinjector : Server.injectorOf config properties settings = .ok injector) :
    injector.get? Service.templatesType =
      some ⟨10, .templates (TemplateEngine.empty.put "form" ⟨formFragments.map Fragment.element⟩)⟩ := by
  have hoverride : ∀ entry ∈ stepBindings (config.overrideModule.map BindingStep.install).toList,
      entry.1 ≠ Service.templatesType := by
    cases hmodule : config.overrideModule with
    | none => exact fun entry hentry => absurd hentry List.not_mem_nil
    | some steps =>
      have hsteps : stepBindings ((some steps).map BindingStep.install).toList = stepBindings steps := by
        simp only [Option.map_some, Option.toList_some, stepBindings, BindingStep.bindings, List.append_nil]
      rw [hsteps]
      exact h.templates steps hmodule
  have hgreeter : Service.greeterType ≠ Service.templatesType := by decide
  simp only [Server.injectorOf, Server.bindingSteps, h.application, configure_eq, bind_eq_ok_iff, Except.ok.injEq]
    at hinjector
  obtain ⟨_, rfl, rfl⟩ := hinjector
  rw [Injector.get?, Bindings.build, runSteps_eq, stepBindings_append, stepBindings_append, Bindings.bindAll_append,
    Bindings.bindAll_append, Bindings.get?_bindAll_of_unbound hoverride]
  exact (Bindings.get?_bind_of_ne _ hgreeter _).trans (Bindings.get?_bind_self _ _ _)

theorem isTable_of_routes {injector : Injector Service} {templates : TemplateEngine} {id : Nat}
    (htemplates : injector.get? Service.templatesType = some ⟨id, .templates templates⟩)
    (htemplate : templates.get? "form" = some ⟨formFragments.map Fragment.element⟩) {table : RouteTable}
    (htable : application.routes injector = .ok table) : IsTable table := by
  have hneed : Application.need injector Service.templatesType = .ok (.templates templates) := by
    simp only [Application.need, Injector.require, htemplates]
  simp only [application, bind_eq_ok_iff, hneed, Except.ok.injEq, exists_eq_left'] at htable
  obtain ⟨greeter, -, properties, -, mode, -, htable⟩ := htable
  split at htable
  · next greeter _ properties mode heq =>
    cases heq
    cases htable
    exact ⟨greeter, templates, properties, mode, rfl, htemplate⟩
  · cases htable

theorem RunsDemo.isTable {config : ServerConfig} (h : RunsDemo config) {properties : Properties}
    {settings : ServerSettings} {injector : Injector Service}
    (hinjector : Server.injectorOf config properties settings = .ok injector) {table : RouteTable}
    (htable : config.application.routes injector = .ok table) : IsTable table := by
  rw [h.application] at htable
  refine isTable_of_routes (templates_of_injectorOf h hinjector) ?_ htable
  rw [TemplateEngine.get?_put, if_pos rfl]

theorem exists_table {config : ServerConfig} (h : RunsDemo config) {m : Machine} {r : Running}
    (hstarted : r.StartedFrom config m) {router : Router Unit}
    (hrouter : Server.routerOf config r.settings r.injector = .ok router) :
    ∃ table, IsTable table ∧ ∀ route ∈ router.routes, ∃ written ∈ table,
      StandsFor r.settings.contextPath r.settings.sessionCookieName route written := by
  obtain ⟨properties, -, hinjector⟩ := hstarted.settings
  obtain ⟨table, htable, hroutes⟩ := Server.standsFor_of_routerOf hrouter
  exact ⟨table, h.isTable hinjector htable, hroutes⟩

/-! ### Without a context path -/

theorem find?_layer (greeter : Greeter) (templates : TemplateEngine) (properties : Properties) (mode : Mode)
    (name path : String) (hpath : path = "/token" ∨ path = "/form" ∨ path = "/submit") :
    (((Router.ofList? (routes greeter templates properties mode)).map (·.layer (sessionLayer name))).bind fun router =>
      (router.find? path).map fun found => found.1.path) = some path := by
  rcases hpath with rfl | rfl | rfl
  · cbv
  · cbv
  · cbv

theorem exists_routerOf {config : ServerConfig} (h : RunsDemo config) (hmodule : config.overrideModule = none)
    (properties : Properties) {settings : ServerSettings} (hpath : settings.contextPath = "") :
    ∃ injector router, Server.injectorOf config properties settings = .ok injector ∧
      Server.routerOf config settings injector = .ok router := by
  obtain ⟨injector, hinjector⟩ : ∃ injector, Server.injectorOf config properties settings = .ok injector := by
    simp only [Server.injectorOf, Server.bindingSteps, h.application, configure_eq]
    exact ⟨_, rfl⟩
  have hroutes : ∃ greeter templates properties mode,
      application.routes injector = .ok (routes greeter templates properties mode) := by
    simp only [Server.injectorOf, Server.bindingSteps, h.application, configure_eq, hmodule, bind_eq_ok_iff,
      Except.ok.injEq] at hinjector
    obtain ⟨_, rfl, rfl⟩ := hinjector
    exact ⟨_, _, _, _, rfl⟩
  obtain ⟨greeter, templates, properties, mode, hroutes⟩ := hroutes
  have hfind := find?_layer greeter templates properties mode settings.sessionCookieName "/token" (.inl rfl)
  obtain ⟨router, hrouter, -⟩ := Option.bind_eq_some_iff.mp hfind
  refine ⟨injector, router, hinjector, ?_⟩
  rw [Server.routerOf, h.application]
  simp only [hroutes, hpath, if_true, hrouter, bind, Except.bind]

/-- On a server without a context path the pages with the token and the form are where the application has them. -/
theorem RunsDemo.leadsTo {config : ServerConfig} (h : RunsDemo config) {m : Machine} {r : Running}
    (hstarted : r.StartedFrom config m) (hroot : r.settings.contextPath = "") {path : String}
    (hpath : path = "/token" ∨ path = "/form" ∨ path = "/submit") (query : Option String) :
    r.LeadsTo config ⟨none, path, query⟩ path := by
  obtain ⟨router, hrouter, -⟩ := hstarted.handler
  obtain ⟨properties, -, hinjector⟩ := hstarted.settings
  obtain ⟨table, htable, -⟩ := Server.standsFor_of_routerOf hrouter
  obtain ⟨greeter, templates, properties, mode, rfl, -⟩ := (h.isTable hinjector htable).made
  have hfind := find?_layer greeter templates properties mode r.settings.sessionCookieName path hpath
  obtain ⟨layered, hlayered, hfind⟩ := Option.bind_eq_some_iff.mp hfind
  obtain ⟨⟨route, captures⟩, hfound, heq⟩ := Option.map_eq_some_iff.mp hfind
  have hsame : router = layered := by
    rw [Server.routerOf] at hrouter
    simp only [htable, hroot, if_true, hlayered, bind, Except.bind] at hrouter
    exact (Except.ok.inj hrouter).symm
  refine ⟨router, route, captures, hrouter, ?_, ?_⟩
  · rw [hsame, hroot, Target.withContextRoot_empty]
    exact hfound
  · rw [hroot, placedPath, if_pos rfl]
    exact heq

end AppServer.Demo

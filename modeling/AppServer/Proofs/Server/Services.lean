import AppServer.Proofs.Injector
import AppServer.Proofs.Server.ContextPath

/-!
# Services of a running server

Whatever runs was opened by a start, and its services are those that were bound
then: first the server's own, over them the application's, and over these the
override module's. A type is resolved in the last of the three that binds it.
-/

namespace AppServer.Server

/-! ### What runs -/

theorem mem_of_current {steps : List Step} {r : Running} (h : current steps = some r) :
    ∃ x ∈ steps, x.opened? = some r := by
  induction steps using List.reverseRecOn with
  | nil => cases h
  | append_singleton steps x ih =>
    have hlast : current (steps ++ [x]) = Step.leaves (current steps) x := by
      rw [current, List.foldl_append]
      rfl
    rw [hlast, Step.leaves] at h
    split at h
    · cases h
    · rcases Option.or_eq_some_iff.mp h with hopened | ⟨-, hheld⟩
      · exact ⟨x, List.mem_append_right _ (List.mem_singleton_self x), hopened⟩
      · obtain ⟨y, hy, hopened⟩ := ih hheld
        exact ⟨y, List.mem_append_left _ hy, hopened⟩

theorem madeFrom_of_opened? {x : Step} {r : Running} (h : x.opened? = some r) :
    x.call = .start ∧ ∃ files network, MadeFrom r x.server.config x.machine files network := by
  cases x.kind with
  | quiet hopened =>
    rw [hopened] at h
    cases h
  | ends hopened =>
    rw [hopened] at h
    cases h
  | opens made hopened hcall hstopped hserver =>
    rw [hopened, Option.some.injEq] at h
    subst h
    have hresult : x.result = x.server.start x.machine := by rw [Step.result, hcall, perform]
    rw [hresult] at hserver
    obtain ⟨e, files, hstart, -⟩ | ⟨started, files, network, hstart, hmade⟩ := start_cases hstopped x.machine
    · rw [hstart] at hserver
      have hrunning := congrArg Server.running hserver
      rw [hstopped] at hrunning
      cases hrunning
    · rw [hstart] at hserver
      cases hserver
      exact ⟨hcall, files, network, hmade⟩

/-- What runs after some calls was opened by one of them, and only its sessions have changed since. -/
theorem exists_opened_of_running {config : ServerConfig} {m : Machine} {calls : List Call} {r : Running}
    (h : (run { config } m calls).1.running = some r) :
    ∃ x ∈ trace { config } m calls, ∃ realm files network, x.opened? = some { r with realm } ∧
      MadeFrom { r with realm } config x.machine files network := by
  have hnew : Continues ({ config } : Server).running none := .none
  obtain ⟨-, hruns, -⟩ := run_advances rfl hnew m calls
  rw [h] at hruns
  change Continues (some r) (current (trace { config } m calls)) at hruns
  cases hcurrent : current (trace { config } m calls) with
  | none =>
    rw [hcurrent] at hruns
    cases hruns
  | some opened =>
    rw [hcurrent] at hruns
    cases hruns with
    | some hsame =>
      have hopening : { r with realm := opened.realm } = opened := by rw [hsame]
      obtain ⟨x, hx, hopened⟩ := mem_of_current hcurrent
      obtain ⟨-, files, network, hmade⟩ := madeFrom_of_opened? hopened
      rw [(obeys_of_mem_trace rfl hx).keeps] at hmade
      rw [← hopening] at hopened hmade
      exact ⟨x, hx, opened.realm, files, network, hopened, hmade⟩

/-! ### What is bound -/

def ownBindings (mode : Mode) (properties : Properties) (settings : ServerSettings) :
    List (TypeName × Instance Service) :=
  [(Service.modeType, ⟨0, .mode mode⟩), (Service.propertiesType, ⟨1, .properties properties⟩),
    (Service.settingsType, ⟨2, .settings settings⟩), (Service.sessionsType, ⟨3, .sessions .ofServer⟩)]

def overrideBindings (config : ServerConfig) : List (TypeName × Instance Service) :=
  stepBindings (config.overrideModule.getD [])

theorem stepBindings_ownServices (mode : Mode) (properties : Properties) (settings : ServerSettings) :
    stepBindings (ownServices mode properties settings) = ownBindings mode properties settings := rfl

theorem stepBindings_overrideModule (config : ServerConfig) :
    stepBindings (config.overrideModule.map BindingStep.install).toList = overrideBindings config := by
  rw [overrideBindings]
  cases config.overrideModule with
  | none => rfl
  | some steps =>
    rw [Option.map_some, Option.toList_some, stepBindings, BindingStep.bindings, stepBindings, List.append_nil,
      Option.getD_some]

/-- The services of an injector are the server's own, over them those of some steps, and over these the override
module's. -/
structure Layered (injector : Injector Service) (config : ServerConfig) (properties : Properties)
    (settings : ServerSettings) (steps : List (BindingStep Service)) : Prop where
  row : injector.Resolves
    (ownBindings config.mode properties settings ++ stepBindings steps ++ overrideBindings config)
  layers : ∀ type service, injector.get? type = some service ↔
    LastBound (overrideBindings config) type service ∨
      Unbound (overrideBindings config) type ∧ (LastBound (stepBindings steps) type service ∨
        Unbound (stepBindings steps) type ∧ (type, service) ∈ ownBindings config.mode properties settings)

theorem layered_of_injectorOf {config : ServerConfig} {properties : Properties} {settings : ServerSettings}
    {injector : Injector Service} (h : injectorOf config properties settings = .ok injector) :
    ∃ steps, config.application.configure properties = .ok steps ∧
      Layered injector config properties settings steps := by
  obtain ⟨row, hrow, hinjector⟩ := bind_eq_ok_iff.mp h
  rw [bindingSteps] at hrow
  split at hrow
  · cases hrow
  · next steps hsteps =>
    cases hrow
    have hresolves := resolves_build (ownServices config.mode properties settings ++ steps ++
      (config.overrideModule.map BindingStep.install).toList)
    rw [Except.ok.inj hinjector, stepBindings_append, stepBindings_append, stepBindings_ownServices,
      stepBindings_overrideModule] at hresolves
    have hown : ((ownBindings config.mode properties settings).map (·.1)).Nodup := by
      change [Service.modeType, Service.propertiesType, Service.settingsType, Service.sessionsType].Nodup
      decide
    refine ⟨steps, hsteps, hresolves, fun type service => ?_⟩
    rw [hresolves.last, lastBound_append_iff, lastBound_append_iff, lastBound_iff_mem hown]

/-- Steps bind as if their modules were written out in place, the last binding of a type counts, and nothing else
that an injector tells says otherwise. The injector of a server that runs, after whatever calls, is built from the
server's own services, then the application's, then the override module's, as of the start that opened it. -/
theorem last_binding_counts :
    (∀ (α : Type) (steps : List (BindingStep α)), (runSteps steps {}).1.build.Resolves (stepBindings steps)) ∧
    ∀ (config : ServerConfig) (m : Machine) (calls : List Call) (r : Running),
      (run { config } m calls).1.running = some r →
      ∃ x ∈ trace { config } m calls, ∃ realm properties steps, x.opened? = some { r with realm } ∧
        loadProperties config x.machine = .ok properties ∧ ServerSettings.ofProperties properties = .ok r.settings ∧
        config.application.configure properties = .ok steps ∧
        Layered r.injector config properties r.settings steps := by
  refine ⟨fun α steps => resolves_build steps, fun config m calls r hrunning => ?_⟩
  obtain ⟨x, hx, realm, files, network, hopened, hmade⟩ := exists_opened_of_running hrunning
  obtain ⟨properties, router, hload, hsettings, -, hinjector, -, -⟩ := hmade.parts
  obtain ⟨steps, hsteps, hlayered⟩ := layered_of_injectorOf hinjector
  exact ⟨x, hx, realm, properties, steps, hopened, hload, hsettings, hsteps, hlayered⟩

def reboundTexts : ServerConfig where
  application :=
    { configure := fun _ => .ok [Service.bindAs 10 (.text "tea"), .install [Service.bindAs 11 (.text "milk")],
        Service.bindAs 12 (.greeter .polite)]
      routes := fun _ => .ok [] }
  mode := .test
  port := some 8080
  overrideModule := some [Service.bindAs 20 (.text "rum"), .install [Service.bindAs 21 (.text "salt")],
    Service.bindAs 22 (.mode .dev)]
  overrides := ({} : Std.TreeMap String String).insert "server.host" "::1"

theorem last_binding_counts_reboundTexts : ∃ r,
    (run { config := reboundTexts } emptyMachine [.start]).1.running = some r ∧
    r.injector.get? Service.textType = some ⟨21, .text "salt"⟩ ∧
    r.injector.get? Service.modeType = some ⟨22, .mode .dev⟩ ∧
    r.injector.get? Service.greeterType = some ⟨12, .greeter .polite⟩ ∧
    r.injector.get? Service.sessionsType = some ⟨3, .sessions .ofServer⟩ := by
  have hread : settingsRead? reboundTexts = some (some "::1", "") := by decide +kernel
  obtain ⟨properties, settings, sink, hload, hsettings, hsink, hhost, hpath⟩ := exists_of_settingsRead? hread
  obtain ⟨injector, hinjector⟩ : ∃ injector, injectorOf reboundTexts properties settings = .ok injector := ⟨_, rfl⟩
  have hrouter : routerOf reboundTexts settings injector = .ok ⟨[]⟩ := by
    have hroutes : reboundTexts.application.routes injector = .ok [] := rfl
    simp only [routerOf, hroutes, hpath]
    rfl
  have htaken : takePort reboundTexts settings emptyMachine.network =
      .ok (8080, { nextFree := 49152, taken := [8080] }) := by
    have hbind : emptyMachine.network.bind "::1" 8080 = .ok (8080, { nextFree := 49152, taken := [8080] }) := by
      decide +kernel
    have hport : (reboundTexts.port.or settings.port).getD defaultPort = 8080 := rfl
    simp only [takePort, hport, hhost, Option.getD_some, hbind]
  obtain ⟨r, after, hstart, -⟩ := start_of_parts hload hsettings hsink hinjector hrouter htaken
  have hrunning : (run { config := reboundTexts } emptyMachine [.start]).1.running = some r := by
    rw [run, run, perform, hstart]
  obtain ⟨x, -, -, properties, steps, -, -, -, hconfigure, hlayered⟩ :=
    last_binding_counts.2 reboundTexts emptyMachine [.start] r hrunning
  cases hconfigure
  refine ⟨r, hrunning, ?_, ?_, ?_, ?_⟩
  · refine (hlayered.layers _ _).mpr (.inl ⟨[(Service.textType, ⟨20, .text "rum"⟩)],
      [(Service.modeType, ⟨22, .mode .dev⟩)], rfl, ?_⟩)
    decide
  · exact (hlayered.layers _ _).mpr (.inl ⟨[(Service.textType, ⟨20, .text "rum"⟩),
      (Service.textType, ⟨21, .text "salt"⟩)], [], rfl, fun _ h => absurd h List.not_mem_nil⟩)
  · refine (hlayered.layers _ _).mpr (.inr ⟨?_, .inl ⟨[(Service.textType, ⟨10, .text "tea"⟩),
      (Service.textType, ⟨11, .text "milk"⟩)], [], rfl, fun _ h => absurd h List.not_mem_nil⟩⟩)
    decide
  · refine (hlayered.layers _ _).mpr (.inr ⟨?_, .inr ⟨?_, ?_⟩⟩)
    · decide
    · decide
    · simp [ownBindings]

end AppServer.Server

import AppServer.Harness.Browser
import AppServer.Proofs.Http.CookieHeader
import AppServer.Proofs.Http.Holdings
import AppServer.Proofs.Http.SessionCookie

/-!
# The session cookie in a jar

A jar that takes in an issued session cookie holds that cookie for its host, and
what it sends there is read as that one cookie. Responses without cookies leave
it as it is.
-/

namespace AppServer.Harness

open Http

/-! ### One cookie in a header -/

theorem isBlank_of_isSymbol {c : Char} (h : Text.Base64.IsSymbol c) : Text.isBlank c = false := by
  rcases h with halnum | rfl | rfl
  · exact Text.isBlank_of_isAlphanum halnum
  · decide
  · decide

variable {name id : String} (hname : ∀ c ∈ name.toList, Text.Base64.IsSymbol c)
  (hid : ∀ c ∈ id.toList, Text.Base64.IsSymbol c)

include hname hid

theorem cookieOfItem?_pair : cookieOfItem? (name ++ "=" ++ id).toList = some (name, id) := by
  have hplain : ∀ c ∈ (name ++ "=" ++ id).toList, Text.isBlank c = false := by
    intro c hc
    simp only [String.toList_append, List.mem_append] at hc
    rcases hc with (hc | hc) | hc
    · exact isBlank_of_isSymbol (hname c hc)
    · rw [List.mem_singleton.mp hc]
      decide
    · exact isBlank_of_isSymbol (hid c hc)
  have hequals : '=' ∉ name.toList := by
    intro hmem
    have hsymbol := hname '=' hmem
    revert hsymbol
    unfold Text.Base64.IsSymbol
    decide
  have hsays : ItemSays ([] ++ (name ++ "=" ++ id).toList ++ []) (some (name, id)) :=
    .pair (fun _ hc => absurd hc List.not_mem_nil) (fun _ hc => absurd hc List.not_mem_nil) hequals
      ⟨fun c hc => hplain c (List.mem_of_head? hc), fun c hc => hplain c (List.mem_of_getLast? hc)⟩
  rw [List.nil_append, List.append_nil] at hsays
  exact cookieOfItem?_eq_iff.mpr hsays

theorem cookiesOfText_pair : cookiesOfText (name ++ "=" ++ id) = [(name, id)] := by
  have hwhole : ∀ item ∈ [(name ++ "=" ++ id).toList], ';' ∉ item := by
    rw [List.forall_mem_singleton]
    exact plain_pair hname hid
  have hcut := Text.cutAll_intercalate (List.cons_ne_nil _ _) hwhole
  rw [List.intercalate_singleton] at hcut
  rw [cookiesOfText, hcut, List.filterMap_cons, cookieOfItem?_pair hname hid, List.filterMap_nil]

theorem readable_pair : Readable (Bytes.ofText (name ++ "=" ++ id)) := by
  refine readable_of_visible fun c hc => ?_
  simp only [String.toList_append, List.mem_append] at hc
  rcases hc with (hc | hc) | hc
  · exact visible_of_isSymbol (hname c hc)
  · rw [List.mem_singleton.mp hc]
    exact ⟨by decide, by decide⟩
  · exact visible_of_isSymbol (hid c hc)

/-! ### Taking in the cookie -/

theorem take_issueCookie (host : String) :
    ({} : CookieJar).take host (issueCookie name id) = ⟨[(host, (name, id))]⟩ := by
  have hwhole : ∀ item ∈ [(name ++ "=" ++ id).toList, " Path=/".toList, " HttpOnly".toList, " SameSite=Lax".toList],
      ';' ∉ item := by
    rw [List.forall_mem_cons]
    exact ⟨plain_pair hname hid, by decide⟩
  have hcut : Text.cutAll ';' (issueCookie name id).toList =
      [(name ++ "=" ++ id).toList, " Path=/".toList, " HttpOnly".toList, " SameSite=Lax".toList] := by
    rw [← Text.cutAll_intercalate (List.cons_ne_nil _ _) hwhole, issueCookie, String.toList_append]
    rfl
  have hexpired : CookieJar.isExpired ([" Path=/".toList, " HttpOnly".toList, " SameSite=Lax".toList].filterMap
      cookieOfItem?) = false := by decide
  simp only [CookieJar.take, hcut, cookieOfItem?_pair hname hid, hexpired, Bool.false_eq_true, if_false]
  rfl

theorem readable_issueCookie : Readable (Bytes.ofText (issueCookie name id)) := by
  refine readable_of_visible fun c hc => ?_
  simp only [issueCookie, String.toList_append, List.mem_append] at hc
  rcases hc with ((hc | hc) | hc) | hc
  · exact visible_of_isSymbol (hname c hc)
  · exact visible_of_all (by decide) c hc
  · exact visible_of_isSymbol (hid c hc)
  · exact visible_of_all (by decide) c hc

omit hname hid

/-! ### Jars with at most one cookie -/

/-- The jar that holds at most the session cookie, for one host. -/
def jarOf (host name : String) (id? : Option SessionId) : CookieJar :=
  ⟨(id?.map fun id => (host, (name, id))).toList⟩

theorem headerText?_jarOf (host name : String) (id? : Option SessionId) :
    (jarOf host name id?).headerText? host = id?.map fun id => name ++ "=" ++ id := by
  cases id? with
  | none => rfl
  | some id => simp [jarOf, CookieJar.headerText?, CookieJar.cookies, Text.join]

theorem all_append_self (headers : Headers) (name : String) (value : Bytes) :
    Headers.all (headers ++ [(name, value)]) name = headers.all name ++ [value] := by
  simp [Headers.all]

variable {σ : Type} {b : Browser CookieJar} {u : Url} {name : String} {id? : Option SessionId}

theorem cookies_requestFor {message : Browser.Message} (hmessage : message.headers.all "cookie" = [])
    (hname : ∀ c ∈ name.toList, Text.Base64.IsSymbol c)
    (hid : ∀ id, id? = some id → ∀ c ∈ id.toList, Text.Base64.IsSymbol c)
    (hjar : b.jar = jarOf (Browser.cookieHost u) name id?) :
    (b.requestFor u message).headers.cookies = (id?.map fun id => (name, id)).toList := by
  have hfirst : message.headers.first? "cookie" = none := by rw [Headers.first?, hmessage, List.head?_nil]
  cases id? with
  | none =>
    have hall : (b.requestFor u message).headers.all "cookie" = [] := by
      simp only [Browser.requestFor, hfirst, hjar, headerText?_jarOf, Option.map_none, List.append_nil, hmessage]
    rw [Headers.cookies, hall]
    rfl
  | some id =>
    have hall : (b.requestFor u message).headers.all "cookie" = [Bytes.ofText (name ++ "=" ++ id)] := by
      simp only [Browser.requestFor, hfirst, hjar, headerText?_jarOf, Option.map_some]
      rw [all_append_self, hmessage, List.nil_append]
    have hread := readable?_eq_some_iff.mpr ⟨readable_pair hname (hid id rfl), rfl⟩
    rw [Headers.cookies, hall, List.filterMap_cons, hread]
    simp only [List.filterMap_nil, List.flatMap_cons, List.flatMap_nil, List.append_nil,
      cookiesOfText_pair hname (hid id rfl)]
    rfl

/-- The cookie is the only header that a message gets. -/
theorem text?_requestFor {message : Browser.Message} {header : String} (hheader : lowerName header ≠ "cookie") :
    (b.requestFor u message).headers.text? header = message.headers.text? header := by
  have hcookie (text : String) : Headers.all [("cookie", Bytes.ofText text)] header = [] := by
    have hlower : lowerName "cookie" = "cookie" := by decide
    simp [Headers.all, hlower, hheader.symm]
  have hsplit (more : Headers) :
      (message.headers ++ more).all header = message.headers.all header ++ more.all header := by
    simp [Headers.all]
  have hall : (b.requestFor u message).headers.all header = message.headers.all header := by
    simp only [Browser.requestFor, hsplit]
    split
    · rw [hcookie, List.append_nil]
    · exact List.append_nil _
  rw [Headers.text?, Headers.first?, hall]
  rfl

theorem client_eq (transport : Transport σ) (b : Browser CookieJar) (u : Url) (message : Browser.Message)
    {world after : σ} {response : Response} (h : transport u (b.requestFor u message) world = (some response, after)) :
    transport.client b.jar b.timeout u message world = ⟨[⟨u, response.headers, 0⟩],
      .ok ⟨response.status, response.headers, Bytes.toTextLenient response.body⟩, after⟩ := by
  have hrequest : Browser.requestFor { jar := b.jar, timeout := b.timeout } u message = b.requestFor u message := rfl
  simp only [Transport.client, hrequest, h]

def cookieTexts (response : Response) : List String := (response.headers.all "set-cookie").filterMap readable?

theorem receive_eq (response : Response) : b.receive u response =
    { b with jar := (cookieTexts response).foldl (fun jar text => jar.take (Browser.cookieHost u) text) b.jar } := rfl

theorem receive_plain {response : Response} (hplain : response.Plain) : b.receive u response = b := by
  rw [receive_eq, cookieTexts, hplain]
  rfl

theorem receive_issued {response : Response} (hplain : response.Plain)
    (hname : ∀ c ∈ name.toList, Text.Base64.IsSymbol c) {id : SessionId}
    (hid : ∀ c ∈ id.toList, Text.Base64.IsSymbol c) (hjar : b.jar = jarOf (Browser.cookieHost u) name none) :
    b.receive u (response.addHeader "set-cookie" (Bytes.ofText (issueCookie name id))) =
      { b with jar := jarOf (Browser.cookieHost u) name (some id) } := by
  have hall : (response.addHeader "set-cookie" (Bytes.ofText (issueCookie name id))).headers.all "set-cookie" =
      [Bytes.ofText (issueCookie name id)] := by
    rw [Response.addHeader, all_append_self, hplain, List.nil_append]
  have hread := readable?_eq_some_iff.mpr ⟨readable_issueCookie hname hid, rfl⟩
  have hempty : b.jar = {} := hjar
  rw [receive_eq, cookieTexts, hall, List.filterMap_cons, hread]
  simp only [List.filterMap_nil, List.foldl_cons, List.foldl_nil, hempty, take_issueCookie hname hid]
  rfl

theorem header?_jarOf (hjar : b.jar = jarOf (Browser.cookieHost u) name id?) (now : Nat) :
    Jar.header? b.jar u now = id?.map fun id => Bytes.ofText (name ++ "=" ++ id) := by
  show (b.jar.headerText? (Browser.cookieHost u)).map Bytes.ofText = _
  rw [hjar, headerText?_jarOf, Option.map_map]
  rfl

theorem cookie?_jarOf {url : String} (hurl : Browser.urlOf url = .ok u)
    (hname : ∀ c ∈ name.toList, Text.Base64.IsSymbol c)
    (hid : ∀ id, id? = some id → ∀ c ∈ id.toList, Text.Base64.IsSymbol c)
    (hjar : b.jar = jarOf (Browser.cookieHost u) name id?) (now : Nat) : b.cookie? url name now = .ok id? := by
  rw [Browser.cookie?, Browser.cookies, hurl]
  simp only [bind, Except.bind, header?_jarOf hjar]
  cases id? with
  | none => simp
  | some id =>
    have hread := readable?_eq_some_iff.mpr ⟨readable_pair hname (hid id rfl), rfl⟩
    simp only [Option.map_some, cookiesOfHeader, hread, Option.getD_some, cookieMap,
      cookiesOfText_pair hname (hid id rfl), List.foldl_cons, List.foldl_nil]
    simp

end AppServer.Harness

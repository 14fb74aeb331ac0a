import AppServer.Proofs.Harness.Browsing
import AppServer.Proofs.Harness.DatedJar
import AppServer.Proofs.Harness.Jar
import Mathlib.Data.List.Induction

/-!
# Two readings of a cookie header

A browser tells which cookies it would send, and a server looks for one in the
request that it gets. Both find the same names in a header. Of several cookies
with one name the browser tells the last and the server takes the first, so they
agree on a name exactly when its first and its last cookie have one value.
-/

namespace AppServer.Harness

open Http

/-- The last pair of a name has a value. -/
def LastPair (pairs : List (String × String)) (name value : String) : Prop :=
  ∃ before after, pairs = before ++ (name, value) :: after ∧ ∀ pair ∈ after, pair.1 ≠ name

theorem firstPair_reverse_iff {pairs : List (String × String)} {name value : String} :
    FirstPair pairs.reverse name value ↔ LastPair pairs name value := by
  constructor
  · rintro ⟨before, after, hpairs, hbefore⟩
    refine ⟨after.reverse, before.reverse, ?_, fun pair hpair => hbefore pair (List.mem_reverse.mp hpair)⟩
    rw [← List.reverse_reverse pairs, hpairs, List.reverse_append, List.reverse_cons, List.append_assoc,
      List.singleton_append]
  · rintro ⟨before, after, rfl, hafter⟩
    refine ⟨after.reverse, before.reverse, ?_, fun pair hpair => hafter pair (List.mem_reverse.mp hpair)⟩
    rw [List.reverse_append, List.reverse_cons, List.append_assoc, List.singleton_append]

theorem getElem?_foldl_insert (cookies : List Cookie) (name : String) :
    (cookies.foldl (fun held cookie => held.insert cookie.1 cookie.2) ({} : Std.TreeMap String String))[name]? =
      cookies.reverse.lookup name := by
  induction cookies using List.reverseRecOn with
  | nil => rfl
  | append_singleton cookies cookie ih =>
    obtain ⟨written, value⟩ := cookie
    rw [List.foldl_append, List.foldl_cons, List.foldl_nil, Std.TreeMap.getElem?_insert, ih, List.reverse_append,
      List.reverse_singleton, List.singleton_append, List.lookup_cons]
    by_cases hname : written = name
    · simp [hname]
    · simp [hname, Std.LawfulEqCmp.compare_eq_iff_eq, beq_eq_false_iff_ne.mpr (Ne.symm hname)]

theorem cookies_of_header {headers : Headers} {value : Bytes} (h : headers.all "cookie" = [value]) :
    headers.cookies = cookiesOfText ((readable? value).getD "") := by
  rw [Headers.cookies, h, List.filterMap_cons]
  cases readable? value with
  | none => rfl
  | some text => exact List.append_nil _

theorem getElem?_cookiesOfHeader {headers : Headers} {value : Bytes} (h : headers.all "cookie" = [value])
    (name : String) : (cookiesOfHeader value)[name]? = headers.cookies.reverse.lookup name := by
  rw [cookiesOfHeader, cookieMap, getElem?_foldl_insert, cookies_of_header h]

theorem lookup_reverse_eq_none_iff (pairs : List (String × String)) (name : String) :
    pairs.reverse.lookup name = none ↔ pairs.lookup name = none := by
  rw [List.lookup_eq_none_iff, List.lookup_eq_none_iff]
  simp only [List.mem_reverse]

theorem header?_of_headerText {b : Browser CookieJar} {u : Url} {text : String}
    (hjar : b.jar.headerText? (Browser.cookieHost u) = some text) (now : Nat) :
    Jar.header? b.jar u now = some (Bytes.ofText text) := by
  show (b.jar.headerText? (Browser.cookieHost u)).map Bytes.ofText = _
  rw [hjar]
  rfl

theorem all_requestFor {b : Browser CookieJar} {u : Url} {text : String} {message : Browser.Message}
    (hmessage : message.headers.all "cookie" = [])
    (hjar : b.jar.headerText? (Browser.cookieHost u) = some text) :
    (b.requestFor u message).headers.all "cookie" = [Bytes.ofText text] := by
  have hfirst : message.headers.first? "cookie" = none := by rw [Headers.first?, hmessage, List.head?_nil]
  simp only [Browser.requestFor, hfirst, hjar]
  rw [all_append_self, hmessage, List.nil_append]

/-- What is told of a name and what is taken for it in the cookies of a request. -/
structure Readings (headers : Headers) (name : String) (told : Option String) : Prop where
  last : ∀ value, told = some value ↔ LastPair headers.cookies name value
  first : ∀ value, headers.cookie? name = some value ↔ FirstPair headers.cookies name value
  missing : told = none ↔ headers.cookie? name = none
  agree : told = headers.cookie? name ↔
    ∀ first last, FirstPair headers.cookies name first → LastPair headers.cookies name last → first = last

theorem readings_of_header {headers : Headers} {value : Bytes} (h : headers.all "cookie" = [value]) (name : String) :
    Readings headers name (cookiesOfHeader value)[name]? := by
  have htold (found : String) : (cookiesOfHeader value)[name]? = some found ↔ LastPair headers.cookies name found := by
    rw [getElem?_cookiesOfHeader h, lookup_eq_some_iff, firstPair_reverse_iff]
  have htaken (found : String) : headers.cookie? name = some found ↔ FirstPair headers.cookies name found :=
    lookup_eq_some_iff
  have hmissing : (cookiesOfHeader value)[name]? = none ↔ headers.cookie? name = none := by
    rw [getElem?_cookiesOfHeader h, lookup_reverse_eq_none_iff, Headers.cookie?]
  refine ⟨htold, htaken, hmissing, ?_⟩
  constructor
  · intro hsame first last hfirst hlast
    have heq : some last = some first := by rw [← (htold last).mpr hlast, hsame, (htaken first).mpr hfirst]
    exact (Option.some.inj heq).symm
  · intro hone
    cases hfirst : headers.cookie? name with
    | none => exact hmissing.mpr hfirst
    | some first =>
      cases hlast : (cookiesOfHeader value)[name]? with
      | none =>
        rw [hmissing.mp hlast] at hfirst
        cases hfirst
      | some last => rw [hone first last ((htaken first).mp hfirst) ((htold last).mp hlast)]

/-- In every cookie header, whatever it holds, a browser tells the last cookie of a name and a server takes the first;
so both find the same names, and the same value exactly when these two have one value. This holds of what a browser
tells of a URL, whatever kind of jar it has, and of the requests that it sends there with a plain one. -/
theorem cookie_readings_agree_iff (name : String) :
    (∀ (headers : Headers) (value : Bytes), headers.all "cookie" = [value] →
      Readings headers name (cookiesOfHeader value)[name]?) ∧
    (∀ (J : Type) [Jar J] (b : Browser J) (url : String) (u : Url) (value : Bytes) (now : Nat),
      Browser.urlOf url = .ok u → Jar.header? b.jar u now = some value →
      ∃ told, b.cookie? url name now = .ok told ∧
        ∀ headers : Headers, headers.all "cookie" = [value] → Readings headers name told) ∧
    ∀ (b : Browser CookieJar) (url : String) (u : Url) (text : String) (message : Browser.Message) (now : Nat),
      Browser.urlOf url = .ok u → b.jar.headerText? (Browser.cookieHost u) = some text →
      message.headers.all "cookie" = [] →
      ∃ told, b.cookie? url name now = .ok told ∧ Readings (b.requestFor u message).headers name told := by
  refine ⟨fun headers value h => readings_of_header h name, ?_, ?_⟩
  · intro J _ b url u value now hurl hjar
    exact ⟨_, Browser.cookie?_of_header hurl hjar name, fun headers h => readings_of_header h name⟩
  · intro b url u text message now hurl hjar hmessage
    refine ⟨_, Browser.cookie?_of_header hurl (header?_of_headerText hjar now) name, ?_⟩
    exact readings_of_header (all_requestFor hmessage hjar) name

/-- What a site sets: two cookies of one name for different paths, and another one. -/
def twoPaths : Headers :=
  [("set-cookie", Bytes.ofText "sid=a; Path=/shop"), ("set-cookie", Bytes.ofText "id=1; Path=/"),
    ("set-cookie", Bytes.ofText "sid=b; Path=/")]

def visitor (u : Url) : Browser DatedJar :=
  Browser.takeIn { jar := Jar.empty, timeout := defaultTimeout } [⟨u, twoPaths, 0⟩]

def bothPaths : Bytes := Bytes.ofText "sid=a; id=1; sid=b"

theorem visitor_sends : ∃ u, Browser.urlOf "http://[::1]/shop" = .ok u ∧
    Jar.header? (visitor u).jar u 0 = some bothPaths := by
  have hread : (Browser.urlOf "http://[::1]/shop").toOption.map (fun u => (Browser.cookieHost u, u.path)) =
      some ("[::1]", "/shop") := by decide +kernel
  obtain ⟨u, hu, hplace⟩ := Option.map_eq_some_iff.mp hread
  obtain ⟨hhost, hpath⟩ := Prod.mk.inj hplace
  refine ⟨u, ok_of_toOption hu, ?_⟩
  have hjar : (visitor u).jar = DatedJar.take ⟨[]⟩ "[::1]" 0 ((twoPaths.all "set-cookie").filterMap readable?) :=
    DatedJar.foldl_take_singleton hhost
  rw [hjar, DatedJar.header?_eq hhost hpath]
  decide +kernel

theorem cookies_bothPaths :
    cookiesOfText ((readable? bothPaths).getD "") = [("sid", "a"), ("id", "1"), ("sid", "b")] := by
  decide +kernel

theorem cookie_readings_agree_iff_twoPaths : ∃ u,
    Browser.urlOf "http://[::1]/shop" = .ok u ∧
    Jar.header? (visitor u).jar u 0 = some bothPaths ∧
    (visitor u).cookie? "http://[::1]/shop" "id" 0 = .ok (Headers.cookie? [("cookie", bothPaths)] "id") := by
  obtain ⟨u, hurl, hjar⟩ := visitor_sends
  obtain ⟨told, htold, hreadings⟩ :=
    (cookie_readings_agree_iff "id").2.1 DatedJar (visitor u) "http://[::1]/shop" u bothPaths 0 hurl hjar
  have hread : Readings [("cookie", bothPaths)] "id" told := hreadings _ rfl
  have hcookies : Headers.cookies [("cookie", bothPaths)] = [("sid", "a"), ("id", "1"), ("sid", "b")] :=
    (cookies_of_header rfl).trans cookies_bothPaths
  refine ⟨u, hurl, hjar, ?_⟩
  rw [htold, hread.agree.mpr]
  rw [hcookies]
  intro first last hfirst hlast
  rw [← lookup_eq_some_iff] at hfirst
  rw [← firstPair_reverse_iff, ← lookup_eq_some_iff] at hlast
  exact Option.some.inj (hfirst.symm.trans hlast)

/-- Of two cookies of one name, the browser tells the one and the server takes the other. -/
theorem repeated_cookie_read_differently : ∃ u,
    Browser.urlOf "http://[::1]/shop" = .ok u ∧
    Jar.header? (visitor u).jar u 0 = some bothPaths ∧
    (visitor u).cookie? "http://[::1]/shop" "sid" 0 = .ok (some "b") ∧
    Headers.cookie? [("cookie", bothPaths)] "sid" = some "a" := by
  obtain ⟨u, hurl, hjar⟩ := visitor_sends
  have hheader : Headers.all [("cookie", bothPaths)] "cookie" = [bothPaths] := rfl
  refine ⟨u, hurl, hjar, ?_, ?_⟩
  · rw [Browser.cookie?_of_header hurl hjar, getElem?_cookiesOfHeader hheader, cookies_of_header hheader,
      cookies_bothPaths]
    rfl
  · rw [Headers.cookie?, cookies_of_header hheader, cookies_bothPaths]
    rfl

end AppServer.Harness

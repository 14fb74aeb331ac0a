import AppServer.Config.Settings
import AppServer.Proofs.Except
import AppServer.Proofs.Text.Cut

/-!
# Accepted settings

Properties are accepted as settings exactly when each of the four values is, and
the settings are those values in their normal forms.
-/

namespace AppServer.ServerSettings

theorem ofProperties_eq_ok_iff {p : Properties} {s : ServerSettings} :
    ofProperties p = .ok s ↔ hostOf p = .ok s.host ∧ p.getPort portKey = .ok s.port ∧
      normalizeContextPath (p.getD contextPathKey "") = .ok s.contextPath ∧
      normalizeCookiePrefix (p.getD cookiePrefixKey defaultCookiePrefix) = .ok s.cookiePrefix := by
  unfold ofProperties
  simp only [bind_eq_ok_iff, Except.ok.injEq]
  constructor
  · rintro ⟨host, hhost, port, hport, path, hpath, cookie, hcookie, rfl⟩
    exact ⟨hhost, hport, hpath, hcookie⟩
  · rintro ⟨hhost, hport, hpath, hcookie⟩
    exact ⟨s.host, hhost, s.port, hport, s.contextPath, hpath, s.cookiePrefix, hcookie, rfl⟩

/-- A context path in normal form: empty, or with a slash at its start and none at its end, and without blanks
around it. -/
structure NormalPath (path : String) : Prop where
  slashes : path = "" ∨ (path.toList.head? = some '/' ∧ path.toList.getLast? ≠ some '/')
  trimmed : Text.Trimmed path.toList

theorem normalPath_of_normalizeContextPath {raw path : String} (h : normalizeContextPath raw = .ok path) :
    NormalPath path := by
  simp only [normalizeContextPath] at h
  split at h
  · cases h
    exact ⟨.inl rfl, Text.trimmed_of_forall fun c hc => absurd hc List.not_mem_nil⟩
  split at h
  · cases h
  · next hstart =>
    split at h
    · cases h
    · next hend =>
      cases h
      exact ⟨.inr ⟨Decidable.not_not.mp hstart, hend⟩, Text.trimmed_trim raw⟩

theorem normalizeContextPath_eq_ok {raw path : String} (h : normalizeContextPath raw = .ok path) :
    path = "" ∨ path.toList.head? = some '/' :=
  (normalPath_of_normalizeContextPath h).slashes.imp_right And.left

theorem normalizeCookiePrefix_eq_ok_iff {raw token : String} :
    normalizeCookiePrefix raw = .ok token ↔
      Text.trim raw = token ∧ token ≠ "" ∧ ∀ c ∈ token.toList, isPrefixChar c = true := by
  simp only [normalizeCookiePrefix]
  split
  · next h =>
    rw [Except.ok.injEq]
    constructor
    · rintro rfl
      exact ⟨rfl, h.1, List.all_eq_true.mp h.2⟩
    · exact fun hout => hout.1
  · next h =>
    constructor
    · exact fun hout => nomatch hout
    · rintro ⟨rfl, hne, hall⟩
      exact absurd ⟨hne, List.all_eq_true.mpr hall⟩ h

end AppServer.ServerSettings
